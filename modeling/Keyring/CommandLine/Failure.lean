/-
Module: Keyring.CommandLine.Failure
Purpose: Why a command fails, and the text in which it says so: a headline, then the causes behind
  it, numbered if there are several.
Main exports: Failure, Failure.headline, Failure.causes, Failure.text
-/
import Keyring.Error
import Keyring.Files

namespace Keyring.CommandLine

/-- Why a command fails. -/
inductive Failure where
  /-- A number in the key list is not that of a key. -/
  | unknownKey (code : UInt8)
  | nothingSelected
  | cannotRead (path : String) (cause : OsError)
  | badContainer (path : String) (cause : KeyError)
  /-- A selected key is in none of the files. -/
  | keyAbsent (id : KeyId)
  | cannotGenerate (cause : KeyError)
  /-- A failure of the store itself. -/
  | keys (cause : KeyError)
  | cannotCreate (path : String) (cause : OsError)
  | cannotWrite (path : String) (cause : OsError)
deriving DecidableEq

namespace Failure

def headline : Failure → String
  | .unknownKey _ => "invalid --keylist entry"
  | .nothingSelected => "No keys selected: use -r, -w, -d, --nuke or --keylist"
  | .cannotRead path _ => s!"cannot read {path}"
  | .badContainer path _ => s!"error reading keys from {path}"
  | .keyAbsent id =>
      s!"The {id.name} key is required but not in any of the provided key files"
  | .cannotGenerate _ => "failed to generate keys"
  | .keys cause => cause.message
  | .cannotCreate path _ => s!"cannot create {path}"
  | .cannotWrite path _ => s!"cannot write {path}"

/-- The causes behind the headline, outermost first. -/
def causes : Failure → List String
  | .unknownKey code => [(FormatError.unknownType code).message]
  | .nothingSelected | .keyAbsent _ => []
  | .cannotRead _ cause | .cannotCreate _ cause | .cannotWrite _ cause => [cause.message]
  | .badContainer _ cause | .cannotGenerate cause => cause.message :: cause.causes
  | .keys cause => cause.causes

/-- The causes as lines: a single one stands alone, several are numbered from zero. -/
def causeLines : List String → List String
  | [] => []
  | [cause] => ["", "Caused by:", "    " ++ cause]
  | causes => "" :: "Caused by:" :: causes.zipIdx.map (fun (cause, i) => s!"    {i}: {cause}")

/-- The text of a failure. -/
def text (failure : Failure) : String :=
  String.join ((("Error: " ++ failure.headline) :: causeLines failure.causes).map (· ++ "\n"))

end Failure

end Keyring.CommandLine
