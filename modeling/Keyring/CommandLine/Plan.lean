/-
Module: Keyring.CommandLine.Plan
Purpose: What each command does with the files that it can read: the lines that it prints and then
  either the end of the run or one file to write.  A plan never changes a file itself, so nothing
  is written before everything else has succeeded.
Main exports: Selection.mask, readFiles, listing, inspect, extract, generate, Plan, plan
-/
import Keyring.CommandLine.Arguments
import Keyring.CommandLine.Failure
import Keyring.Rsa.Primes
import Keyring.Store.Export
import Keyring.Store.Generate
import Keyring.Store.Import
import Keyring.Store.Lookup

namespace Keyring.CommandLine

/-- A line of output: of the log, or of the answer. -/
inductive Line where
  | event (event : Event)
  | text (text : String)
deriving DecidableEq

/-- How a plan ends. -/
inductive Ending where
  | done
  | failed (cause : Failure)
  | write (path : String) (data : Bytes)
deriving DecidableEq

/-- What a command prints, and how it ends. -/
structure Plan where
  lines : List Line
  ending : Ending
deriving DecidableEq

namespace Plan

/-- A plan that fails at once. -/
def failing (cause : Failure) : Plan := ⟨[], .failed cause⟩

/-- Print lines before a plan. -/
def after (lines : List Line) (plan : Plan) : Plan :=
  { plan with lines := lines ++ plan.lines }

/-- Print the events of an operation, and go on with its answer and the state that it leaves. -/
def running {σ α : Type} (outcome : Outcome σ α) (wrap : KeyError → Failure)
    (next : α → σ → Plan) : Plan :=
  after (outcome.log.map .event) <|
    match outcome.result with
    | .ok answer => next answer outcome.state
    | .error cause => failing (wrap cause)

end Plan

/-- How a command reads a file. -/
abbrev ReadFile := String → Except OsError Bytes

/-- The keys selected, unless there are none or a number stands for none. -/
def Selection.mask (selection : Selection) : Except Failure KeyMask := do
  let listed ← selection.keylist.mapM fun code =>
    match KeyId.ofCode? code with
    | some id => .ok id
    | none => .error (Failure.unknownKey code)
  let part (chosen : Bool) (mask : KeyMask) : KeyMask := if chosen then mask else KeyMask.empty
  let remover := KeyMask.single (.hmac .authDelete)
  let mask :=
    part selection.read .read ∪ part selection.write .write ∪
      part selection.delete (.read ∪ remover) ∪ part selection.nuke remover ∪ KeyMask.ofIds listed
  if mask.isEmpty then .error .nothingSelected else .ok mask

/-- Read the keys of a mask from a container that stood in a file. -/
def readContainer (path : String) (data : Bytes) (mask : KeyMask) : Op Store Unit := do
  Store.importContainer data mask
  Op.emit (.readFile data.length path)

/-- Read the keys of a mask from files, one after the other. -/
def readFiles (readFile : ReadFile) (mask : KeyMask) (next : Store → Plan) :
    List String → Store → Plan
  | [], store => next store
  | path :: rest, store =>
      match readFile path with
      | .error cause => .failing (.cannotRead path cause)
      | .ok data =>
          .running (readContainer path data mask store) (.badContainer path)
            (fun _ store => readFiles readFile mask next rest store)

/-- The size of a key as listed.  Every key is first looked up as an RSA key. -/
def sizeText (store : Store) (id : KeyId) : Op Unit String := fun _ =>
  match store.lookupRsa id () with
  | ⟨.ok key, _, log⟩ => ⟨.ok s!"{key.modulusBits} bits", (), log⟩
  | ⟨.error _, _, log⟩ =>
      let second := (do
        let key ← store.lookupHmac id
        return s!"{key.bytes.length} bytes" : Op Unit String) ()
      { second with log := log ++ second.log }

/-- The line of a key in a listing: its code, its kind, its name and its size, in columns. -/
def describe (store : Store) (id : KeyId) : Op Unit String := do
  let size ← sizeText store id
  return "  ".intercalate
    [Text.padLeft ' ' 2 (toString id.code), Text.padRight 11 id.kind.name,
      Text.padRight 32 id.name, size]

/-- The lines of some keys. -/
def listing (store : Store) : List KeyId → Plan
  | [] => ⟨[], .done⟩
  | id :: rest =>
      .running (describe store id ()) .keys
        (fun line _ => .after [.text line] (listing store rest))

/-- The keys that a listing shows. -/
def listedMask : KeyMask := KeyMask.user ∪ KeyMask.single (.rsa .rootPublic)

/-- List the keys of a file. -/
def inspect (readFile : ReadFile) (file : String) : Plan :=
  readFiles readFile listedMask
    (fun store => listing store (KeyId.all.filter store.has)) [file] .empty

/-- Write keys of a store to a file. -/
def writeKeys (store : Store) (mask : KeyMask) (output : String) : Plan :=
  .running (store.exportContainer mask ()) .keys (fun container _ => ⟨[], .write output container⟩)

/-- Write the selected keys of some files to another file. -/
def extract (readFile : ReadFile) (selection : Selection) (output : String)
    (files : List String) : Plan :=
  match selection.mask with
  | .error cause => .failing cause
  | .ok mask =>
      readFiles readFile mask
        (fun store =>
          match store.missing? mask with
          | some id => .failing (.keyAbsent id)
          | none => writeKeys store mask output)
        files .empty

/-- Random bytes for the search for primes and for HMAC secrets. -/
structure Supplies where
  primes : Bytes
  secrets : Bytes

/-- Make a set of user keys and write it to a file. -/
def generate (supplies : Supplies) (output : String) : Plan :=
  .running
    (Store.generate Rsa.primeProvider EntropySource.pool KeyMask.user
      { store := .empty, provider := supplies.primes, entropy := supplies.secrets })
    .cannotGenerate
    (fun _ shop => writeKeys shop.store KeyMask.user output)

/-- The plan of a command. -/
def plan (readFile : ReadFile) (supplies : Supplies) : Command → Plan
  | .generate output => generate supplies output
  | .inspect file => inspect readFile file
  | .extract selection output files => extract readFile selection output files

end Keyring.CommandLine
