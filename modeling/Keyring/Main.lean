/-
Module: Keyring.Main
Purpose: The program on a real machine: it reads the files that a command names, carries out the
  command's plan, and prints what the report shows.
Main exports: main
-/
import Keyring.CommandLine.Report

namespace Keyring.CommandLine.Machine

/-- A failure of the operating system, as the runtime describes it. -/
def osErrorOf : IO.Error → OsError
  | .noFileOrDirectory _ code reason => ⟨code.toNat, reason⟩
  | .permissionDenied _ code reason => ⟨code.toNat, reason⟩
  | .inappropriateType _ code reason => ⟨code.toNat, reason⟩
  | .alreadyExists _ code reason => ⟨code.toNat, reason⟩
  | .resourceExhausted _ code reason => ⟨code.toNat, reason⟩
  | .invalidArgument _ code reason => ⟨code.toNat, reason⟩
  | .hardwareFault code reason => ⟨code.toNat, reason⟩
  | other => ⟨5, toString other⟩

/-- Read a file. -/
def readFile (path : String) : IO (Except OsError Bytes) := do
  try
    let handle ← IO.FS.Handle.mk path .read
    return .ok (← handle.readBinToEnd).toList
  catch cause =>
    return .error (osErrorOf cause)

/-- Open a file for writing, and make a new one readable for its owner only. -/
def openFile (path : String) : IO IO.FS.Handle := do
  try
    let handle ← IO.FS.Handle.mk path .writeNew
    IO.setAccessRights path { user := { read := true, write := true } }
    return handle
  catch
    | .alreadyExists .. => IO.FS.Handle.mk path .write
    | cause => throw cause

/-- Write a file. -/
def writeFile (path : String) (data : Bytes) : IO (Except WriteError Unit) := do
  let opened ← try
      pure (Except.ok (← openFile path))
    catch cause =>
      pure (Except.error (WriteError.create (osErrorOf cause)))
  match opened with
  | .error cause => return .error cause
  | .ok handle =>
      try
        handle.write (ByteArray.mk data.toArray)
        handle.flush
        return .ok ()
      catch cause =>
        return .error (.write (osErrorOf cause))

/-- How many random bytes a run may use for each purpose. -/
def supplySize : Nat := 4096

/-- Random bytes of the operating system, for a command that makes keys. -/
def supplies : Command → IO Supplies
  | .generate _ => do
      let primes ← IO.getRandomBytes supplySize.toUSize
      let secrets ← IO.getRandomBytes supplySize.toUSize
      return { primes := primes.toList, secrets := secrets.toList }
  | _ => return { primes := [], secrets := [] }

/-- The files that a command reads. -/
def inputs : Command → List String
  | .generate _ => []
  | .inspect file => [file]
  | .extract _ _ files => files

/-- Carry out a command. -/
def execute (command : Command) (rank : Int) : IO Report := do
  let contents ← (inputs command).mapM fun path => do
    return (path, ← readFile path)
  let read : ReadFile := fun path =>
    ((contents.find? (fun held => held.1 == path)).map Prod.snd).getD (.error .notFound)
  let made := plan read (← supplies command) command
  match made.ending with
  | .write path data => return .ofPlan rank made (← writeFile path data)
  | _ => return .ofPlan rank made (.ok ())

/-- The report on a list of arguments. -/
def report (arguments : List String) : IO Report :=
  match Request.parse arguments with
  | .misuse => return .misuse
  | .version => return .printing versionText
  | .help topic => return .printing (helpText topic)
  | .run command rank => execute command rank

/-- A line as it is printed. -/
def lineText : Line → String
  | .event event => event.line
  | .text text => text

end Keyring.CommandLine.Machine

/-- Run the program. -/
def main (arguments : List String) : IO UInt32 := do
  let report ← Keyring.CommandLine.Machine.report arguments
  for line in report.lines do
    IO.println (Keyring.CommandLine.Machine.lineText line)
  IO.eprint report.errors
  return report.exit.toUInt32
