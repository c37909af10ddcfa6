/-
Module: Keyring.CommandLine.Report
Purpose: What a run of the program leaves: its exit status, its output, and the files.
Main exports: Report, Report.ofPlan, run
-/
import Keyring.CommandLine.Plan
import Keyring.CommandLine.Usage

namespace Keyring.CommandLine

/-- What a run shows. -/
structure Report where
  exit : Nat
  lines : List Line
  /-- What was printed on the error output. -/
  errors : String
deriving DecidableEq

/-- How a file could not be written. -/
inductive WriteError where
  | create (cause : OsError)
  | write (cause : OsError)
deriving DecidableEq

namespace Report

/-- The lines up to a rank of the log; the answer is printed at every rank. -/
def upTo (rank : Int) (lines : List Line) : List Line :=
  lines.filter fun line =>
    match line with
    | .event event => (event.level.rank : Int) ≤ rank
    | .text _ => true

def failed (lines : List Line) (cause : Failure) : Report := ⟨1, lines, cause.text⟩

/-- The report on a plan whose file, if it has one, was written with the given success. -/
def ofPlan (rank : Int) (plan : Plan) (written : Except WriteError Unit) : Report :=
  match plan.ending, written with
  | .done, _ => ⟨0, upTo rank plan.lines, ""⟩
  | .failed cause, _ => failed (upTo rank plan.lines) cause
  | .write path data, .ok () =>
      ⟨0, upTo rank (plan.lines ++ [.event (.wroteFile data.length path)]), ""⟩
  | .write path _, .error (.create cause) =>
      failed (upTo rank plan.lines) (.cannotCreate path cause)
  | .write path _, .error (.write cause) =>
      failed (upTo rank plan.lines) (.cannotWrite path cause)

/-- The report on a request that runs no command. -/
def printing (text : String) : Report :=
  ⟨0, ((text.splitOn "\n").dropLast).map .text, ""⟩

def misuse : Report := ⟨2, [], misuseText⟩

end Report

/-- Carry out a plan on a file system. -/
def Plan.execute (rank : Int) (plan : Plan) (files : FileSystem) : Report × FileSystem :=
  match plan.ending with
  | .write path data =>
      match files.create path data with
      | .ok after => (.ofPlan rank plan (.ok ()), after)
      | .error cause => (.ofPlan rank plan (.error (.create cause)), files)
  | _ => (.ofPlan rank plan (.ok ()), files)

/-- Run the program on a file system. -/
def run (supplies : Supplies) (arguments : List String) (files : FileSystem) :
    Report × FileSystem :=
  match Request.parse arguments with
  | .misuse => (.misuse, files)
  | .version => (.printing versionText, files)
  | .help topic => (.printing (helpText topic), files)
  | .run command rank => (plan files.read supplies command).execute rank files

end Keyring.CommandLine
