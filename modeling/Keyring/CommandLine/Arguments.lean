/-
Module: Keyring.CommandLine.Arguments
Purpose: The command line: which commands and options there are, and what a list of arguments asks
  for.  Arguments are read from left to right; a request for help or for the version counts as
  soon as it is reached, and so does the first misuse.
Main exports: Selection, Command, Request, Topic, Request.parse
-/
import Keyring.Bytes

namespace Keyring.CommandLine

/-- Which keys an extraction is to write. -/
structure Selection where
  read : Bool
  write : Bool
  delete : Bool
  nuke : Bool
  keylist : List UInt8
deriving Repr, DecidableEq, Inhabited

/-- A command with its operands. -/
inductive Command where
  /-- Make a set of keys and write it to a file. -/
  | generate (output : String)
  /-- List the keys of a file. -/
  | inspect (file : String)
  /-- Write a selection of the keys of some files to another file. -/
  | extract (selection : Selection) (output : String) (files : List String)
deriving Repr, DecidableEq

/-- The commands by name. -/
inductive CommandName where
  | generate
  | inspect
  | extract
deriving Repr, DecidableEq, Inhabited

/-- What help can be asked about. -/
inductive Topic where
  | program
  | command (name : CommandName)
  | help
deriving Repr, DecidableEq, Inhabited

/-- What a list of arguments asks for. -/
inductive Request where
  /-- Run a command; log events of up to the given rank. -/
  | run (command : Command) (rank : Int)
  | version
  | help (topic : Topic)
  | misuse
deriving Repr, DecidableEq

/-! ## Options -/

/-- The options of the command line. -/
inductive Switch where
  | verbose
  | quiet
  | help
  | version
  | read
  | write
  | delete
  | nuke
  | keylist
  | output
deriving Repr, DecidableEq, Inhabited

/-- Where an option can stand: before the name of the command, or behind it. -/
inductive Scope where
  | program
  | command (name : CommandName)
deriving Repr, DecidableEq, Inhabited

namespace Switch

/-- The options of a scope. -/
def available : Scope → List Switch
  | .program => [.verbose, .quiet, .help, .version]
  | .command .generate => [.output, .verbose, .quiet, .help]
  | .command .inspect => [.verbose, .quiet, .help]
  | .command .extract =>
      [.read, .write, .delete, .nuke, .keylist, .output, .verbose, .quiet, .help]

def short? : Switch → Option Char
  | .verbose => some 'v'
  | .quiet => some 'q'
  | .help => some 'h'
  | .version => some 'V'
  | .read => some 'r'
  | .write => some 'w'
  | .delete => some 'd'
  | .output => some 'o'
  | .nuke | .keylist => none

def long? : Switch → Option String
  | .verbose => some "verbose"
  | .quiet => some "quiet"
  | .help => some "help"
  | .version => some "version"
  | .nuke => some "nuke"
  | .keylist => some "keylist"
  | .output => some "output"
  | .read | .write | .delete => none

/-- Whether an option is followed by a value. -/
def takesValue : Switch → Bool
  | .keylist | .output => true
  | _ => false

def ofShort? (scope : Scope) (letter : Char) : Option Switch :=
  (available scope).find? (fun option => option.short? == some letter)

def ofLong? (scope : Scope) (name : String) : Option Switch :=
  (available scope).find? (fun option => option.long? == some name)

end Switch

/-! ## Arguments seen so far -/

/-- Why the reading of arguments ends early. -/
inductive Stop where
  | help
  | version
  | misuse
deriving Repr, DecidableEq, Inhabited

/-- What the arguments of one scope have set. -/
structure Seen where
  verbose : Nat
  quiet : Nat
  flags : List Switch
  keylist : List UInt8
  output : Option String
  operands : List String
deriving Repr, DecidableEq, Inhabited

namespace Seen

def nothing : Seen := ⟨0, 0, [], [], none, []⟩

/-- How often an option may be counted. -/
def maxCount : Nat := 255

/-- Note an option without value.  Only the two counted ones may be repeated. -/
def flag (seen : Seen) (option : Switch) : Except Stop Seen :=
  match option with
  | .help => .error .help
  | .version => .error .version
  | .verbose => .ok { seen with verbose := min maxCount (seen.verbose + 1) }
  | .quiet => .ok { seen with quiet := min maxCount (seen.quiet + 1) }
  | option =>
      if seen.flags.contains option then .error .misuse
      else .ok { seen with flags := option :: seen.flags }

/-- A decimal number with an optional sign. -/
def number? (text : String) : Option Int :=
  let digits? (digits : List Char) : Option Nat :=
    if digits.isEmpty || !digits.all Char.isDigit then none
    else some (digits.foldl (fun n digit => 10 * n + (digit.toNat - '0'.toNat)) 0)
  match text.toList with
  | '-' :: digits => (digits? digits).map (fun n => -(n : Int))
  | '+' :: digits => (digits? digits).map Int.ofNat
  | digits => (digits? digits).map Int.ofNat

/-- A number that fits into a byte. -/
def byte? (text : String) : Option UInt8 := do
  let n ← number? text
  if 0 ≤ n ∧ n ≤ 255 then some (UInt8.ofNat n.toNat) else none

/-- Note the value of an option.  A key list is cut at its commas, and may be given in several
pieces; an output file is named once. -/
def value (seen : Seen) (option : Switch) (text : String) : Except Stop Seen :=
  match option with
  | .keylist =>
      match (text.splitOn ",").mapM byte? with
      | some codes => .ok { seen with keylist := seen.keylist ++ codes }
      | none => .error .misuse
  | _ =>
      if text.isEmpty || seen.output.isSome then .error .misuse
      else .ok { seen with output := some text }

/-- The largest number of operands that a scope takes, if there is one. -/
def maxOperands : Scope → Option Nat
  | .program | .command .generate => some 0
  | .command .inspect => some 1
  | .command .extract => none

/-- Note an operand, which is a path and not empty. -/
def operand (seen : Seen) (scope : Scope) (text : String) : Except Stop Seen :=
  let full := match maxOperands scope with
    | some most => most ≤ seen.operands.length
    | none => false
  if text.isEmpty || full then .error .misuse
  else .ok { seen with operands := seen.operands ++ [text] }

/-- The verbose and the quiet option exclude each other within one scope. -/
def contradictory (seen : Seen) : Bool := seen.verbose != 0 && seen.quiet != 0

end Seen

/-! ## Reading one argument -/

/-- An argument by its form. -/
inductive Form where
  /-- Two dashes: everything behind is an operand. -/
  | separator
  | long (name : String) (value : Option String)
  | short (letters : List Char)
  | plain
deriving Repr, DecidableEq

/-- The form of an argument.  A single dash is an operand. -/
def Form.of (argument : String) : Form :=
  match argument.toList with
  | ['-', '-'] => .separator
  | '-' :: '-' :: text =>
      let name := text.takeWhile (· != '=')
      match text.dropWhile (· != '=') with
      | [] => .long (String.ofList name) none
      | _ :: value => .long (String.ofList name) (some (String.ofList value))
  | '-' :: letter :: letters => .short (letter :: letters)
  | _ => .plain

/-- Note a long option.  The answer also names the option that awaits a value. -/
def readLong (scope : Scope) (seen : Seen) (name : String) (value : Option String) :
    Except Stop (Seen × Option Switch) :=
  match Switch.ofLong? scope name, value with
  | none, _ => .error .misuse
  | some option, none =>
      if option.takesValue then .ok (seen, some option)
      else do return (← seen.flag option, none)
  | some option, some text =>
      if option.takesValue then do return (← seen.value option text, none)
      else .error .misuse

/-- Note a row of short options; what follows one that takes a value is its value, with or without
an equals sign in front. -/
def readShort (scope : Scope) : Seen → List Char → Except Stop (Seen × Option Switch)
  | seen, [] => .ok (seen, none)
  | seen, letter :: letters =>
      match Switch.ofShort? scope letter with
      | none => .error .misuse
      | some option =>
          if option.takesValue then
            match letters with
            | [] => .ok (seen, some option)
            | '=' :: text => do return (← seen.value option (String.ofList text), none)
            | text => do return (← seen.value option (String.ofList text), none)
          else do
            readShort scope (← seen.flag option) letters

/-- Read the arguments behind the name of a command.  `awaiting` is an option whose value comes
next; no value begins with a dash, unless it is one. -/
def readArguments (scope : Scope) :
    Option Switch → Seen → List String → Except Stop Seen
  | none, seen, [] => .ok seen
  | some _, _, [] => .error .misuse
  | awaiting, seen, argument :: rest =>
      match Form.of argument, awaiting with
      | .plain, some option => do
          readArguments scope none (← seen.value option argument) rest
      | _, some _ => .error .misuse
      | .separator, none => rest.foldlM (fun seen text => seen.operand scope text) seen
      | .long name value, none => do
          let (seen, awaiting) ← readLong scope seen name value
          readArguments scope awaiting seen rest
      | .short letters, none => do
          let (seen, awaiting) ← readShort scope seen letters
          readArguments scope awaiting seen rest
      | .plain, none => do
          readArguments scope none (← seen.operand scope argument) rest

/-! ## Reading the command line -/

def CommandName.ofText? : String → Option CommandName
  | "generate" => some .generate
  | "inspect" => some .inspect
  | "extract" => some .extract
  | _ => none

/-- The command that the arguments behind its name make up, if none of them is missing. -/
def command? (name : CommandName) (seen : Seen) : Option Command :=
  match name, seen.output, seen.operands with
  | .generate, some output, _ => some (.generate output)
  | .inspect, _, [file] => some (.inspect file)
  | .extract, some output, file :: files =>
      let given (option : Switch) : Bool := seen.flags.contains option
      some (.extract
        { read := given .read, write := given .write, delete := given .delete,
          nuke := given .nuke, keylist := seen.keylist }
        output (file :: files))
  | _, _, _ => none

/-- The rank of the log without further options: warnings and errors. -/
def defaultRank : Int := 1

/-- The rank of the log.  A count behind the name of the command replaces one in front of it. -/
def logRank (outer inner : Seen) : Int :=
  let verbose := if inner.verbose = 0 then outer.verbose else inner.verbose
  let quiet := if inner.quiet = 0 then outer.quiet else inner.quiet
  defaultRank + verbose - quiet

/-- What is asked for by the name of a command, the options in front of it and the arguments
behind it. -/
def requestOf (outer : Seen) (name : CommandName) (arguments : List String) : Request :=
  match readArguments (.command name) none .nothing arguments with
  | .error .help => .help (.command name)
  | .error _ => .misuse
  | .ok inner =>
      match command? name inner with
      | none => .misuse
      | some command =>
          if inner.contradictory || outer.contradictory then .misuse
          else .run command (logRank outer inner)

/-- What is asked for by the arguments behind the word for help. -/
def helpRequest : List String → Request
  | [] => .help .program
  | [name] =>
      if name == "help" then .help .help
      else
        match CommandName.ofText? name with
        | some name => .help (.command name)
        | none => .misuse
  | _ => .misuse

/-- Read the arguments in front of the name of a command. -/
def readProgram : Seen → List String → Request
  | _, [] => .misuse
  | seen, argument :: rest =>
      let options : Except Stop (Seen × Option Switch) → Request
        | .ok (seen, _) => readProgram seen rest
        | .error .help => .help .program
        | .error .version => .version
        | .error .misuse => .misuse
      match Form.of argument with
      | .separator => .misuse
      | .long name value => options (readLong .program seen name value)
      | .short letters => options (readShort .program seen letters)
      | .plain =>
          if argument == "help" then helpRequest rest
          else
            match CommandName.ofText? argument with
            | some name => requestOf seen name rest
            | none => .misuse

/-- What a list of arguments asks for. -/
def Request.parse (arguments : List String) : Request :=
  readProgram .nothing arguments

end Keyring.CommandLine
