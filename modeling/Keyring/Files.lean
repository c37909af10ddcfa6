/-
Module: Keyring.Files
Purpose: A file system as a value: files, directories and links in one tree, the paths that lead
  through it from the root or from a working directory, and the ways in which reading and creating a
  file fail or are refused.
Main exports: OsError, Entry, Access, FileSystem, Path, Target, FileSystem.follow,
  FileSystem.target, FileSystem.read, FileSystem.create
-/
import Keyring.Bytes

namespace Keyring

/-- A failure of the operating system. -/
structure OsError where
  code : Nat
  reason : String
deriving Repr, DecidableEq, Inhabited

namespace OsError

def notFound : OsError := ⟨2, "No such file or directory"⟩

def accessDenied : OsError := ⟨13, "Permission denied"⟩

def notDirectory : OsError := ⟨20, "Not a directory"⟩

def isDirectory : OsError := ⟨21, "Is a directory"⟩

def nameTooLong : OsError := ⟨36, "File name too long"⟩

def tooManyLinks : OsError := ⟨40, "Too many levels of symbolic links"⟩

def message (cause : OsError) : String :=
  s!"{cause.reason} (os error {cause.code})"

end OsError

/-- What can be found under a name. -/
inductive Entry where
  /-- A file, with its permission bits. -/
  | file (data : Bytes) (mode : Nat)
  | directory
deriving DecidableEq

/-- A place in the tree, by the names that lead to it from the root. -/
abbrev Place := List String

/-- What can be done at a place. -/
inductive Access where
  /-- Look a name up in a directory. -/
  | search
  /-- Add a name to a directory. -/
  | add
  | read
  | write
deriving Repr, DecidableEq

/-- What the permission bits of a file refuse to its owner. -/
def Entry.refusesOwner : Access → Entry → Option OsError
  | .read, .file _ mode => if mode &&& 0o400 = 0 then some .accessDenied else none
  | .write, .file _ mode => if mode &&& 0o200 = 0 then some .accessDenied else none
  | _, _ => none

/-- A tree of entries and the directory in which the program runs.  The directories on the way to
that one are always there.  What the operating system lets the program do can depend on anything: on
permission bits, on lists of users, or on the device that a place is on; unless something else is
said, the program runs for the owner of all entries. -/
structure FileSystem where
  entries : List (Place × Entry)
  /-- Links: where there is no entry, a name can stand for a path that is followed instead. -/
  links : List (Place × String) := []
  workingDirectory : Place := []
  /-- Why an entry at a place must not be accessed in some way, if it must not. -/
  refuses : Access → Place → Entry → Option OsError :=
    fun access _ entry => entry.refusesOwner access

/-- The longest name, in bytes. -/
def maxName : Nat := 255

/-- The longest path, in bytes. -/
def maxPath : Nat := 4095

/-- How many links are followed on one path. -/
def maxLinks : Nat := 40

/-- The place that one part of a path leads to from a directory.  The root is above itself. -/
def Place.step (directory : Place) (part : String) : Except OsError Place :=
  if part == "." then .ok directory
  else if part == ".." then .ok directory.dropLast
  else if maxName < part.utf8ByteSize then .error .nameTooLong
  else .ok (directory ++ [part])

/-- A path, taken apart at its slashes. -/
structure Path where
  /-- Whether the path is followed from the root. -/
  isAbsolute : Bool
  /-- What stands between the slashes, as far as it is not empty. -/
  parts : List String
  /-- Whether a slash stands behind the last part. -/
  endsInSlash : Bool
deriving DecidableEq

/-- Take a path apart.  One that is empty or too long leads nowhere. -/
def Path.ofText (text : String) : Except OsError Path :=
  if text.isEmpty then .error .notFound
  else if maxPath < text.utf8ByteSize then .error .nameTooLong
  else
    let letters := text.toList
    .ok
      { isAbsolute := letters.head? == some '/'
        parts := ((letters.splitOn '/').filter fun part => !part.isEmpty).map String.ofList
        endsInSlash := letters.getLast? == some '/' }

/-- Where a path starts that is used in a directory. -/
def Path.start (path : Path) (directory : Place) : Place :=
  if path.isAbsolute then [] else directory

/-- What a path leads to. -/
inductive Target where
  | directory (place : Place)
  | file (place : Place) (data : Bytes) (mode : Nat)
  /-- A name in a directory under which there is nothing. -/
  | vacant (place : Place)
deriving DecidableEq

namespace FileSystem

/-- The permission bits of a new file: its owner may read and write it. -/
def ownerOnly : Nat := 0o600

/-- What is found at a place. -/
def entry? (files : FileSystem) (place : Place) : Option Entry :=
  if place.isPrefixOf files.workingDirectory then
    some .directory
  else
    (files.entries.find? (fun entry => entry.1 == place)).map Prod.snd

/-- The path that is followed in place of a name. -/
def link? (files : FileSystem) (place : Place) : Option String :=
  (files.links.find? (fun link => link.1 == place)).map Prod.snd

/-- Replace or add an entry. -/
def put (files : FileSystem) (place : Place) (entry : Entry) : FileSystem :=
  if files.entries.any (fun held => held.1 == place) then
    { files with
      entries := files.entries.map fun held =>
        if held.1 == place then (place, entry) else held }
  else
    { files with entries := files.entries ++ [(place, entry)] }

/-- Go on only if an entry may be accessed. -/
def permit (files : FileSystem) (access : Access) (place : Place) (entry : Entry) :
    Except OsError Unit :=
  match files.refuses access place entry with
  | some cause => .error cause
  | none => .ok ()

/-- Follow the parts of a path from a directory up to a link, and then go `onward` on the path of
the link.  Every part but the last one has to lead to a directory, and so has the last one if a
slash is behind it; no file is created on such a path, and its last part is not even looked up. -/
def stretch (files : FileSystem) (creating : Bool)
    (onward : Place → List String → Bool → Except OsError Target) :
    Place → List String → Bool → Except OsError Target
  | here, [], _ => .ok (.directory here)
  | here, part :: rest, slash => do
      files.permit .search here .directory
      if creating && slash && rest.isEmpty then
        .error .isDirectory
      else
        let next ← Place.step here part
        match files.entry? next, files.link? next with
        | some .directory, _ => stretch files creating onward next rest slash
        | some (.file data mode), _ =>
            if slash || !rest.isEmpty then .error .notDirectory else .ok (.file next data mode)
        | none, some text => do
            let path ← Path.ofText text
            onward (path.start here) (path.parts ++ rest)
              (slash || rest.isEmpty && path.endsInSlash)
        | none, none => if rest.isEmpty then .ok (.vacant next) else .error .notFound

/-- Follow the parts of a path from a directory, through at most so many links. -/
def follow (files : FileSystem) (creating : Bool) :
    Nat → Place → List String → Bool → Except OsError Target
  | 0, here, parts, slash =>
      files.stretch creating (fun _ _ _ => .error .tooManyLinks) here parts slash
  | links + 1, here, parts, slash =>
      files.stretch creating (files.follow creating links) here parts slash

/-- What a path leads to, for one who reads there or who creates a file there. -/
def target (files : FileSystem) (creating : Bool) (text : String) : Except OsError Target := do
  let path ← Path.ofText text
  files.follow creating maxLinks (path.start files.workingDirectory) path.parts path.endsInSlash

/-- The bytes of a file. -/
def read (files : FileSystem) (text : String) : Except OsError Bytes := do
  match ← files.target false text with
  | .directory place => do
      files.permit .read place .directory
      .error .isDirectory
  | .file place data mode => do
      files.permit .read place (.file data mode)
      return data
  | .vacant _ => .error .notFound

/-- Give a file new contents, and create it for its owner only if there is none.  A file that was
there keeps its permission bits. -/
def create (files : FileSystem) (text : String) (data : Bytes) : Except OsError FileSystem := do
  match ← files.target true text with
  | .directory _ => .error .isDirectory
  | .file place held mode => do
      files.permit .write place (.file held mode)
      return files.put place (.file data mode)
  | .vacant place => do
      files.permit .add place.dropLast .directory
      return files.put place (.file data ownerOnly)

end FileSystem

end Keyring
