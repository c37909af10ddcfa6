/-
Module: Keyring.Proofs.Files
Purpose: What the creation of a file does to a file system.  Where a path leads does not depend on
  what is to be written there; one file at most changes, and it has the bytes that were written,
  wherever the path led and through whichever links.
Main exports: FileSystem.entry?_put_own, FileSystem.entry?_put_other, FileSystem.Leads,
  FileSystem.follow_eq_ok, FileSystem.LeadsTo, FileSystem.Finds, FileSystem.Leads.finds,
  FileSystem.write, FileSystem.entry?_write_own, FileSystem.entry?_write_other,
  FileSystem.Leads.write, FileSystem.Opens, FileSystem.read_eq_ok, FileSystem.read_write,
  FileSystem.create_eq_ok
-/
import Keyring.Files

namespace Keyring

/-- The place of a file that a path leads to, or at which it could be created. -/
def Target.place? : Target → Option Place
  | .directory _ => none
  | .file place _ _ => some place
  | .vacant place => some place

namespace FileSystem

variable {files after : FileSystem} {place other here next : Place} {data : Bytes} {mode : Nat}
  {entry : Entry} {access : Access} {text part : String} {parts rest : List String}
  {creating slash : Bool} {links : Nat} {target : Target}

/-! ## One entry -/

/-- What a replacement finds at a place is what was found there, replaced. -/
theorem find?_replace (entries : List (Place × Entry)) (place other : Place) (entry : Entry) :
    (entries.map fun held => if held.1 == place then (place, entry) else held).find?
        (fun held => held.1 == other) =
      (entries.find? fun held => held.1 == other).map fun held =>
        if held.1 == place then (place, entry) else held := by
  rw [List.find?_map]
  congr 2
  funext held
  by_cases own : held.1 = place
  · simp [own]
  · simp [own]

/-- Apart from entries nothing changes. -/
theorem put_eq (files : FileSystem) (place : Place) (entry : Entry) :
    files.put place entry = { files with entries := (files.put place entry).entries } := by
  unfold put
  split <;> rfl

theorem put_workingDirectory :
    (files.put place entry).workingDirectory = files.workingDirectory := by
  rw [put_eq]

theorem entry?_put_other (files : FileSystem) (entry : Entry) (apart : other ≠ place) :
    FileSystem.entry? (files.put place entry) other = files.entry? other := by
  unfold entry?
  rw [put_workingDirectory]
  split
  · rfl
  unfold put
  split
  · rw [find?_replace, Option.map_map]
    cases found : files.entries.find? fun held => held.1 == other with
    | none => rfl
    | some held =>
        have key : held.1 = other := by simpa using List.find?_some found
        have own : held.1 ≠ place := key ▸ apart
        simp [own]
  · simp [Ne.symm apart]

theorem entry?_put_own (files : FileSystem) (entry : Entry)
    (free : files.entry? place ≠ some .directory) :
    FileSystem.entry? (files.put place entry) place = some entry := by
  unfold entry? at free ⊢
  rw [put_workingDirectory]
  split
  · next onTheWay =>
      rw [if_pos onTheWay] at free
      exact absurd rfl free
  unfold put
  split
  · next held =>
      rw [← List.isSome_find?, Option.isSome_iff_exists] at held
      obtain ⟨found, same⟩ := held
      have own : found.1 = place := by simpa using List.find?_some same
      rw [find?_replace, same]
      simp [own]
  · next absent =>
      rw [Bool.not_eq_true, List.any_eq_false] at absent
      rw [List.find?_append, List.find?_eq_none.2 absent]
      simp

/-! ## Where a path leads -/

theorem bind_eq_ok {ε α β : Type} {first : Except ε α} {next : α → Except ε β} {answer : β} :
    (first >>= next) = .ok answer ↔ ∃ middle, first = .ok middle ∧ next middle = .ok answer := by
  cases first with
  | error cause => simp [bind, Except.bind]
  | ok middle => simp [bind, Except.bind]

theorem permit_eq_ok {answer : Unit} :
    files.permit access place entry = .ok answer ↔ files.refuses access place entry = none := by
  rw [permit]
  cases files.refuses access place entry with
  | none => simp
  | some cause => simp

/-- One part of a path may be looked up in a directory, and leads to a place. -/
structure Steps (files : FileSystem) (creating : Bool) (here : Place) (part : String)
    (rest : List String) (slash : Bool) (next : Place) : Prop where
  allowed : files.refuses .search here .directory = none
  /-- No file is created in front of a slash. -/
  noSlash : ¬ (creating && slash && rest.isEmpty) = true
  step : Place.step here part = .ok next

/-- The parts of a path lead from a directory to a target, through at most so many links. -/
inductive Leads (files : FileSystem) (creating : Bool) :
    Nat → Place → List String → Bool → Target → Prop where
  | stay {links : Nat} {here : Place} {slash : Bool} :
      Leads files creating links here [] slash (.directory here)
  | directory {links : Nat} {here next : Place} {part : String} {rest : List String}
      {slash : Bool} {target : Target} (steps : files.Steps creating here part rest slash next)
      (found : files.entry? next = some .directory)
      (onward : Leads files creating links next rest slash target) :
      Leads files creating links here (part :: rest) slash target
  | file {links : Nat} {here next : Place} {part : String} {data : Bytes} {mode : Nat}
      (steps : files.Steps creating here part [] false next)
      (found : files.entry? next = some (.file data mode)) :
      Leads files creating links here [part] false (.file next data mode)
  /-- A slash behind a link, or at the end of its path, counts if nothing comes behind it. -/
  | link {links : Nat} {here next : Place} {part text : String} {rest : List String}
      {slash : Bool} {path : Path} {target : Target}
      (steps : files.Steps creating here part rest slash next)
      (free : files.entry? next = none) (found : files.link? next = some text)
      (taken : Path.ofText text = .ok path)
      (onward : Leads files creating links (path.start here) (path.parts ++ rest)
        (slash || rest.isEmpty && path.endsInSlash) target) :
      Leads files creating (links + 1) here (part :: rest) slash target
  | vacant {links : Nat} {here next : Place} {part : String} {slash : Bool}
      (steps : files.Steps creating here part [] slash next)
      (free : files.entry? next = none) (unlinked : files.link? next = none) :
      Leads files creating links here [part] slash (.vacant next)

theorem bind_steps_eq_ok {arrive : Place → Except OsError Target} :
    (files.permit .search here .directory >>= fun _ =>
      if creating && slash && rest.isEmpty then .error .isDirectory
      else Place.step here part >>= arrive) = .ok target ↔
      ∃ next, files.Steps creating here part rest slash next ∧ arrive next = .ok target := by
  simp only [bind_eq_ok, permit_eq_ok]
  constructor
  · rintro ⟨_, allowed, led⟩
    split at led
    · cases led
    · next noSlash =>
        obtain ⟨next, step, arrived⟩ := bind_eq_ok.1 led
        exact ⟨next, ⟨allowed, noSlash, step⟩, arrived⟩
  · rintro ⟨next, steps, arrived⟩
    refine ⟨(), steps.allowed, ?_⟩
    rw [if_neg steps.noSlash]
    exact bind_eq_ok.2 ⟨next, steps.step, arrived⟩

/-- Parts are followed up to a link as they lead, if what is behind the link is. -/
theorem stretch_eq_ok {onward : Place → List String → Bool → Except OsError Target}
    (behind : ∀ here parts slash target, onward here parts slash = .ok target ↔
      ∃ fewer, links = fewer + 1 ∧ files.Leads creating fewer here parts slash target) :
    files.stretch creating onward here parts slash = .ok target ↔
      files.Leads creating links here parts slash target := by
  induction parts generalizing here with
  | nil =>
      rw [stretch]
      constructor
      · rintro ⟨⟩
        exact .stay
      · rintro ⟨⟩
        rfl
  | cons part rest inductionHypothesis =>
      rw [stretch, bind_steps_eq_ok]
      constructor
      · rintro ⟨next, steps, led⟩
        split at led
        · next found => exact .directory steps found (inductionHypothesis.1 led)
        · next found =>
            split at led
            · cases led
            · next last =>
                cases led
                obtain ⟨rfl, rfl⟩ : slash = false ∧ rest = [] := by simpa using last
                exact .file steps found
        · next free found =>
            obtain ⟨path, taken, led⟩ := bind_eq_ok.1 led
            obtain ⟨fewer, rfl, leads⟩ := (behind _ _ _ _).1 led
            exact .link steps free found taken leads
        · next free unlinked =>
            split at led
            · next last =>
                cases led
                obtain rfl := List.isEmpty_iff.1 last
                exact .vacant steps free unlinked
            · cases led
      · intro leads
        cases leads with
        | directory steps found onward =>
            refine ⟨_, steps, ?_⟩
            rw [found]
            exact inductionHypothesis.2 onward
        | file steps found =>
            refine ⟨_, steps, ?_⟩
            rw [found]
            rfl
        | link steps free found taken onward =>
            refine ⟨_, steps, ?_⟩
            rw [free, found]
            exact bind_eq_ok.2 ⟨_, taken, (behind _ _ _ _).2 ⟨_, rfl, onward⟩⟩
        | vacant steps free unlinked =>
            refine ⟨_, steps, ?_⟩
            rw [free, unlinked]
            rfl

theorem follow_eq_ok :
    files.follow creating links here parts slash = .ok target ↔
      files.Leads creating links here parts slash target := by
  induction links generalizing here parts slash target with
  | zero =>
      rw [follow]
      apply stretch_eq_ok
      intro here parts slash target
      constructor
      · rintro ⟨⟩
      · rintro ⟨_, ⟨⟩, -⟩
  | succ links inductionHypothesis =>
      rw [follow]
      apply stretch_eq_ok
      intro here parts slash target
      rw [inductionHypothesis]
      constructor
      · intro leads
        exact ⟨links, rfl, leads⟩
      · rintro ⟨_, ⟨⟩, leads⟩
        exact leads

/-- A path leads to a target from the working directory or from the root, for one who reads there
or who creates a file there. -/
inductive LeadsTo (files : FileSystem) (creating : Bool) (text : String) (target : Target) :
    Prop where
  | along {path : Path} (taken : Path.ofText text = .ok path)
      (leads : files.Leads creating maxLinks (path.start files.workingDirectory) path.parts
        path.endsInSlash target) : LeadsTo files creating text target

theorem target_eq_ok : files.target creating text = .ok target ↔
    files.LeadsTo creating text target := by
  rw [FileSystem.target, bind_eq_ok]
  simp only [follow_eq_ok]
  constructor
  · rintro ⟨path, taken, leads⟩
    exact .along taken leads
  · rintro ⟨taken, leads⟩
    exact ⟨_, taken, leads⟩

/-! ## What a path leads to -/

/-- The target is what is found at its place; where there is nothing, there is not even a link. -/
inductive Finds (files : FileSystem) : Target → Prop where
  | directory {place : Place} : Finds files (.directory place)
  | file {place : Place} {data : Bytes} {mode : Nat}
      (found : files.entry? place = some (.file data mode)) : Finds files (.file place data mode)
  | vacant {place : Place} (free : files.entry? place = none)
      (unlinked : files.link? place = none) : Finds files (.vacant place)

namespace Finds

theorem ne_directory (finds : files.Finds target) (ends : target.place? = some place)
    (found : files.entry? next = some .directory) : next ≠ place := by
  rintro rfl
  cases finds with
  | directory => cases ends
  | file held =>
      cases ends
      cases found.symm.trans held
  | vacant free =>
      cases ends
      cases found.symm.trans free

theorem ne_link (finds : files.Finds target) (ends : target.place? = some place)
    (free : files.entry? next = none) (found : files.link? next = some text) : next ≠ place := by
  rintro rfl
  cases finds with
  | directory => cases ends
  | file held =>
      cases ends
      cases free.symm.trans held
  | vacant _ unlinked =>
      cases ends
      cases found.symm.trans unlinked

end Finds

theorem Leads.finds (leads : files.Leads creating links here parts slash target) :
    files.Finds target := by
  induction leads with
  | stay => exact .directory
  | directory _ _ _ inductionHypothesis => exact inductionHypothesis
  | file _ found => exact .file found
  | link _ _ _ _ _ inductionHypothesis => exact inductionHypothesis
  | vacant _ free unlinked => exact .vacant free unlinked

theorem LeadsTo.finds (leads : files.LeadsTo creating text target) : files.Finds target := by
  obtain ⟨_, leads⟩ := leads
  exact leads.finds

/-! ## One file -/

/-- The permission bits with which a file is written: those that it has, or those of a new one. -/
def modeAt (files : FileSystem) (place : Place) : Nat :=
  match files.entry? place with
  | some (.file _ mode) => mode
  | _ => ownerOnly

/-- The file system with a file at a place. -/
def write (files : FileSystem) (place : Place) (data : Bytes) : FileSystem :=
  files.put place (.file data (files.modeAt place))

theorem entry?_write_own (finds : files.Finds target) (ends : target.place? = some place)
    (data : Bytes) :
    FileSystem.entry? (files.write place data) place = some (.file data (files.modeAt place)) := by
  apply entry?_put_own
  intro found
  exact finds.ne_directory ends found rfl

theorem entry?_write_other (files : FileSystem) (data : Bytes) (apart : other ≠ place) :
    FileSystem.entry? (files.write place data) other = files.entry? other :=
  entry?_put_other files _ apart

theorem write_eq (files : FileSystem) (place : Place) (data : Bytes) :
    files.write place data = { files with entries := (files.write place data).entries } :=
  put_eq files place _

theorem write_workingDirectory :
    (files.write place data).workingDirectory = files.workingDirectory :=
  put_workingDirectory

theorem write_refuses : (files.write place data).refuses = files.refuses := by
  rw [write_eq]

theorem link?_write (other : Place) :
    FileSystem.link? (files.write place data) other = files.link? other := by
  rw [write_eq]
  rfl

theorem Steps.write (steps : files.Steps creating here part rest slash next) (place : Place)
    (data : Bytes) : (files.write place data).Steps false here part rest slash next where
  allowed := by rw [write_refuses, steps.allowed]
  noSlash := Bool.false_ne_true
  step := steps.step

/-- A path on which a file can be created leads to that file once it is written: no directory and no
link on the way is touched. -/
theorem Leads.write (leads : files.Leads true links here parts slash target)
    (ends : target.place? = some place) (data : Bytes) :
    (files.write place data).Leads false links here parts slash
      (.file place data (files.modeAt place)) := by
  have own := entry?_write_own leads.finds ends data
  induction leads with
  | stay => cases ends
  | directory steps found onward inductionHypothesis =>
      refine .directory (steps.write place data) ?_ (inductionHypothesis ends)
      rw [entry?_write_other files data (onward.finds.ne_directory ends found), found]
  | file steps found =>
      cases ends
      exact .file (steps.write _ data) own
  | link steps free found taken onward inductionHypothesis =>
      refine .link (steps.write place data) ?_ ?_ taken (inductionHypothesis ends)
      · rw [entry?_write_other files data (onward.finds.ne_link ends free found), free]
      · rw [link?_write, found]
  | @vacant _ _ _ _ slash steps free unlinked =>
      cases ends
      obtain rfl : slash = false := by simpa using steps.noSlash
      exact .file (steps.write _ data) own

/-- A file can be written at the place to which the path leads: one that is there may be written,
and where there is none the directory may get a new one. -/
inductive Opens (files : FileSystem) (text : String) : Place → Prop where
  | file {place : Place} {held : Bytes} {mode : Nat}
      (leads : files.LeadsTo true text (.file place held mode))
      (allowed : files.refuses .write place (.file held mode) = none) : Opens files text place
  | vacant {place : Place} (leads : files.LeadsTo true text (.vacant place))
      (allowed : files.refuses .add place.dropLast .directory = none) : Opens files text place

namespace Opens

theorem exists_leadsTo (opens : files.Opens text place) :
    ∃ target, files.LeadsTo true text target ∧ target.place? = some place := by
  cases opens with
  | file leads => exact ⟨_, leads, rfl⟩
  | vacant leads => exact ⟨_, leads, rfl⟩

/-- There is one place at most. -/
theorem place_eq (opens : files.Opens text place) (led : files.target true text = .ok target) :
    target.place? = some place := by
  obtain ⟨other, leads, ends⟩ := opens.exists_leadsTo
  obtain rfl := Except.ok.inj (led.symm.trans (target_eq_ok.2 leads))
  exact ends

theorem entry?_write (opens : files.Opens text place) (data : Bytes) :
    FileSystem.entry? (files.write place data) place = some (.file data (files.modeAt place)) := by
  obtain ⟨target, leads, ends⟩ := opens.exists_leadsTo
  exact entry?_write_own leads.finds ends data

end Opens

/-- What can be read are files that may be read. -/
theorem read_eq_ok :
    files.read text = .ok data ↔
      ∃ place mode, files.LeadsTo false text (.file place data mode) ∧
        files.refuses .read place (.file data mode) = none := by
  unfold read
  rw [bind_eq_ok]
  simp only [target_eq_ok]
  constructor
  · rintro ⟨target, leads, answered⟩
    cases target with
    | directory place =>
        obtain ⟨_, -, ⟨⟩⟩ := bind_eq_ok.1 answered
    | file place held mode =>
        obtain ⟨_, allowed, same⟩ := bind_eq_ok.1 answered
        cases same
        exact ⟨place, mode, leads, permit_eq_ok.1 allowed⟩
    | vacant place => cases answered
  · rintro ⟨place, mode, leads, allowed⟩
    exact ⟨_, leads, bind_eq_ok.2 ⟨(), permit_eq_ok.2 allowed, rfl⟩⟩

/-- Only a path with a slash in front starts at the root, that of a link included, and a file is
closed to an owner whom its permission bits do not let in. -/
example :
    let files : FileSystem :=
      { entries := [(["keys"], .directory), (["keys", "old"], .file [7] 0o600),
          (["keys", "locked"], .file [8] 0o200)]
        links := [(["in"], "/keys/old")]
        workingDirectory := ["home"] }
    files.read "../in" = .ok [7] ∧ files.read "keys/old" = .error .notFound ∧
      files.read "/keys/locked" = .error .accessDenied := by
  exact ⟨rfl, rfl, rfl⟩

/-- What was written is read from the same path, if the file may be read. -/
theorem read_write (opens : files.Opens text place) (data : Bytes)
    (allowed : files.refuses .read place (.file data (files.modeAt place)) = none) :
    (files.write place data).read text = .ok data := by
  obtain ⟨target, ⟨taken, leads⟩, ends⟩ := opens.exists_leadsTo
  refine read_eq_ok.2 ⟨place, files.modeAt place, .along taken ?_, ?_⟩
  · rw [write_workingDirectory]
    exact leads.write ends data
  · rw [write_refuses, allowed]

/-- A file keeps its permission bits. -/
theorem put_eq_write_of_file {held : Bytes} (finds : files.Finds (.file place held mode)) :
    files.put place (.file data mode) = files.write place data := by
  cases finds with
  | file found => rw [write, modeAt, found]

/-- A new file gets those of its own. -/
theorem put_eq_write_of_vacant (finds : files.Finds (.vacant place)) :
    files.put place (.file data ownerOnly) = files.write place data := by
  cases finds with
  | vacant free => rw [write, modeAt, free]

/-- A file is created exactly where its path leads, if it can be written there. -/
theorem create_eq_ok :
    files.create text data = .ok after ↔
      ∃ place, files.Opens text place ∧ after = files.write place data := by
  unfold create
  rw [bind_eq_ok]
  simp only [target_eq_ok]
  constructor
  · rintro ⟨target, leads, written⟩
    cases target with
    | directory place => cases written
    | file place held mode =>
        obtain ⟨_, allowed, same⟩ := bind_eq_ok.1 written
        cases same
        exact ⟨place, .file leads (permit_eq_ok.1 allowed), put_eq_write_of_file leads.finds⟩
    | vacant place =>
        obtain ⟨_, allowed, same⟩ := bind_eq_ok.1 written
        cases same
        exact ⟨place, .vacant leads (permit_eq_ok.1 allowed), put_eq_write_of_vacant leads.finds⟩
  · rintro ⟨place, opens, rfl⟩
    cases opens with
    | file leads allowed =>
        refine ⟨_, leads, bind_eq_ok.2 ⟨(), permit_eq_ok.2 allowed, ?_⟩⟩
        exact congrArg Except.ok (put_eq_write_of_file leads.finds)
    | vacant leads allowed =>
        refine ⟨_, leads, bind_eq_ok.2 ⟨(), permit_eq_ok.2 allowed, ?_⟩⟩
        exact congrArg Except.ok (put_eq_write_of_vacant leads.finds)

end FileSystem

end Keyring
