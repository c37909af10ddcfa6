/-
Module: Keyring.Proofs.CommandLine.Compose
Purpose: Extractions one after the other.  What an extraction has written can be read again, and
  fewer keys taken from it are the same, byte for byte, as these keys taken from the files that it
  was made from.
Main exports: Reads.mono, Extractable.narrow, Extractable.again, exists_mask_eq_ok, Extracts,
  Extractable.extracts, execute_extract_extract
-/
import Keyring.Proofs.CommandLine.Extract
import Keyring.Proofs.Store.Excerpt

namespace Keyring.CommandLine

variable {readFile later : ReadFile} {part whole : KeyMask} {paths : List String}
  {list : List Record} {first second : Selection} {container : Bytes}

/-! ## Fewer keys -/

/-- Files that can be read for a mask can be read for every part of it. -/
theorem Reads.mono (reads : Reads readFile whole paths list)
    (sub : ∀ id, part.has id = true → whole.has id = true) :
    Reads readFile part paths list := by
  induction reads with
  | nil => exact .nil
  | cons read madeOf imported behind inductionHypothesis =>
      refine .cons read madeOf ?_ inductionHypothesis
      obtain ⟨records, sameMadeOf, accepted⟩ := Store.importContainer_eq_ok.1 imported
      exact Store.importContainer_eq_ok.2
        ⟨records, sameMadeOf, fun record member => (accepted record member).mono sub⟩

/-- A container of records that the mask admits is read from a file as these records. -/
theorem Reads.single {path : String} (read : readFile path = .ok container)
    (madeOf : Record.MadeOf container list) (accepted : ∀ record ∈ list, record.Accepted part) :
    Reads readFile part [path] list := by
  have imported : (Store.importContainer container part .empty).result = .ok () :=
    Store.importContainer_eq_ok.2 ⟨list, madeOf, accepted⟩
  have reads := Reads.cons read madeOf imported .nil
  rwa [List.append_nil] at reads

/-- The options that ask for some keys by their codes. -/
def Selection.listing (codes : List UInt8) : Selection where
  read := false
  write := false
  delete := false
  nuke := false
  keylist := codes

/-- Options that ask for no key are refused, so every other part of what options ask for can be
asked for by a key list. -/
theorem exists_mask_eq_ok (selected : first.mask = .ok whole) (some : part.isEmpty = false)
    (within : whole.contains part = true) : ∃ selection : Selection, selection.mask = .ok part := by
  obtain ⟨-, -, isOf⟩ := Selection.mask_eq_ok.1 selected
  have asksFor (id : KeyId) :
      part.has id = true ↔ (Selection.listing (part.ids.map KeyId.code)).AsksFor id := by
    rw [← KeyMask.mem_ids]
    constructor
    · exact fun listed => .listed (List.mem_map_of_mem listed)
    · intro asks
      cases asks with
      | read chosen => cases chosen
      | write chosen => cases chosen
      | delete chosen => cases chosen
      | nuke chosen => cases chosen
      | listed listed =>
          exact (List.mem_map_of_injective fun _ _ => KeyId.code_injective).1 listed
  have partOf := (isOf.of_contains within).congr asksFor
  refine ⟨_, Selection.mask_eq_ok.2 ⟨?_, ?_, partOf⟩⟩
  · intro code listed
    obtain ⟨id, -, own⟩ := List.mem_map.1 listed
    exact ⟨id, own⟩
  · by_contra none
    rw [partOf.isEmpty_iff.2 none] at some
    cases some

namespace Extractable

/-- What is asked for with fewer keys is asked for with more. -/
theorem asksFor_mono (extractable : Extractable readFile first paths whole list)
    (partOf : part.IsOf second.AsksFor) (within : whole.contains part = true) {id : KeyId}
    (asks : second.AsksFor id) : whole.has id = true ∧ first.AsksFor id := by
  have held := KeyMask.has_of_contains within (partOf.has_iff.2 asks)
  exact ⟨held, extractable.isOf.has_iff.1 held⟩

/-- What is found in files for some keys is found in them for fewer. -/
theorem narrow (extractable : Extractable readFile first paths whole list)
    (selected : second.mask = .ok part) (within : whole.contains part = true) :
    Extractable readFile second paths part list := by
  obtain ⟨known, some, partOf⟩ := Selection.mask_eq_ok.1 selected
  have more {id : KeyId} (asks : second.AsksFor id) : first.AsksFor id :=
    (extractable.asksFor_mono partOf within asks).2
  exact
    { known := known
      isOf := partOf
      some := some
      users := fun id asks => extractable.users id (more asks)
      reads := extractable.reads.mono fun _ => KeyMask.has_of_contains within
      occurs := fun id asks => extractable.occurs id (more asks) }

/-- What was written for some keys has all that is found in it for fewer, and provides the same for
them as the files did. -/
theorem again (extractable : Extractable readFile first paths whole list)
    (excerpt : Store.Excerpt whole list container) (bound : container.length ≤ Uint.maxTotal)
    (selected : second.mask = .ok part) (within : whole.contains part = true) {path : String}
    (read : later path = .ok container) :
    ∃ written, Extractable later second [path] part written ∧
      ∀ less, Store.Excerpt part list less → Store.Excerpt part written less := by
  obtain ⟨known, some, partOf⟩ := Selection.mask_eq_ok.1 selected
  have users (id : KeyId) (held : whole.has id = true) : id.isImportOnly = false :=
    isImportOnly_eq_false_iff.2 (extractable.users id (extractable.isOf.has_iff.1 held))
  obtain ⟨written, madeOf, accepted, same⟩ := excerpt.exists_records bound users
  obtain ⟨blob, provided, -⟩ := excerpt
  refine ⟨written, ⟨known, partOf, some, ?_, .single read madeOf (accepted part), ?_⟩, ?_⟩
  · intro id asks
    exact extractable.users id (extractable.asksFor_mono partOf within asks).2
  · intro id asks
    have held := (extractable.asksFor_mono partOf within asks).1
    obtain ⟨record, last, -⟩ := (same id held _).2 (provided id (KeyMask.mem_ids.2 held))
    exact ⟨record, Record.mem_of_last? last⟩
  · intro less narrowed
    exact narrowed.congr fun id held => same id (KeyMask.has_of_contains within held)

end Extractable

/-! ## Two runs -/

/-- The extraction of the selected keys from the files of a file system succeeds and writes the
container. -/
structure Extracts (files : FileSystem) (selection : Selection) (paths : List String)
    (container : Bytes) : Prop where
  /-- Nothing but the creation of the output file can fail. -/
  ending : ∀ output, (extract files.read selection output paths).ending = .write output container
  /-- Wherever the output path leads to a place for a file, the container is written there. -/
  written : ∀ (supplies : Supplies) (rank : Int) (output : String) (place : Place),
    files.Opens output place →
      let run := (plan files.read supplies (.extract selection output paths)).execute rank files
      run.1.exit = 0 ∧ run.2 = files.write place container

theorem Extractable.extracts {files : FileSystem}
    (extractable : Extractable files.read second paths part list)
    (excerpt : Store.Excerpt part list container) (bound : container.length ≤ Uint.maxTotal) :
    Extracts files second paths container where
  ending _ := extractable.ending excerpt bound
  written _ rank _ place opens :=
    execute_written (extractable.ending excerpt bound)
      (FileSystem.create_eq_ok.2 ⟨place, opens, rfl⟩) rank

/-- An extraction that succeeds has written a container from which every part of its keys can be
extracted again.  The outcome is the same, byte for byte, as that of an extraction of this part from
the original files, and the container itself if the part is the whole. -/
theorem execute_extract_extract (files : FileSystem) (supplies : Supplies) (rank : Int)
    (first : Selection) (output : String) (paths : List String) :
    let run := (plan files.read supplies (.extract first output paths)).execute rank files
    run.1.exit = 0 →
      ∃ whole container place, first.mask = .ok whole ∧ files.Opens output place ∧
        run.2 = files.write place container ∧
        FileSystem.entry? run.2 place = some (.file container (files.modeAt place)) ∧
        (files.refuses .read place (.file container (files.modeAt place)) = none →
          run.2.read output = .ok container) ∧
        ∀ part : KeyMask, part.isEmpty = false → whole.contains part = true →
          (∃ second : Selection, second.mask = .ok part) ∧
          ∃ less, (part = whole → less = container) ∧
            ∀ second : Selection, second.mask = .ok part →
              Extracts files second paths less ∧
              ∀ (later : FileSystem) (path : String), later.read path = .ok container →
                Extracts later second [path] less := by
  intro run done
  rcases execute_extract files rank first output paths with ⟨exit, -⟩ |
    ⟨whole, list, container, place, extractable, excerpt, bound, opens, -, left⟩
  · change run.1.exit = 1 at exit
    rw [exit] at done
    cases done
  change run.2 = _ at left
  have selected := extractable.mask_eq_ok
  refine ⟨whole, container, place, selected, opens, left, ?_, ?_, ?_⟩
  · rw [left]
    exact opens.entry?_write container
  · intro allowed
    rw [left]
    exact FileSystem.read_write opens container allowed
  · intro part some within
    have sub (id : KeyId) : part.has id = true → whole.has id = true :=
      KeyMask.has_of_contains within
    obtain ⟨less, narrowed, shorter⟩ := excerpt.narrow sub
    refine ⟨exists_mask_eq_ok selected some within, less, ?_, ?_⟩
    · rintro rfl
      exact narrowed.unique excerpt
    · intro second asked
      refine ⟨(extractable.narrow asked within).extracts narrowed (shorter.trans bound), ?_⟩
      intro later path read
      obtain ⟨written, found, same⟩ := extractable.again excerpt bound asked within read
      exact found.extracts (same less narrowed) (shorter.trans bound)

/-- A file with the records of two keys, and a link to it in the working directory. -/
def fallingFiles : FileSystem where
  entries := [(["keys"], .directory),
    (["keys", "old"], .file (Record.join Store.falling) FileSystem.ownerOnly)]
  links := [(["home", "user", "in"], "/keys/old")]
  workingDirectory := ["home", "user"]

/-- Both keys are extracted to a file above the working directory, and one of them is extracted from
the outcome. -/
theorem falling_extract_extract :
    let run := (plan fallingFiles.read ⟨[], []⟩
      (.extract (.listing [4, 5]) "../out" ["in"])).execute 2 fallingFiles
    run.1.exit = 0 ∧ ∃ container less, run.2 = fallingFiles.write ["home", "out"] container ∧
      run.2.read "../out" = .ok container ∧
      Extracts fallingFiles (.listing [5]) ["in"] less ∧
      ∀ (later : FileSystem) (path : String), later.read path = .ok container →
        Extracts later (.listing [5]) [path] less := by
  have done : ((plan fallingFiles.read ⟨[], []⟩
      (.extract (.listing [4, 5]) "../out" ["in"])).execute 2 fallingFiles).1.exit = 0 := by decide +kernel
  have both : (Selection.listing [4, 5]).mask = .ok (.ofIds [.hmac .file, .hmac .chunk]) := by
    decide
  obtain ⟨whole, container, place, selected, opens, left, -, readable, parts⟩ :=
    execute_extract_extract fallingFiles ⟨[], []⟩ 2 (.listing [4, 5]) "../out" ["in"] done
  obtain rfl := Except.ok.inj (both.symm.trans selected)
  have led : fallingFiles.target true "../out" = .ok (.vacant ["home", "out"]) := by decide
  obtain rfl := Option.some.inj (opens.place_eq led)
  obtain ⟨-, less, -, same⟩ := parts (.single (.hmac .chunk)) (by decide) (by decide)
  obtain ⟨direct, again⟩ := same (.listing [5]) (by decide)
  exact ⟨done, container, less, left, readable rfl, direct, again⟩

end Keyring.CommandLine
