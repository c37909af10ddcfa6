/-
Module: Keyring.Proofs.CommandLine.Extract
Purpose: An extraction from its options to the files that it leaves.  What is selected, what is read
  and what is written are described on their own and put together at the end: an extraction writes
  one file or none, and it writes only when nothing but the creation of that file can fail.
Main exports: Selection.AsksFor, Selection.mask_eq_ok, Reads, Reads.ending_readFiles,
  reads_or_failed, Extractable, Extractable.exists_excerpt, Extractable.ending, extract_ends,
  execute_extract, execute_extract_iff
-/
import Keyring.CommandLine.Report
import Keyring.Proofs.Files
import Keyring.Proofs.Store.Canonical

namespace Keyring.CommandLine

open FileSystem (bind_eq_ok)

/-! ## What is selected -/

/-- The options ask for a key. -/
inductive Selection.AsksFor (selection : Selection) : KeyId → Prop where
  | read {id : KeyId} (chosen : selection.read = true) (needed : KeyMask.read.has id = true) :
      AsksFor selection id
  | write {id : KeyId} (chosen : selection.write = true) (needed : KeyMask.write.has id = true) :
      AsksFor selection id
  | delete {id : KeyId} (chosen : selection.delete = true)
      (needed : KeyMask.read.has id = true ∨ id = .hmac .authDelete) : AsksFor selection id
  | nuke (chosen : selection.nuke = true) : AsksFor selection (.hmac .authDelete)
  | listed {id : KeyId} (listed : id.code ∈ selection.keylist) : AsksFor selection id

/-- The mask of the options, with that of a key list. -/
def Selection.maskWith (selection : Selection) (listed : List KeyId) : KeyMask :=
  let part (chosen : Bool) (mask : KeyMask) : KeyMask := if chosen then mask else KeyMask.empty
  let remover := KeyMask.single (.hmac .authDelete)
  part selection.read .read ∪ part selection.write .write ∪
    part selection.delete (.read ∪ remover) ∪ part selection.nuke remover ∪ KeyMask.ofIds listed

/-- The key of a number in a key list. -/
def listedKey (code : UInt8) : Except Failure KeyId :=
  match KeyId.ofCode? code with
  | some id => .ok id
  | none => .error (.unknownKey code)

theorem listedKey_eq_ok {code : UInt8} {id : KeyId} :
    listedKey code = .ok id ↔ id.code = code := by
  rw [← KeyId.ofCode?_eq_some, listedKey]
  cases KeyId.ofCode? code with
  | none => simp
  | some other => simp

/-- The keys of a key list are those whose codes stand in it. -/
theorem mapM_listedKey_eq_ok {codes : List UInt8} {ids : List KeyId} :
    codes.mapM listedKey = .ok ids ↔ ids.map KeyId.code = codes := by
  induction codes generalizing ids with
  | nil =>
      rw [List.mapM_nil, List.map_eq_nil_iff]
      constructor
      · intro same
        cases same
        rfl
      · rintro rfl
        rfl
  | cons code rest inductionHypothesis =>
      simp only [List.mapM_cons, bind_eq_ok, listedKey_eq_ok, inductionHypothesis]
      constructor
      · rintro ⟨id, own, others, later, same⟩
        cases same
        rw [List.map_cons, own, later]
      · intro codes
        obtain ⟨id, others, rfl, own, later⟩ := List.map_eq_cons_iff.1 codes
        exact ⟨id, own, others, later, rfl⟩

theorem exists_map_code {codes : List UInt8} :
    (∃ ids : List KeyId, ids.map KeyId.code = codes) ↔
      ∀ code ∈ codes, ∃ id : KeyId, id.code = code := by
  constructor
  · rintro ⟨ids, rfl⟩ code member
    obtain ⟨id, -, own⟩ := List.mem_map.1 member
    exact ⟨id, own⟩
  · intro known
    choose! id own using known
    refine ⟨codes.map id, ?_⟩
    rw [List.map_map]
    exact (List.map_congr_left own).trans codes.map_id

/-- A mask that is taken only if it was chosen. -/
theorem isOf_part {mask : KeyMask} {wanted : KeyId → Prop} (isOf : mask.IsOf wanted)
    (chosen : Bool) :
    (if chosen then mask else KeyMask.empty).IsOf fun id => chosen = true ∧ wanted id := by
  cases chosen with
  | true => exact isOf.congr fun id => by simp
  | false => exact KeyMask.isOf_empty.congr fun id => by simp

theorem Selection.isOf_maskWith {selection : Selection} {listed : List KeyId}
    (codes : listed.map KeyId.code = selection.keylist) :
    (selection.maskWith listed).IsOf selection.AsksFor := by
  have read : KeyMask.read.IsOf fun id => KeyMask.read.has id = true := KeyMask.isOf_has _
  have write : KeyMask.write.IsOf fun id => KeyMask.write.has id = true := KeyMask.isOf_has _
  have remover := KeyMask.isOf_single (.hmac .authDelete)
  refine ((((isOf_part read selection.read).union (isOf_part write selection.write)).union
    (isOf_part (read.union remover) selection.delete)).union
    (isOf_part remover selection.nuke)).union (KeyMask.isOf_ofIds listed) |>.congr fun id => ?_
  have inList : id ∈ listed ↔ id.code ∈ selection.keylist := by
    rw [← codes, List.mem_map_of_injective fun _ _ => KeyId.code_injective]
  rw [inList]
  constructor
  · rintro ((((⟨chosen, needed⟩ | ⟨chosen, needed⟩) | ⟨chosen, needed⟩) | ⟨chosen, rfl⟩) | listed)
    · exact .read chosen needed
    · exact .write chosen needed
    · exact .delete chosen needed
    · exact .nuke chosen
    · exact .listed listed
  · intro asks
    cases asks with
    | read chosen needed => exact .inl (.inl (.inl (.inl ⟨chosen, needed⟩)))
    | write chosen needed => exact .inl (.inl (.inl (.inr ⟨chosen, needed⟩)))
    | delete chosen needed => exact .inl (.inl (.inr ⟨chosen, needed⟩))
    | nuke chosen => exact .inl (.inr ⟨chosen, rfl⟩)
    | listed listed => exact .inr listed

/-- The mask of a selection is that of the keys it asks for; there is one if every number in the
list of codes is a code and at least one key is asked for. -/
theorem Selection.mask_eq_ok {selection : Selection} {mask : KeyMask} :
    selection.mask = .ok mask ↔
      (∀ code ∈ selection.keylist, ∃ id : KeyId, id.code = code) ∧
        (∃ id, selection.AsksFor id) ∧ mask.IsOf selection.AsksFor := by
  have whole : selection.mask = selection.keylist.mapM listedKey >>= fun listed =>
      if (selection.maskWith listed).isEmpty then .error .nothingSelected
      else .ok (selection.maskWith listed) := rfl
  rw [whole, bind_eq_ok, ← exists_map_code, ← exists_and_right]
  refine exists_congr fun listed => ?_
  rw [mapM_listedKey_eq_ok]
  refine and_congr_right fun codes => ?_
  have isOf := Selection.isOf_maskWith codes
  split
  · next none =>
      constructor
      · intro failed
        cases failed
      · rintro ⟨some, -⟩
        exact absurd some (isOf.isEmpty_iff.1 none)
  · next some =>
      rw [isOf.isEmpty_iff, not_not] at some
      constructor
      · intro same
        cases same
        exact ⟨some, isOf⟩
      · rintro ⟨-, other⟩
        rw [isOf.unique other]

/-! ## What is read -/

/-- The files are read one after the other, and each is a container that an import under the mask
accepts.  The list has the records of all of them. -/
inductive Reads (readFile : ReadFile) (mask : KeyMask) : List String → List Record → Prop where
  | nil : Reads readFile mask [] []
  | cons {path : String} {data : Bytes} {records later : List Record} {rest : List String}
      (read : readFile path = .ok data) (madeOf : Record.MadeOf data records)
      (imported : (Store.importContainer data mask .empty).result = .ok ())
      (behind : Reads readFile mask rest later) :
      Reads readFile mask (path :: rest) (records ++ later)

section Running

variable {σ α : Type} {outcome : Outcome σ α} {wrap : KeyError → Failure} {next : α → σ → Plan}

theorem ending_running_ok {answer : α} (done : outcome.result = .ok answer) :
    (Plan.running outcome wrap next).ending = (next answer outcome.state).ending := by
  rw [Plan.running, done]
  rfl

theorem ending_running_error {cause : KeyError} (failed : outcome.result = .error cause) :
    (Plan.running outcome wrap next).ending = .failed (wrap cause) := by
  rw [Plan.running, failed]
  rfl

end Running

variable {readFile : ReadFile} {mask : KeyMask} {list : List Record} {paths : List String}
  {selection : Selection} {output : String} {container : Bytes}

theorem yields_readContainer {path : String} {data : Bytes} {store after : Store} :
    (readContainer path data mask).Yields store () after ↔
      (Store.importContainer data mask).Yields store () after := by
  simp only [readContainer, Op.yields_bind, Op.yields_emit]
  constructor
  · rintro ⟨_, between, done, rfl⟩
    exact done
  · intro done
    exact ⟨(), after, done, rfl⟩

/-- Files that can be read install the last records of all of them. -/
theorem Reads.ending_readFiles (reads : Reads readFile mask paths list) (store : Store) :
    ∃ after, Store.Installed mask list store after ∧ ∀ next : Store → Plan,
      (readFiles readFile mask next paths store).ending = (next after).ending := by
  induction reads generalizing store with
  | nil => exact ⟨store, .refl mask store, fun _ => rfl⟩
  | @cons path data records later rest read madeOf imported behind inductionHypothesis =>
      obtain ⟨others, otherMadeOf, accepted⟩ := Store.importContainer_eq_ok.1 imported
      obtain rfl := madeOf.unique otherMadeOf
      obtain ⟨between, done, one⟩ := Store.importContainer_of_madeOf madeOf accepted store
      obtain ⟨after, two, onward⟩ := inductionHypothesis between
      refine ⟨after, one.trans two, fun next => ?_⟩
      obtain ⟨answered, left⟩ := yields_readContainer.2 done
      rw [readFiles, read]
      dsimp only
      rw [ending_running_ok answered, left]
      exact onward next

/-- Files that cannot be read end the run. -/
theorem reads_or_failed (readFile : ReadFile) (mask : KeyMask) (paths : List String)
    (store : Store) :
    (∃ list, Reads readFile mask paths list) ∨ ∀ next : Store → Plan, ∃ cause,
      (readFiles readFile mask next paths store).ending = .failed cause := by
  induction paths generalizing store with
  | nil => exact .inl ⟨[], .nil⟩
  | cons path rest inductionHypothesis =>
      cases read : readFile path with
      | error cause =>
          refine .inr fun next => ⟨.cannotRead path cause, ?_⟩
          rw [readFiles, read]
          rfl
      | ok data =>
          cases ran : (readContainer path data mask store).result with
          | error cause =>
              refine .inr fun next => ⟨.badContainer path cause, ?_⟩
              rw [readFiles, read]
              exact ending_running_error ran
          | ok answer =>
              have done := yields_readContainer.1 (Op.yields_of_result ran)
              have importable := Store.importContainer_eq_ok.1 done.1
              have ⟨records, madeOf, _⟩ := importable
              rcases inductionHypothesis (readContainer path data mask store).state with
                ⟨later, behind⟩ | failed
              · have imported : (Store.importContainer data mask .empty).result = .ok () :=
                  Store.importContainer_eq_ok.2 importable
                exact .inl ⟨records ++ later, .cons read madeOf imported behind⟩
              · refine .inr fun next => ?_
                obtain ⟨cause, ending⟩ := failed next
                refine ⟨cause, ?_⟩
                rw [readFiles, read]
                exact (ending_running_ok ran).trans ending

/-! ## What is written -/

/-- What an extraction finds if it has something to write: the keys that are selected may leave a
store, the files can be read, and every key is in one of them. -/
structure Extractable (readFile : ReadFile) (selection : Selection) (paths : List String)
    (mask : KeyMask) (list : List Record) : Prop where
  /-- Every number in the key list is the code of a key. -/
  known : ∀ code ∈ selection.keylist, ∃ id : KeyId, id.code = code
  /-- The mask is that of the selected keys. -/
  isOf : mask.IsOf selection.AsksFor
  /-- Some key is selected. -/
  some : ∃ id, selection.AsksFor id
  /-- Only keys of users are selected. -/
  users : ∀ id, selection.AsksFor id → id.code ≠ 9 ∧ id.code ≠ 19
  /-- The files have the records of the list. -/
  reads : Reads readFile mask paths list
  /-- Every key that is selected has a record. -/
  occurs : ∀ id, selection.AsksFor id → ∃ record ∈ list, record.code = id.code

theorem isImportOnly_eq_false_iff {id : KeyId} :
    id.isImportOnly = false ↔ id.code ≠ 9 ∧ id.code ≠ 19 := by
  rcases id with id | id <;> cases id <;> decide

/-- The ending of an extraction once the files are read. -/
theorem ending_extract (selected : selection.mask = .ok mask)
    (reads : Reads readFile mask paths list) (output : String) :
    ∃ after, Store.Installed mask list .empty after ∧
      (extract readFile selection output paths).ending =
        match after.missing? mask with
        | some id => .failed (.keyAbsent id)
        | none => (writeKeys after mask output).ending := by
  obtain ⟨after, installed, ending⟩ := reads.ending_readFiles .empty
  refine ⟨after, installed, ?_⟩
  rw [extract, selected]
  dsimp only
  rw [ending]
  cases after.missing? mask with
  | some id => rfl
  | none => rfl

namespace Extractable

variable {after : Store} {id : KeyId}

theorem mask_eq_ok (extractable : Extractable readFile selection paths mask list) :
    selection.mask = .ok mask :=
  Selection.mask_eq_ok.2 ⟨extractable.known, extractable.some, extractable.isOf⟩

theorem allowed (extractable : Extractable readFile selection paths mask list) :
    KeyMask.user.contains mask = true :=
  extractable.isOf.user_contains_iff.2 fun id asks =>
    isImportOnly_eq_false_iff.2 (extractable.users id asks)

/-- The store that the files were read into holds every key of the mask. -/
theorem held (extractable : Extractable readFile selection paths mask list)
    (installed : Store.Installed mask list .empty after) (asked : mask.has id = true) :
    after.has id = true ∧ mask.has id = true ∧ id ≠ .hmac .fileWrite := by
  have asks := extractable.isOf.has_iff.1 asked
  have own := KeyId.ne_fileWrite (isImportOnly_eq_false_iff.2 (extractable.users id asks))
  obtain ⟨record, member, code⟩ := extractable.occurs id asks
  rw [installed.has_iff, KeyId.source_eq_self own, ← code]
  exact ⟨⟨asked, Record.exists_last? member⟩, asked, own⟩

/-- Every key that is selected is in the store that the files were read into, so there is a
record to write for each. -/
theorem exists_excerpt (extractable : Extractable readFile selection paths mask list) :
    ∃ container, Store.Excerpt mask list container := by
  obtain ⟨after, installed, -⟩ := extractable.reads.ending_readFiles .empty
  obtain ⟨blob, provided⟩ := installed.exists_provided (installed.sound .empty)
    fun id listed => extractable.held installed (KeyMask.mem_ids.1 listed)
  exact ⟨_, blob, provided, rfl⟩

/-- The excerpt is written if it is short enough. -/
theorem ending (extractable : Extractable readFile selection paths mask list)
    (excerpt : Store.Excerpt mask list container) (bound : container.length ≤ Uint.maxTotal) :
    (extract readFile selection output paths).ending = .write output container := by
  obtain ⟨after, installed, ending⟩ :=
    ending_extract extractable.mask_eq_ok extractable.reads output
  have none : after.missing? mask = none := by
    apply List.find?_eq_none.2
    intro id listed
    simp [(extractable.held installed (KeyMask.mem_ids.1 listed)).1]
  have exported : (after.exportContainer mask ()).result = .ok container :=
    (installed.export_eq_ok (installed.sound .empty) fun _ asked => asked).2
      ⟨extractable.allowed, excerpt, bound⟩
  rw [ending, none]
  exact ending_running_ok exported

end Extractable

/-- An extraction fails, or it has found something and writes an excerpt of it. -/
theorem extract_ends (readFile : ReadFile) (selection : Selection) (output : String)
    (paths : List String) :
    (∃ cause, (extract readFile selection output paths).ending = .failed cause) ∨
      ∃ mask list container, Extractable readFile selection paths mask list ∧
        Store.Excerpt mask list container ∧ container.length ≤ Uint.maxTotal ∧
        (extract readFile selection output paths).ending = .write output container := by
  cases selected : selection.mask with
  | error cause =>
      refine .inl ⟨cause, ?_⟩
      rw [extract, selected]
      rfl
  | ok mask =>
      rcases reads_or_failed readFile mask paths .empty with ⟨list, reads⟩ | failed
      · obtain ⟨after, installed, ending⟩ := ending_extract selected reads output
        cases absent : after.missing? mask with
        | some id => exact .inl ⟨.keyAbsent id, by rw [ending, absent]⟩
        | none =>
            rw [absent] at ending
            cases exported : (after.exportContainer mask ()).result with
            | error cause => exact .inl ⟨.keys cause, ending.trans (ending_running_error exported)⟩
            | ok container =>
                obtain ⟨known, some, isOf⟩ := Selection.mask_eq_ok.1 selected
                obtain ⟨allowed, excerpt, bound⟩ :=
                  (installed.export_eq_ok (installed.sound .empty) fun _ asked => asked).1 exported
                refine .inr ⟨mask, list, container, ⟨known, isOf, some, ?_, reads, ?_⟩, excerpt,
                  bound, ending.trans (ending_running_ok exported)⟩
                · intro id asks
                  exact isImportOnly_eq_false_iff.1 (isOf.user_contains_iff.1 allowed id asks)
                · intro id asks
                  obtain ⟨blob, provided, -⟩ := excerpt
                  obtain ⟨record, last, -⟩ :=
                    provided id (KeyMask.mem_ids.2 (isOf.has_iff.2 asks))
                  exact ⟨record, Record.mem_of_last? last⟩
      · obtain ⟨cause, ending⟩ := failed _
        refine .inl ⟨cause, ?_⟩
        rw [extract, selected]
        exact ending

/-! ## What is left behind -/

section Execution

variable {rank : Int} {plan : Plan} {files after : FileSystem} {path : String} {data : Bytes}

theorem execute_failed {cause : Failure} (ending : plan.ending = .failed cause) (rank : Int)
    (files : FileSystem) :
    (plan.execute rank files).1.exit = 1 ∧ (plan.execute rank files).2 = files := by
  simp [Plan.execute, Report.ofPlan, Report.failed, ending]

theorem execute_written (ending : plan.ending = .write path data)
    (created : files.create path data = .ok after) (rank : Int) :
    (plan.execute rank files).1.exit = 0 ∧ (plan.execute rank files).2 = after := by
  simp [Plan.execute, Report.ofPlan, ending, created]

theorem execute_unwritten {cause : OsError} (ending : plan.ending = .write path data)
    (refused : files.create path data = .error cause) (rank : Int) :
    (plan.execute rank files).1.exit = 1 ∧ (plan.execute rank files).2 = files := by
  simp [Plan.execute, Report.ofPlan, Report.failed, ending, refused]

end Execution

/-- An extraction leaves all files as they are, or one file has an excerpt of what was found. -/
theorem execute_extract (files : FileSystem) (rank : Int) (selection : Selection)
    (output : String) (paths : List String) :
    let run := (extract files.read selection output paths).execute rank files
    run.1.exit = 1 ∧ run.2 = files ∨
      ∃ mask list container place, Extractable files.read selection paths mask list ∧
        Store.Excerpt mask list container ∧ container.length ≤ Uint.maxTotal ∧
        files.Opens output place ∧ run.1.exit = 0 ∧ run.2 = files.write place container := by
  intro run
  rcases extract_ends files.read selection output paths with ⟨cause, ending⟩ |
    ⟨mask, list, container, extractable, excerpt, bound, ending⟩
  · exact .inl (execute_failed ending rank files)
  · cases created : files.create output container with
    | error cause => exact .inl (execute_unwritten ending created rank)
    | ok after =>
        obtain ⟨place, opens, rfl⟩ := FileSystem.create_eq_ok.1 created
        exact .inr ⟨mask, list, container, place, extractable, excerpt, bound, opens,
          execute_written ending created rank⟩

/-- An extraction succeeds exactly if there is something to write, it is short enough, and a file
can be written where the output path leads.  Then the file there, wherever it is, has one record for
each selected key, in ascending order of type bytes, with the data of the last record of its type in
all the files as they were before, in canonical form; nothing else changes.  If it fails nothing
changes at all. -/
theorem execute_extract_iff (files : FileSystem) (supplies : Supplies) (rank : Int)
    (selection : Selection) (output : String) (paths : List String) :
    let run := (plan files.read supplies (.extract selection output paths)).execute rank files
    (run.1.exit = 0 ↔
      (∃ mask list, Extractable files.read selection paths mask list ∧
        ∀ container, Store.Excerpt mask list container → container.length ≤ 2 ^ 32 - 2) ∧
      ∃ place, files.Opens output place) ∧
    (run.1.exit = 0 → ∃ mask list container place,
      Extractable files.read selection paths mask list ∧ Store.Excerpt mask list container ∧
      (∀ id, id ∈ mask.ids ↔ selection.AsksFor id) ∧
      mask.ids.Pairwise (fun first second => first.code < second.code) ∧
      files.Opens output place ∧
      FileSystem.entry? run.2 place = some (.file container (files.modeAt place)) ∧
      (files.refuses .read place (.file container (files.modeAt place)) = none →
        run.2.read output = .ok container) ∧
      (∀ other, other ≠ place → FileSystem.entry? run.2 other = files.entry? other) ∧
      run.2 = { files with entries := run.2.entries }) ∧
    (run.1.exit ≠ 0 → run.2 = files) := by
  intro run
  rcases execute_extract files rank selection output paths with ⟨exit, left⟩ |
    ⟨mask, list, container, place, extractable, excerpt, bound, opens, exit, left⟩
  · change run.1.exit = 1 at exit
    refine ⟨⟨fun done => ?_, ?_⟩, fun done => ?_, fun _ => left⟩
    · rw [exit] at done
      cases done
    · rintro ⟨⟨mask, list, extractable, bound⟩, place, opens⟩
      obtain ⟨container, excerpt⟩ := extractable.exists_excerpt
      have created : files.create output container = .ok (files.write place container) :=
        FileSystem.create_eq_ok.2 ⟨place, opens, rfl⟩
      exact (execute_written (extractable.ending excerpt (bound container excerpt)) created rank).1
    · rw [exit] at done
      cases done
  · refine ⟨⟨fun _ => ⟨⟨mask, list, extractable, fun other found => ?_⟩, place, opens⟩,
      fun _ => exit⟩, fun _ => ?_, fun failed => absurd exit failed⟩
    · exact excerpt.unique found ▸ bound
    · change run.2 = _ at left
      refine ⟨mask, list, container, place, extractable, excerpt, ?_, mask.ids_ascending, opens,
        ?_, ?_, ?_, ?_⟩
      · exact fun id => KeyMask.mem_ids.trans extractable.isOf.has_iff
      · rw [left]
        exact opens.entry?_write container
      · intro allowed
        rw [left]
        exact FileSystem.read_write opens container allowed
      · intro other apart
        rw [left]
        exact FileSystem.entry?_write_other files container apart
      · rw [left]
        exact FileSystem.write_eq files place container

end Keyring.CommandLine
