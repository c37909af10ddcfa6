/-
Module: Keyring.Proofs.CommandLine.Listing
Purpose: What an inspection lists.  It succeeds on containers in which every record is read as a key
  of its kind, since it asks for all of them; then there is one line for each type of record in the
  file, in ascending order, and its size is that of the last record of the type.  It fails only
  where the container cannot be read, and then it lists nothing.
Main exports: Record.HoldsKey, accepted_listedMask, imported_iff, ListedAs, listedAs_of_isData,
  Report.answer, forall₂_listedAs, exists_describe, InspectEnds, inspect_ends, execute_inspect_iff
-/
import Keyring.Proofs.CommandLine.Inspect
import Keyring.Proofs.Rsa.Size

namespace Keyring

/-- The record is one of a key, and its data are read as a key of this kind. -/
def Record.HoldsKey (record : Record) : Prop :=
  ∃ id : KeyId, id.code = record.code ∧ id ≠ .hmac .fileWrite ∧ id.kind.Admits record.data

namespace CommandLine

open LittleEndian
open Uint (payload)

variable {readFile : ReadFile} {file : String} {data : Bytes} {records : List Record} {id : KeyId}
  {store : Store}

/-! ## What is accepted -/

/-- A listing asks for the keys of all records. -/
theorem listedMask_selects (own : id ≠ .hmac .fileWrite) : listedMask.selects id = true := by
  rw [Store.selects_eq, listedMask_has, beq_eq_false_iff_ne.2 own]
  rfl

theorem accepted_listedMask {record : Record} : record.Accepted listedMask ↔ record.HoldsKey := by
  constructor
  · rintro ⟨id, typed, admitted⟩
    obtain ⟨code, own⟩ := KeyId.ofRecordType?_eq_some.1 typed
    exact ⟨id, code, own, admitted (listedMask_selects own)⟩
  · rintro ⟨id, code, own, admits⟩
    exact ⟨id, KeyId.ofRecordType?_eq_some.2 ⟨code, own⟩, fun _ => admits⟩

theorem imported_iff :
    (Store.importContainer data listedMask .empty).result = .ok () ↔
      ∃ records, Record.MadeOf data records ∧ ∀ record ∈ records, record.HoldsKey := by
  simp only [Store.importContainer_eq_ok, accepted_listedMask]

/-! ## The lines of the answer -/

/-- The line that a listing has for a key, by the last record of its type. -/
inductive ListedAs (records : List Record) : KeyId → String → Prop where
  /-- The modulus of an RSA key is the first number in its data; its bits are counted, so high zero
  bytes do not matter and zero has no bits. -/
  | rsa {id : RsaKeyId} {record : Record} (last : Record.last? id.code records = some record) :
      ListedAs records (.rsa id)
        (row (.rsa id) s!"{(value (payload record.data)).size} bits")
  | hmac {id : HmacKeyId} {record : Record} (last : Record.last? id.code records = some record) :
      ListedAs records (.hmac id) (row (.hmac id) "32 bytes")

theorem listedAs_of_isData {record : Record} {key : Key}
    (last : Record.last? id.code records = some record) (isData : Key.IsData id record.data key) :
    ListedAs records id (row id key.sizeText) := by
  cases isData with
  | @rsa _ _ key isBlob =>
      have bits : key.modulusBits = (value (payload record.data)).size := by
        rw [RsaKey.modulusBits, bitLength_eq_size, isBlob.readsSize.modulus]
      rw [Key.sizeText, bits]
      exact .rsa last
  | @hmac _ _ key same =>
      rw [Key.sizeText, key.length_bytes]
      exact .hmac last

/-- The text of a line of the answer. -/
def Line.text? : Line → Option String
  | .event _ => none
  | .text answer => some answer

/-- The lines of the answer in a report, without those of the log. -/
def Report.answer (report : Report) : List String :=
  report.lines.filterMap Line.text?

theorem filterMap_text_event (log : List Event) :
    (log.map Line.event).filterMap Line.text? = [] := by
  rw [List.filterMap_eq_nil_iff]
  intro line member
  obtain ⟨event, -, rfl⟩ := List.mem_map.1 member
  rfl

/-- The rank of the log takes no line of the answer away. -/
theorem filterMap_text_upTo (rank : Int) (lines : List Line) :
    (Report.upTo rank lines).filterMap Line.text? = lines.filterMap Line.text? := by
  rw [Report.upTo, List.filterMap_filter]
  apply List.filterMap_congr
  intro line _
  cases line with
  | event event => exact ite_self none
  | text answer => rfl

theorem filterMap_text_shown {key : Key} (held : store.key? id = some key) :
    (shown store id).filterMap Line.text? = [row id key.sizeText] := by
  rw [shown, held, List.filterMap_append, filterMap_text_event]
  rfl

/-- A listing has one line for each key, in their order. -/
theorem forall₂_listedAs {ids : List KeyId}
    (each : ∀ id ∈ ids, ∃ key, store.key? id = some key ∧
      ListedAs records id (row id key.sizeText)) :
    List.Forall₂ (ListedAs records) ids
      ((ids.flatMap (shown store)).filterMap Line.text?) := by
  induction ids with
  | nil => exact .nil
  | cons id rest inductionHypothesis =>
      rw [List.forall_mem_cons] at each
      obtain ⟨⟨key, held, listed⟩, others⟩ := each
      rw [List.flatMap_cons, List.filterMap_append, filterMap_text_shown held]
      exact .cons listed (inductionHypothesis others)

/-- Every key that is held has its line, since only records have installed keys. -/
theorem exists_listedAs (installed : Store.Installed listedMask records .empty store)
    (held : store.has id = true) :
    ∃ key, store.key? id = some key ∧ ListedAs records id (row id key.sizeText) := by
  obtain ⟨asked, record, last⟩ := installed.has_iff.1 held
  have own : id ≠ .hmac .fileWrite := by
    rintro rfl
    cases asked
  obtain ⟨key, isData, found⟩ := installed.read id record asked last
  rw [KeyId.source_eq_self own] at last isData
  exact ⟨key, found, listedAs_of_isData last isData⟩

/-- No key that is held is without a line. -/
theorem exists_describe (held : store.has id = true) :
    ∃ line, (describe store id ()).result = .ok line := by
  rw [Store.has_eq_isSome, Option.isSome_iff_exists] at held
  obtain ⟨key, found⟩ := held
  rw [describe_of_key? found]
  exact ⟨_, rfl⟩

/-! ## Whole inspections -/

theorem inspect_fails {cause : KeyError} (read : readFile file = .ok data)
    (failed : (Store.importContainer data listedMask .empty).result = .error cause) :
    ∃ log : List Event,
      inspect readFile file = ⟨log.map .event, .failed (.badContainer file cause)⟩ := by
  have refused : (readContainer file data listedMask .empty).result = .error cause :=
    Op.fails_bind.2 (.inl failed)
  refine ⟨(readContainer file data listedMask .empty).log, ?_⟩
  rw [inspect, readFiles, read]
  dsimp only
  rw [Plan.running, refused]
  dsimp only
  rw [Plan.after, Plan.failing, List.append_nil]

/-- How an inspection of a file that can be read ends. -/
inductive InspectEnds (file : String) (data : Bytes) (plan : Plan) : Prop where
  /-- The keys of the file are listed. -/
  | listed {records : List Record} {ids : List KeyId} (madeOf : Record.MadeOf data records)
      (keys : ∀ record ∈ records, record.HoldsKey)
      (ascending : ids.Pairwise fun first second => first.code < second.code)
      (occurring : ∀ code, code ∈ ids.map KeyId.code ↔ code ∈ records.map Record.code)
      (noCopy : .hmac .fileWrite ∉ ids)
      (lines : List.Forall₂ (ListedAs records) ids (plan.lines.filterMap Line.text?))
      (ending : plan.ending = .done)
  /-- The file cannot be imported. -/
  | failed {cause : KeyError}
      (refused : (Store.importContainer data listedMask .empty).result = .error cause)
      (none : plan.lines.filterMap Line.text? = [])
      (ending : plan.ending = .failed (.badContainer file cause))

theorem inspect_ends (read : readFile file = .ok data) :
    InspectEnds file data (inspect readFile file) := by
  cases ending : (Store.importContainer data listedMask .empty).result with
  | error cause =>
      obtain ⟨log, whole⟩ := inspect_fails read ending
      rw [whole]
      exact .failed ending (filterMap_text_event log) rfl
  | ok answer =>
      obtain ⟨records, madeOf, keys⟩ := imported_iff.1 ending
      obtain ⟨after, log, installed, accepted, -, whole⟩ := inspect_eq read madeOf ending
      have held {id : KeyId} (member : id ∈ KeyId.all.filter after.has) : after.has id = true :=
        (List.mem_filter.1 member).2
      rw [whole]
      refine .listed madeOf keys (KeyId.filter_all_ascending after.has) ?_ ?_ ?_ rfl
      · intro code
        constructor
        · intro listed
          obtain ⟨id, member, rfl⟩ := List.mem_map.1 listed
          exact List.mem_map.2 ((has_iff_occurs installed accepted id).1 (held member))
        · intro occurs
          obtain ⟨record, member, rfl⟩ := List.mem_map.1 occurs
          obtain ⟨id, code, -, -⟩ := keys record member
          have listed := (has_iff_occurs installed accepted id).2 ⟨record, member, code.symm⟩
          exact List.mem_map.2 ⟨id, List.mem_filter.2 ⟨id.mem_all, listed⟩, code⟩
      · intro listed
        obtain ⟨asked, -⟩ := installed.has_iff.1 (held listed)
        cases asked
      · rw [List.filterMap_append, filterMap_text_event, List.nil_append]
        exact forall₂_listedAs fun id member => exists_listedAs installed (held member)

/-! ## Runs -/

section Execution

variable {rank : Int} {plan : Plan} {files : FileSystem}

/-- The answer of a run that writes no file is that of its plan, whatever the log shows. -/
theorem answer_execute (noFile : ∀ path data, plan.ending ≠ .write path data) :
    (plan.execute rank files).1.answer = plan.lines.filterMap Line.text? := by
  cases ending : plan.ending with
  | done =>
      simp only [Plan.execute, Report.ofPlan, Report.answer, ending, filterMap_text_upTo]
  | failed cause =>
      simp only [Plan.execute, Report.ofPlan, Report.failed, Report.answer, ending,
        filterMap_text_upTo]
  | write path data => exact absurd ending (noFile path data)

theorem execute_done (ending : plan.ending = .done) :
    (plan.execute rank files).1.exit = 0 ∧ (plan.execute rank files).2 = files := by
  simp [Plan.execute, Report.ofPlan, ending]

theorem errors_execute_failed {cause : Failure} (ending : plan.ending = .failed cause) :
    (plan.execute rank files).1.errors = cause.text := by
  simp [Plan.execute, Report.ofPlan, Report.failed, ending]

end Execution

/-- An inspection of a file that can be read succeeds exactly if the file is made of records in each
of which there is a key of its kind; no type of record is passed over.  Then the answer has one line
for each type of record in the file, in ascending order, with the size of the key in the last record
of this type.  It fails only where the file cannot be imported, with nothing in the answer: no line
of a key that is held can fail.  No file changes. -/
theorem execute_inspect_iff (files : FileSystem) (supplies : Supplies) (rank : Int) (file : String)
    (data : Bytes) (read : files.read file = .ok data) :
    let run := (plan files.read supplies (.inspect file)).execute rank files
    let mask := KeyMask.user ∪ KeyMask.single (.rsa .rootPublic)
    (run.1.exit = 0 ↔
      ∃ records, Record.MadeOf data records ∧ ∀ record ∈ records, record.HoldsKey) ∧
    (∀ id : KeyId, id ≠ .hmac .fileWrite → mask.selects id = true) ∧
    (run.1.exit = 0 → ∃ records ids, Record.MadeOf data records ∧
      (∀ code, code ∈ ids.map KeyId.code ↔ code ∈ records.map Record.code) ∧
      ids.Pairwise (fun first second => first.code < second.code) ∧ .hmac .fileWrite ∉ ids ∧
      List.Forall₂ (ListedAs records) ids run.1.answer) ∧
    (run.1.exit ≠ 0 → run.1.answer = [] ∧
      ∃ cause, (Store.importContainer data mask .empty).result = .error cause ∧
        run.1.errors = (Failure.badContainer file cause).text) ∧
    (∀ (store : Store) (id : KeyId), store.has id = true →
      ∃ line, (describe store id ()).result = .ok line) ∧
    run.2 = files := by
  intro run mask
  have answer (noFile : ∀ path data, (inspect files.read file).ending ≠ .write path data) :
      run.1.answer = (inspect files.read file).lines.filterMap Line.text? :=
    answer_execute noFile
  cases inspect_ends read with
  | @listed records ids madeOf keys ascending occurring noCopy lines ending =>
      obtain ⟨exit, left⟩ : run.1.exit = 0 ∧ run.2 = files := execute_done ending
      rw [← answer (by simp [ending])] at lines
      exact ⟨iff_of_true exit ⟨records, madeOf, keys⟩, fun _ => listedMask_selects,
        fun _ => ⟨records, ids, madeOf, occurring, ascending, noCopy, lines⟩,
        fun failed => absurd exit failed, fun _ _ => exists_describe, left⟩
  | @failed cause refused none ending =>
      obtain ⟨exit, left⟩ : run.1.exit = 1 ∧ run.2 = files := execute_failed ending rank files
      rw [← answer (by simp [ending])] at none
      have bad : run.1.exit ≠ 0 := by
        rw [exit]
        exact Nat.one_ne_zero
      have broken : ¬ ∃ records, Record.MadeOf data records ∧
          ∀ record ∈ records, record.HoldsKey := by
        intro keys
        cases refused.symm.trans (imported_iff.2 keys)
      exact ⟨iff_of_false bad broken, fun _ => listedMask_selects, fun done => absurd done bad,
        fun _ => ⟨none, cause, refused, errors_execute_failed ending⟩,
        fun _ _ => exists_describe, left⟩

/-- A file HMAC, and two public keys of the same type, each with a high zero byte in its modulus. -/
def paddedRecords : List Record :=
  [⟨4, List.replicate 32 7⟩, ⟨1, Uint.frames [[255, 0], [3]]⟩, ⟨1, Uint.frames [[15, 0], [3]]⟩]

/-- A file with these records. -/
def paddedFiles : FileSystem where
  entries := [(["in"], .file (Record.join paddedRecords) FileSystem.ownerOnly)]

theorem paddedRecords_holdKeys : ∀ record ∈ paddedRecords, record.HoldsKey := by
  have oneByte (byte : UInt8) : Bytes.Fits [byte] := show 1 < UInt32.size by decide
  have twoBytes (low high : UInt8) : Bytes.Fits [low, high] := show 2 < UInt32.size by decide
  have publicKey (low high : UInt8) : Record.HoldsKey ⟨1, Uint.frames [[low, high], [3]]⟩ :=
    ⟨.rsa .signPublic, rfl, by decide, _, rfl,
      List.forall_mem_cons.2 ⟨twoBytes low high, List.forall_mem_singleton.2 (oneByte 3)⟩, rfl⟩
  intro record member
  simp only [paddedRecords, List.mem_cons, List.not_mem_nil, or_false] at member
  rcases member with rfl | rfl | rfl
  · exact ⟨.hmac .file, rfl, by decide, rfl⟩
  · exact publicKey 255 0
  · exact publicKey 15 0

/-- Of the public keys only the last one is listed, by the bits of its modulus. -/
theorem paddedFiles_inspect :
    let run := (plan paddedFiles.read ⟨[], []⟩ (.inspect "/in")).execute 2 paddedFiles
    run.1.exit = 0 ∧ run.2 = paddedFiles ∧
      run.1.answer = [row (.rsa .signPublic) "4 bits", row (.hmac .file) "32 bytes"] := by
  have read : paddedFiles.read "/in" = .ok (Record.join paddedRecords) := by rfl
  have madeOf : Record.MadeOf (Record.join paddedRecords) paddedRecords := by
    refine ⟨?_, rfl⟩
    unfold Bytes.Fits
    decide
  obtain ⟨succeeds, -, -, -, -, left⟩ := execute_inspect_iff paddedFiles ⟨[], []⟩ 2 "/in" _ read
  exact ⟨succeeds.2 ⟨paddedRecords, madeOf, paddedRecords_holdKeys⟩, left, by decide +kernel⟩

end CommandLine

end Keyring
