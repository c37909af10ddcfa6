/-
Module: Keyring.Proofs.CommandLine.Inspect
Purpose: What an inspection prints.  The lines are those of the import, which warns of nothing if it
  succeeds, and then those of the keys that are held, one after the other in ascending order; every
  key is looked up as an RSA key first, so for an HMAC key a warning stands before its line.
Main exports: Plan.events, row, Key.sizeText, misfits, describe_of_key?, shown, listing_eq,
  inspect_eq, has_iff_occurs, warnings_inspect, inspect_warns
-/
import Keyring.Proofs.CommandLine.Extract
import Keyring.Proofs.Warnings

namespace Keyring

/-- The size of a key in a listing. -/
def Key.sizeText : Key → String
  | .rsa key => s!"{key.modulusBits} bits"
  | .hmac key => s!"{key.bytes.length} bytes"

namespace CommandLine

open Event (warnings warnings_append)

/-! ## The line of a key -/

/-- The columns of a listing, for a key of the given size. -/
def row (id : KeyId) (size : String) : String :=
  "  ".intercalate
    [Text.padLeft ' ' 2 (toString id.code), Text.padRight 11 id.kind.name,
      Text.padRight 32 id.name, size]

/-- What the lookup of a key as an RSA key reports, if the key is held. -/
def misfits : KeyId → List Event
  | .rsa _ => []
  | .hmac id => [.wrongLookup (.hmac id)]

theorem describe_of_key? {store : Store} {id : KeyId} {key : Key}
    (held : store.key? id = some key) :
    describe store id () = ⟨.ok (row id key.sizeText), (), misfits id⟩ := by
  cases id with
  | rsa id =>
      obtain ⟨rsaKey, found, rfl⟩ := Option.map_eq_some_iff.1 held
      have size : sizeText store (.rsa id) () = ⟨.ok (Key.rsa rsaKey).sizeText, (), []⟩ := by
        rw [sizeText, Store.lookupRsa, found]
        rfl
      rw [describe, Op.bind_ok size]
      rfl
  | hmac id =>
      obtain ⟨hmacKey, found, rfl⟩ := Option.map_eq_some_iff.1 held
      have size : sizeText store (.hmac id) () =
          ⟨.ok (Key.hmac hmacKey).sizeText, (), misfits (.hmac id)⟩ := by
        rw [sizeText, Store.lookupRsa, Store.lookupHmac, found]
        rfl
      rw [describe, Op.bind_ok size]
      rfl

/-- What is printed for a key of a store. -/
def shown (store : Store) (id : KeyId) : List Line :=
  match store.key? id with
  | none => []
  | some key => (misfits id).map .event ++ [.text (row id key.sizeText)]

/-- No line of a key that is held can fail. -/
theorem listing_eq {store : Store} {ids : List KeyId} (held : ∀ id ∈ ids, store.has id = true) :
    listing store ids = ⟨ids.flatMap (shown store), .done⟩ := by
  induction ids with
  | nil => rfl
  | cons id rest inductionHypothesis =>
      rw [List.forall_mem_cons, Store.has_eq_isSome, Option.isSome_iff_exists] at held
      obtain ⟨⟨key, found⟩, others⟩ := held
      rw [listing, describe_of_key? found, Plan.running, inductionHypothesis others,
        List.flatMap_cons, shown, found]
      simp [Plan.after]

/-! ## A whole inspection -/

variable {readFile : ReadFile} {file : String} {data : Bytes} {records : List Record}

theorem listedMask_has (id : KeyId) : listedMask.has id = !(id == .hmac .fileWrite) := by
  rcases id with id | id <;> cases id <;> decide

/-- The listed keys are those that occur in the file: only a record of its own could fill the slot
that is not asked for, and it has none. -/
theorem has_iff_occurs {after : Store} (installed : Store.Installed listedMask records .empty after)
    (accepted : ∀ record ∈ records, record.Accepted listedMask) (id : KeyId) :
    after.has id = true ↔ ∃ record ∈ records, record.code = id.code := by
  rw [installed.has_iff, listedMask_has]
  by_cases copy : id = .hmac .fileWrite
  · subst copy
    constructor
    · rintro ⟨asked, -⟩
      cases asked
    · rintro ⟨record, member, code⟩
      have range := (Record.accepted_iff.1 (accepted record member)).1
      rw [code] at range
      exact absurd range (by decide)
  · rw [KeyId.source_eq_self copy, beq_eq_false_iff_ne.2 copy]
    simp only [Bool.not_false, true_and]
    constructor
    · rintro ⟨record, found⟩
      exact ⟨record, Record.mem_of_last? found⟩
    · rintro ⟨record, member, code⟩
      exact code ▸ Record.exists_last? member

/-- A file that is imported is listed to its end. -/
theorem inspect_eq (read : readFile file = .ok data) (madeOf : Record.MadeOf data records)
    (imported : (Store.importContainer data listedMask .empty).result = .ok ()) :
    ∃ after log, Store.Installed listedMask records .empty after ∧
      (∀ record ∈ records, record.Accepted listedMask) ∧ warnings log = [] ∧
      inspect readFile file =
        ⟨log.map .event ++ (KeyId.all.filter after.has).flatMap (shown after), .done⟩ := by
  obtain ⟨others, otherMadeOf, accepted⟩ := Store.importContainer_eq_ok.1 imported
  obtain rfl := madeOf.unique otherMadeOf
  obtain ⟨after, done, installed⟩ := Store.importContainer_of_madeOf madeOf accepted .empty
  have reads : (readContainer file data listedMask).Yields .empty () after :=
    yields_readContainer.2 done
  obtain ⟨log, ran⟩ := reads.exists_log
  have warnsOnce : Op.WarnsOnce (readContainer file data listedMask) :=
    (Store.warnsOnce_importContainer data listedMask).bind fun _ => .emit (by nofun)
  have quiet : warnings log = [] := by
    have here := warnsOnce .empty
    rw [ran] at here
    exact here.quiet rfl
  have listed : listing after (KeyId.all.filter after.has) =
      ⟨(KeyId.all.filter after.has).flatMap (shown after), .done⟩ :=
    listing_eq fun id member => (List.mem_filter.1 member).2
  refine ⟨after, log, installed, accepted, quiet, ?_⟩
  rw [inspect, readFiles, read]
  dsimp only
  rw [ran, Plan.running]
  dsimp only
  rw [readFiles, listed]
  rfl

/-! ## Warnings of an inspection -/

/-- The event that a line of the log stands for. -/
def Line.event? : Line → Option Event
  | .event reported => some reported
  | .text _ => none

/-- The events among the lines that a plan prints. -/
def Plan.events (plan : Plan) : List Event :=
  plan.lines.filterMap Line.event?

theorem filterMap_event (log : List Event) : (log.map Line.event).filterMap Line.event? = log := by
  rw [List.filterMap_map]
  exact List.filterMap_some

theorem events_shown {store : Store} {id : KeyId} (held : store.has id = true) :
    (shown store id).filterMap Line.event? = misfits id := by
  rw [Store.has_eq_isSome, Option.isSome_iff_exists] at held
  obtain ⟨key, found⟩ := held
  rw [shown, found, List.filterMap_append, filterMap_event]
  exact List.append_nil _

theorem warnings_misfits (ids : List KeyId) :
    warnings (ids.flatMap misfits) = (ids.filter fun id => id.kind == .hmac).map .wrongLookup := by
  induction ids with
  | nil => rfl
  | cons id rest inductionHypothesis =>
      rw [List.flatMap_cons, warnings_append, inductionHypothesis]
      cases id with
      | rsa id => cases id <;> rfl
      | hmac id => rfl

theorem warnings_inspect (read : readFile file = .ok data) (madeOf : Record.MadeOf data records)
    (imported : (Store.importContainer data listedMask .empty).result = .ok ()) :
    (inspect readFile file).ending = .done ∧
      warnings (inspect readFile file).events =
        (KeyId.all.filter fun id =>
          id.kind == .hmac && records.any fun record => record.code == id.code).map
            .wrongLookup := by
  obtain ⟨after, log, installed, accepted, quiet, whole⟩ := inspect_eq read madeOf imported
  have occurs (id : KeyId) : after.has id = records.any fun record => record.code == id.code := by
    rw [Bool.eq_iff_iff, has_iff_occurs installed accepted]
    simp
  have lines : ((KeyId.all.filter after.has).flatMap (shown after)).filterMap Line.event? =
      (KeyId.all.filter after.has).flatMap misfits := by
    rw [List.filterMap_flatMap]
    exact List.flatMap_congr fun id member => events_shown (List.mem_filter.1 member).2
  rw [whole]
  refine ⟨rfl, ?_⟩
  rw [Plan.events, List.filterMap_append, filterMap_event, lines, warnings_append, quiet,
    List.nil_append, warnings_misfits, List.filter_filter]
  simp only [occurs]

/-- An inspection of a file that is imported succeeds, and it warns exactly of the HMAC keys in the
file, in ascending order and of each once, that they were looked up as RSA keys.  So it is silent if
and only if the file has no record of an HMAC key. -/
theorem inspect_warns (read : readFile file = .ok data)
    (imported : (Store.importContainer data (KeyMask.user ∪ KeyMask.single (.rsa .rootPublic))
      .empty).result = .ok ()) :
    ∃ records, Record.MadeOf data records ∧
      (inspect readFile file).ending = .done ∧
      warnings (inspect readFile file).events =
        (KeyId.all.filter fun id =>
          id.kind == .hmac && records.any fun record => record.code == id.code).map
            .wrongLookup ∧
      (warnings (inspect readFile file).events = [] ↔
        ∀ record ∈ records, ∀ id : HmacKeyId, record.code ≠ id.code) := by
  obtain ⟨records, madeOf, -⟩ := Store.importContainer_eq_ok.1 imported
  obtain ⟨ending, warned⟩ := warnings_inspect read madeOf imported
  refine ⟨records, madeOf, ending, warned, ?_⟩
  rw [warned, List.map_eq_nil_iff, List.filter_eq_nil_iff]
  constructor
  · intro silent record member id code
    apply silent (.hmac id) (KeyId.mem_all _)
    rw [Bool.and_eq_true, List.any_eq_true]
    exact ⟨rfl, record, member, beq_iff_eq.2 code⟩
  · intro none id _ warns
    rw [Bool.and_eq_true, List.any_eq_true] at warns
    obtain ⟨kind, record, member, code⟩ := warns
    cases id with
    | rsa id => cases id <;> cases kind
    | hmac id => exact none record member id (beq_iff_eq.1 code)

/-- A record of an HMAC key, and nothing else. -/
def secretRecords : List Record := [⟨4, List.replicate 32 7⟩]

/-- Every path leads to a file with these records. -/
def secretFile : ReadFile := fun _ => .ok (Record.join secretRecords)

theorem secretRecords_imported :
    Record.MadeOf (Record.join secretRecords) secretRecords ∧
      (Store.importContainer (Record.join secretRecords) listedMask .empty).result = .ok () := by
  have short : (List.replicate 32 7 : Bytes).length < UInt32.size := by decide
  have madeOf : Record.MadeOf (Record.join secretRecords) secretRecords :=
    ⟨List.forall_mem_singleton.2 short, rfl⟩
  exact ⟨madeOf, Store.importContainer_eq_ok.2
    ⟨_, madeOf, List.forall_mem_singleton.2 ⟨.hmac .file, rfl, fun _ => rfl⟩⟩⟩

theorem secretFile_warns :
    (inspect secretFile "a.keys").ending = .done ∧
      warnings (inspect secretFile "a.keys").events ≠ [] := by
  obtain ⟨madeOf, imported⟩ := secretRecords_imported
  have read : secretFile "a.keys" = .ok (Record.join secretRecords) := rfl
  obtain ⟨records, others, ending, -, silent⟩ := inspect_warns read imported
  refine ⟨ending, fun none => ?_⟩
  rw [silent, others.unique madeOf] at none
  exact none _ List.mem_cons_self .file rfl

/-- The warning of an inspection that succeeds, as it stands in the log. -/
theorem secretFile_not_silent :
    (Store.importContainer (Record.join secretRecords) listedMask .empty).result = .ok () ∧
      (inspect secretFile "a.keys").ending = .done ∧
      ∃ event ∈ (inspect secretFile "a.keys").events, event.level = .warn ∧
        event.message = "Programmer error: invalid key (4) in lookup_rsa" := by
  obtain ⟨madeOf, imported⟩ := secretRecords_imported
  have read : secretFile "a.keys" = .ok (Record.join secretRecords) := rfl
  obtain ⟨ending, warned⟩ := warnings_inspect read madeOf imported
  have member : Event.wrongLookup (.hmac .file) ∈
      warnings (inspect secretFile "a.keys").events := by
    rw [warned]
    decide
  exact ⟨imported, ending, _, (List.mem_filter.1 member).1, rfl, rfl⟩

end CommandLine

end Keyring
