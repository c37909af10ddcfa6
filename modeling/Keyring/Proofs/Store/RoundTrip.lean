/-
Module: Keyring.Proofs.Store.RoundTrip
Purpose: Keys that leave one store and enter another.  The records of an export are accepted by
  every import, whatever it is asked for, and each of them stands for the key that was exported; the
  two stores need not have anything else in common.
Main exports: Store.last?_records, Store.madeOf_records, Store.accepted_records,
  Sound.isData_of_writes, Sized.madeOf_records, Sized.accepted_records,
  Store.importContainer_exportContainer
-/
import Keyring.Proofs.Store.Export

namespace Keyring.Store

variable {σ : Type} {store : Store} {ids : List KeyId} {blob : KeyId → Bytes}

/-- The record of a key among the records of some keys. -/
theorem last?_records (ids : List KeyId) (blob : KeyId → Bytes) (id : KeyId) :
    Record.last? id.code (records ids blob) =
      if id ∈ ids then some ⟨id.code, blob id⟩ else none := by
  induction ids with
  | nil => rfl
  | cons first rest inductionHypothesis =>
      have front : records (first :: rest) blob =
          [⟨first.code, blob first⟩] ++ records rest blob := rfl
      rw [front, Record.last?_append, inductionHypothesis, Record.last?_singleton]
      by_cases later : id ∈ rest
      · rw [if_pos later, if_pos (List.mem_cons_of_mem first later), Option.some_or]
      · rw [if_neg later, Option.none_or]
        by_cases same : first = id
        · subst same
          rw [if_pos rfl, if_pos List.mem_cons_self]
        · have other : id ∉ first :: rest := by
            rw [List.mem_cons, not_or]
            exact ⟨Ne.symm same, later⟩
          rw [if_neg other, if_neg]
          exact fun codes => same (KeyId.code_injective codes)

/-- What is written for one of some keys is not longer than the records of all of them. -/
theorem length_blob_le {id : KeyId} (listed : id ∈ ids) (blob : KeyId → Bytes) :
    (blob id).length ≤ (Record.join (records ids blob)).length := by
  have member : (⟨id.code, blob id⟩ : Record) ∈ records ids blob := List.mem_map_of_mem listed
  exact Record.length_data_le_join member

/-- The records of some keys make a container if their data go into length fields. -/
theorem madeOf_records (fits : ∀ id ∈ ids, (blob id).Fits) :
    Record.MadeOf (Record.join (records ids blob)) (records ids blob) := by
  refine ⟨?_, rfl⟩
  intro record member
  obtain ⟨id, listed, rfl⟩ := List.mem_map.1 member
  exact fits id listed

/-- An import accepts records of data that the kinds of their keys admit, whatever it is asked
for. -/
theorem accepted_records (admitted : ∀ id ∈ ids, id.kind.Admits (blob id))
    (others : ∀ id ∈ ids, id ≠ .hmac .fileWrite) (wanted : KeyMask) :
    ∀ record ∈ records ids blob, record.Accepted wanted := by
  intro record member
  obtain ⟨id, listed, rfl⟩ := List.mem_map.1 member
  exact ⟨id, KeyId.ofRecordType?_code (others id listed), fun _ => admitted id listed⟩

namespace Sound

/-- What is written for a key stands for that key. -/
theorem isData_of_writes (sound : Sound store) {id : KeyId} {data : Bytes}
    (writes : store.Writes id data) :
    ∃ key, store.key? id = some key ∧ Key.IsData id data key := by
  obtain ⟨written, bound⟩ := writes_iff.1 writes
  rcases id with id | id
  · obtain ⟨key, numbers, held, listed, rfl⟩ := exists_fields_of_data? written
    have isBlob := Rsa.isBlob_join (sound id key held) listed bound
    exact ⟨.rsa key, key?_rsa_eq_some.2 held, .rsa isBlob⟩
  · obtain ⟨key, held, rfl⟩ := exists_hmac_of_data? written
    exact ⟨.hmac key, key?_hmac_eq_some.2 held, .hmac rfl⟩

end Sound

namespace Sized

variable {total : Nat}

/-- The container of keys that fit is made of their records. -/
theorem madeOf_records (sized : store.Sized ids blob total) :
    Record.MadeOf (Record.join (records ids blob)) (records ids blob) := by
  apply Store.madeOf_records
  intro id listed
  obtain ⟨-, bound⟩ := writes_iff.1 (sized.writes id listed)
  exact Uint.fits_of_le_maxTotal bound

/-- An import accepts the records of keys that fit, whatever it is asked for. -/
theorem accepted_records (sized : store.Sized ids blob total) (sound : Sound store)
    (others : ∀ id ∈ ids, id ≠ .hmac .fileWrite) (wanted : KeyMask) :
    ∀ record ∈ records ids blob, record.Accepted wanted := by
  refine Store.accepted_records ?_ others wanted
  intro id listed
  obtain ⟨key, -, isData⟩ := sound.isData_of_writes (sized.writes id listed)
  exact Key.exists_isData_iff.1 ⟨key, isData⟩

end Sized

/-- What was exported from a reachable store can be imported into every other store.  A key that
was exported and that is asked for there is then the same in both, the slot of the file write HMAC
has the file HMAC if that was exported, and every other slot is as before. -/
theorem importContainer_exportContainer (reachable : Reachable store) {mask : KeyMask}
    {outer : σ} {container : Bytes}
    (exported : (exportContainer store mask outer).result = .ok container) (target : Store)
    (wanted : KeyMask) :
    ∃ after, (importContainer container wanted).Yields target () after ∧
      (∀ id, mask.has id = true → wanted.has id = true →
        ∃ key, store.key? id = some key ∧ after.key? id = some key) ∧
      (mask.has (.hmac .file) = true → wanted.has (.hmac .fileWrite) = true →
        ∃ key, store.hmac .file = some key ∧ after.hmac .fileWrite = some key) ∧
      ∀ id, ¬ (mask.has id = true ∧ wanted.has id = true) →
        ¬ (id = .hmac .fileWrite ∧ mask.has (.hmac .file) = true ∧
          wanted.has (.hmac .fileWrite) = true) →
        after.key? id = target.key? id := by
  have sound := reachable.sound
  obtain ⟨allowed, blob, total, sized, rfl⟩ := sound.exists_sized exported
  obtain ⟨-, noWrite⟩ := KeyMask.exportable_iff.1 (KeyMask.user_contains_iff.1 allowed).1
  have others : ∀ id ∈ mask.ids, id ≠ .hmac .fileWrite := by
    rintro id listed rfl
    rw [KeyMask.mem_ids, noWrite] at listed
    cases listed
  obtain ⟨after, done, installed⟩ := importContainer_of_madeOf (sized.madeOf_records)
    (sized.accepted_records sound others wanted) target
  -- A slot is filled if its source was exported, and then with the key of the source.
  have filled (id : KeyId) (sent : mask.has id.source = true) (asked : wanted.has id = true) :
      ∃ key, store.key? id.source = some key ∧ after.key? id = some key := by
    have listed := KeyMask.mem_ids.2 sent
    have found := last?_records mask.ids blob id.source
    rw [if_pos listed] at found
    obtain ⟨key, isData, held⟩ := installed.read id _ asked found
    obtain ⟨own, kept, ownData⟩ := sound.isData_of_writes (sized.writes _ listed)
    exact ⟨own, kept, ownData.unique isData ▸ held⟩
  refine ⟨after, done, ?_, ?_, ?_⟩
  · intro id sent asked
    have same := KeyId.source_eq_self (others id (KeyMask.mem_ids.2 sent))
    have both := filled id (by rwa [same]) asked
    rwa [same] at both
  · intro sent asked
    obtain ⟨key, kept, held⟩ := filled (.hmac .fileWrite) sent asked
    obtain ⟨hmacKey, own, rfl⟩ := Option.map_eq_some_iff.1 kept
    exact ⟨hmacKey, own, key?_hmac_eq_some.1 held⟩
  · intro id notBoth notCopied
    apply installed.kept
    intro asked
    rw [last?_records, if_neg]
    intro listed
    have sent := KeyMask.mem_ids.1 listed
    by_cases written : id = .hmac .fileWrite
    · subst written
      exact notCopied ⟨rfl, sent, asked⟩
    · rw [KeyId.source_eq_self written] at sent
      exact notBoth ⟨sent, asked⟩

/-- An empty store gets the keys, and the file HMAC twice. -/
theorem firstKeys_roundTrip :
    ∃ container after, (exportContainer firstKeys firstMask ()).result = .ok container ∧
      (importContainer container (firstMask ∪ .single (.hmac .fileWrite))).Yields .empty () after ∧
      after.key? (.rsa .signPrivate) = firstKeys.key? (.rsa .signPrivate) ∧
      after.key? (.hmac .file) = firstKeys.key? (.hmac .file) ∧
      after.hmac .fileWrite = firstKeys.hmac .file := by
  obtain ⟨container, exported⟩ := exists_firstContainer
  obtain ⟨after, done, same, copied, -⟩ := importContainer_exportContainer reachable_firstKeys
    exported .empty (firstMask ∪ .single (.hmac .fileWrite))
  obtain ⟨signKey, signKept, signHeld⟩ := same (.rsa .signPrivate) (by decide) (by decide)
  obtain ⟨fileKey, fileKept, fileHeld⟩ := same (.hmac .file) (by decide) (by decide)
  obtain ⟨copy, copyKept, copyHeld⟩ := copied (by decide) (by decide)
  exact ⟨container, after, exported, done, signHeld.trans signKept.symm,
    fileHeld.trans fileKept.symm, copyHeld.trans copyKept.symm⟩

end Keyring.Store
