/-
Module: Keyring.Proofs.Store.Auth
Purpose: The authorization keys, written raw and as a container.  The raw form is made in one pass
  over a buffer of fixed length and the container in two passes over its records; both succeed
  exactly if all three keys are held and fail alike if one is missing, and the raw form is the
  container without its headers.  So a store that reads the container has the same raw form.
Main exports: Store.authMask, Store.held_or_missing, Store.exportOnto_hmac,
  Store.fillAuth_held, Store.fillAuth_missing, Store.exportAuth_cases, Store.exportAuth_iff
-/
import Keyring.Proofs.Store.RoundTrip

namespace Keyring.Store

variable {σ : Type} {store : Store} {ids first later : List HmacKeyId} {id : HmacKeyId}
  {key : HmacKey} {chunk behind room : Bytes} {outer : σ}

/-- The mask of the authorization keys. -/
def authMask : KeyMask :=
  .ofIds (authIds.map .hmac)

example : authMask.toNat = 2 ^ 10 + 2 ^ 11 + 2 ^ 12 := by decide

/-! ## One key -/

theorem blob_hmac (held : store.hmac id = some key) : store.blob (.hmac id) = key.bytes :=
  blob_of_data? (data?_hmac held)

theorem exists_hmac (held : store.has (.hmac id) = true) : ∃ key, store.hmac id = some key :=
  Option.isSome_iff_exists.1 held

/-- Every HMAC key is written as many bytes as a secret has. -/
theorem length_blob_hmac (held : store.has (.hmac id) = true) :
    (store.blob (.hmac id)).length = HmacKey.length := by
  obtain ⟨key, found⟩ := exists_hmac held
  rw [blob_hmac found]
  exact key.length_bytes

theorem writes_blob_hmac (held : store.has (.hmac id) = true) :
    store.Writes (.hmac id) (store.blob (.hmac id)) := by
  obtain ⟨key, found⟩ := exists_hmac held
  rw [blob_hmac found]
  exact writes_iff.2 ⟨data?_hmac found, key.length_bytes_le_maxTotal⟩

/-- A secret takes all of a stretch of its own length, and nothing is reported. -/
theorem exportOnto_hmac (held : store.has (.hmac id) = true)
    (sized : chunk.length = HmacKey.length) :
    (exportOnto store (.hmac id) chunk : Op σ (Nat × Bytes)) =
      pure (HmacKey.length, store.blob (.hmac id)) := by
  obtain ⟨key, found⟩ := exists_hmac held
  have written := Hmac.exportKey_room key (sized.trans key.length_bytes.symm) []
  rw [List.append_nil, List.append_nil] at written
  funext outer
  rw [exportOnto, Op.bind_apply, Op.withinKeeping, exportKey, found, written, blob_hmac found,
    key.length_bytes]
  rfl

theorem exportOnto_missing (absent : store.has (.hmac id) = false) (chunk : Bytes) :
    (exportOnto store (.hmac id) chunk : Op σ (Nat × Bytes)) =
      Op.reject .missingKey .missingKey := by
  funext outer
  rw [exportOnto, Op.bind_apply, Op.withinKeeping, exportKey_eq_ownExport,
    ownExport_missing (key?_eq_none absent)]
  rfl

/-! ## Keys one after the other -/

/-- Either all keys are held, or there is a first one that is not. -/
theorem held_or_missing (store : Store) (ids : List HmacKeyId) :
    (∀ id ∈ ids, store.has (.hmac id) = true) ∨
      ∃ first id later, ids = first ++ id :: later ∧
        (∀ earlier ∈ first, store.has (.hmac earlier) = true) ∧ store.has (.hmac id) = false := by
  cases found : ids.find? fun id => !store.has (.hmac id) with
  | none =>
      apply Or.inl
      intro id member
      simpa using List.find?_eq_none.1 found id member
  | some id =>
      obtain ⟨absent, first, later, split, held⟩ := List.find?_eq_some_iff_append.1 found
      apply Or.inr
      refine ⟨first, id, later, split, ?_, ?_⟩
      · intro earlier member
        simpa using held earlier member
      · simpa using absent

/-- A key that is held fills the first stretch of the room, and the others fill the rest. -/
theorem fillAuth_cons (held : store.has (.hmac id) = true)
    (sized : chunk.length = HmacKey.length) (behind : Bytes) :
    (fillAuth store (id :: later) (chunk ++ behind) : Op σ Bytes) =
      fillAuth store later behind >>= fun filled => pure (store.blob (.hmac id) ++ filled) := by
  rw [fillAuth, Bytes.cut_append sized, Op.checked_ok, pure_bind]
  dsimp only
  rw [exportOnto_hmac held sized, pure_bind]
  exact if_neg fun other => other rfl

theorem fillAuth_held (held : ∀ id ∈ ids, store.has (.hmac id) = true)
    (sized : room.length = ids.length * HmacKey.length) :
    (fillAuth store ids room).Yields outer (ids.flatMap fun id => store.blob (.hmac id)) outer := by
  induction ids generalizing room with
  | nil =>
      rw [List.length_nil, Nat.zero_mul, List.length_eq_zero_iff] at sized
      rw [sized]
      exact Op.yields_pure.2 ⟨rfl, rfl⟩
  | cons id later inductionHypothesis =>
      rw [List.forall_mem_cons] at held
      rw [List.length_cons, Nat.succ_mul, Nat.add_comm] at sized
      obtain ⟨chunk, behind, rfl, own, others⟩ := Uint.exists_append_of_length sized
      rw [fillAuth_cons held.1 own]
      apply Op.yields_bind.2
      exact ⟨_, outer, inductionHypothesis held.2 others, Op.yields_pure.2 ⟨rfl, rfl⟩⟩

/-- The first key that is not held ends the export. -/
theorem fillAuth_missing (held : ∀ earlier ∈ first, store.has (.hmac earlier) = true)
    (absent : store.has (.hmac id) = false)
    (sized : room.length = (first ++ id :: later).length * HmacKey.length) :
    (fillAuth store (first ++ id :: later) room).Fails outer .missingKey := by
  induction first generalizing room with
  | nil =>
      rw [List.nil_append, List.length_cons, Nat.succ_mul, Nat.add_comm] at sized
      obtain ⟨chunk, behind, rfl, own, -⟩ := Uint.exists_append_of_length sized
      rw [List.nil_append, fillAuth, Bytes.cut_append own, Op.checked_ok, pure_bind]
      dsimp only
      rw [exportOnto_missing absent]
      rfl
  | cons earlier rest inductionHypothesis =>
      rw [List.forall_mem_cons] at held
      rw [List.cons_append, List.length_cons, Nat.succ_mul, Nat.add_comm] at sized
      obtain ⟨chunk, behind, rfl, own, others⟩ := Uint.exists_append_of_length sized
      rw [List.cons_append, fillAuth_cons held.1 own]
      apply Op.fails_bind.2
      exact .inl (inductionHypothesis held.2 others)

/-! ## Their records -/

/-- Records of HMAC keys that are held fit together, as long as they are not many. -/
theorem sized_hmac (held : ∀ id ∈ ids, store.has (.hmac id) = true)
    (few : ids.length * (Record.headerSize + HmacKey.length) ≤ Uint.maxTotal) :
    store.Sized (ids.map .hmac) store.blob (ids.length * (Record.headerSize + HmacKey.length)) where
  writes := by
    intro id member
    obtain ⟨own, listed, rfl⟩ := List.mem_map.1 member
    exact writes_blob_hmac (held own listed)
  sum := by
    rw [List.map_map, List.map_congr_left (g := fun _ => Record.headerSize + HmacKey.length)]
    · rw [List.map_const', List.sum_replicate]
      rfl
    · intro id member
      rw [Function.comp_apply, length_blob_hmac (held id member)]
  bound := few

/-- What came with the record of an HMAC key is what is written for the key from then on. -/
theorem Installed.blob_hmac {wanted : KeyMask} {before after : Store}
    (installed : Installed wanted (records (ids.map .hmac) store.blob) before after)
    (listed : id ∈ ids) (other : id ≠ .fileWrite) (asked : wanted.has (.hmac id) = true) :
    after.has (.hmac id) = true ∧ after.blob (.hmac id) = store.blob (.hmac id) := by
  have own : (KeyId.hmac id).source = .hmac id := by
    apply KeyId.source_eq_self
    intro same
    exact other (KeyId.hmac.inj same)
  have found := last?_records (ids.map .hmac) store.blob (.hmac id)
  rw [if_pos (List.mem_map_of_mem listed)] at found
  have filled := installed.read (.hmac id) ⟨(KeyId.hmac id).code, store.blob (.hmac id)⟩ asked
  rw [own] at filled
  obtain ⟨held, isData, kept⟩ := filled found
  cases isData with
  | hmac same =>
      have inSlot := key?_hmac_eq_some.1 kept
      constructor
      · exact Option.isSome_of_eq_some inSlot
      · exact (Store.blob_hmac inSlot).trans same

/-! ## Both forms -/

theorem ids_authMask : authMask.ids = authIds.map .hmac := by decide

theorem user_contains_authMask : KeyMask.user.contains authMask = true := by decide

/-- The buffer of the raw form falls into one stretch for each key. -/
theorem length_authRoom :
    (List.replicate authLength (0 : UInt8)).length = authIds.length * HmacKey.length := by
  rw [List.length_replicate]
  rfl

/-- Both exports succeed if all three keys are held. -/
theorem exportAuth_held (held : ∀ id ∈ authIds, store.has (.hmac id) = true) (outer : σ) :
    (exportAuth store).Yields outer (authIds.flatMap fun id => store.blob (.hmac id)) outer ∧
      (exportContainer store authMask).Yields outer
        (Record.join (records (authIds.map .hmac) store.blob)) outer := by
  constructor
  · exact fillAuth_held held length_authRoom
  · have sized := sized_hmac held (by decide)
    rw [← ids_authMask] at sized ⊢
    exact yields_exportContainer user_contains_authMask sized outer

/-- Both fail at the first key that is not held, whatever was written for the keys in front. -/
theorem exportAuth_missing {first later : List HmacKeyId} (split : authIds = first ++ id :: later)
    (held : ∀ earlier ∈ first, store.has (.hmac earlier) = true)
    (absent : store.has (.hmac id) = false) (outer : σ) :
    (exportAuth store).Fails outer .missingKey ∧
      (exportContainer store authMask).Fails outer .missingKey := by
  constructor
  · have room := length_authRoom
    rw [exportAuth]
    rw [split] at room ⊢
    exact fillAuth_missing held absent room
  · have few : first.length * (Record.headerSize + HmacKey.length) ≤ Uint.maxTotal := by
      have part : first.length ≤ authIds.length := by
        rw [split, List.length_append]
        exact Nat.le_add_right _ _
      have whole : authIds.length * (Record.headerSize + HmacKey.length) ≤ Uint.maxTotal := by
        decide
      exact (Nat.mul_le_mul_right _ part).trans whole
    have order : authMask.ids = first.map .hmac ++ .hmac id :: later.map .hmac := by
      rw [ids_authMask, split, List.map_append, List.map_cons]
    have failure := SizingFails.missing order (sized_hmac held few) absent
    exact (ExportFails.sizing user_contains_authMask failure).fails outer

/-- Either all three keys are held, or neither form can be exported. -/
theorem exportAuth_cases (store : Store) (outer : σ) :
    (∀ id ∈ authIds, store.has (.hmac id) = true) ∨
      (exportAuth store).Fails outer .missingKey ∧
        (exportContainer store authMask).Fails outer .missingKey := by
  rcases store.held_or_missing authIds with held | ⟨first, id, later, split, held, absent⟩
  · exact .inl held
  · exact .inr (exportAuth_missing split held absent outer)

/-- The secrets of the keys go into length fields. -/
theorem fits_blob_hmac (held : ∀ id ∈ ids, store.has (.hmac id) = true) :
    ∀ id ∈ ids.map KeyId.hmac, (store.blob id).Fits := by
  intro id member
  obtain ⟨own, listed, rfl⟩ := List.mem_map.1 member
  rw [Bytes.Fits, length_blob_hmac (held own listed)]
  decide

theorem length_rawAuth (held : ∀ id ∈ authIds, store.has (.hmac id) = true) :
    (authIds.flatMap fun id => store.blob (.hmac id)).length = 96 := by
  have lengths : (authIds.map fun id => (store.blob (.hmac id)).length) =
      authIds.map fun _ => HmacKey.length :=
    List.map_congr_left fun id listed => length_blob_hmac (held id listed)
  rw [List.length_flatMap, lengths]
  rfl

/-- The records of the authorization keys can be read into every store. -/
theorem importContainer_auth (held : ∀ id ∈ authIds, store.has (.hmac id) = true)
    (target : Store) {wanted : KeyMask} (within : wanted.contains authMask = true) (outer : σ) :
    ∃ after,
      (importContainer (Record.join (records (authIds.map .hmac) store.blob)) wanted).Yields target
        () after ∧
      (exportAuth after).Yields outer (authIds.flatMap fun id => store.blob (.hmac id)) outer := by
  have admitted : ∀ id ∈ authIds.map KeyId.hmac, id.kind.Admits (store.blob id) := by
    intro id member
    obtain ⟨own, listed, rfl⟩ := List.mem_map.1 member
    exact length_blob_hmac (held own listed)
  have others : ∀ id ∈ authIds.map KeyId.hmac, id ≠ .hmac .fileWrite := by decide
  obtain ⟨after, done, installed⟩ := importContainer_of_madeOf
    (madeOf_records (fits_blob_hmac held)) (accepted_records admitted others wanted) target
  have asked : ∀ id ∈ authIds, wanted.has (.hmac id) = true := by
    intro id listed
    apply KeyMask.has_of_contains within
    rw [authMask, KeyMask.has_ofIds]
    exact decide_eq_true (List.mem_map_of_mem listed)
  have same : ∀ id ∈ authIds, after.has (.hmac id) = true ∧
      after.blob (.hmac id) = store.blob (.hmac id) := by
    intro id listed
    have other : id ≠ .fileWrite := by
      rintro rfl
      exact others _ (List.mem_map_of_mem listed) rfl
    exact installed.blob_hmac listed other (asked id listed)
  refine ⟨after, done, ?_⟩
  have raw := (exportAuth_held (fun id listed => (same id listed).1) outer).1
  rwa [List.flatMap_congr fun id listed => (same id listed).2] at raw

/-- The raw form of the authorization keys and their container come together: whichever of the three
keys are held and whatever they are, one of the two exports fails exactly if the other one does, for
the same cause, which is never a length, and the raw form is the data of the three records of the
container, 96 bytes.  Where the container is read for these keys, whatever the store held before and
whatever else is asked for, the raw form is the same. -/
theorem exportAuth_iff (store : Store) (outer : σ) :
    (∀ cause, (exportAuth store outer).result = .error cause ↔
      (exportContainer store authMask outer).result = .error cause) ∧
    (∀ secrets, (exportAuth store outer).result = .ok secrets ↔
      ∃ container records, (exportContainer store authMask outer).result = .ok container ∧
        Record.MadeOf container records ∧ records.map Record.code = [10, 11, 12] ∧
        secrets = records.flatMap Record.data) ∧
    (∀ secrets, (exportAuth store outer).result = .ok secrets → secrets.length = 96) ∧
    (∀ container secrets, (exportContainer store authMask outer).result = .ok container →
      (exportAuth store outer).result = .ok secrets →
        ∀ target wanted, wanted.contains authMask = true →
          ∃ after, (importContainer container wanted).Yields target () after ∧
            (exportAuth after outer).result = .ok secrets) ∧
    ∀ cause, (exportAuth store outer).result = .error cause →
      (∀ expected actual, cause ≠ .store (.lengthMismatch expected actual)) ∧
        ∀ needed available, cause ≠ .format (.bufferEnds needed available) := by
  rcases store.exportAuth_cases outer with held | ⟨rawFailed, failed⟩
  · obtain ⟨raw, container⟩ := exportAuth_held held outer
    rw [raw.1, container.1]
    have fits := fits_blob_hmac held
    refine ⟨?_, ?_, ?_, ?_, ?_⟩
    · simp
    · intro secrets
      rw [Except.ok.injEq]
      constructor
      · intro same
        exact ⟨_, _, rfl, madeOf_records fits, rfl, same.symm⟩
      · rintro ⟨_, others, ⟨⟩, madeOf, -, rfl⟩
        rw [madeOf.unique (madeOf_records fits)]
        rfl
    · intro secrets same
      cases same
      exact length_rawAuth held
    · intro container secrets made same target wanted within
      cases made
      cases same
      obtain ⟨after, done, again⟩ := importContainer_auth held target within outer
      exact ⟨after, done, again.1⟩
    · simp
  · rw [Op.Fails] at rawFailed failed
    rw [rawFailed, failed]
    simp

end Keyring.Store
