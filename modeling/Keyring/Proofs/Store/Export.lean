/-
Module: Keyring.Proofs.Store.Export
Purpose: What an export writes and how it fails.  A container is written in two passes that know
  nothing of each other; here both follow the blobs that the keys have when each is exported on its
  own, so the second pass fills exactly the buffer that the first one measured, and whatever fails
  does so before any byte is written.
Main exports: Store.Writes, Store.Sized, Store.SizingFails, Store.ExportFails, Store.writes_iff,
  Store.containerLength_sized, Store.fillRecords_sized, Store.yields_exportContainer,
  Store.ExportFails.fails, Sound.exists_sized, Sound.exportFails,
  Store.exportContainer_iff
-/
import Keyring.Proofs.Store.Reachable

namespace Keyring.Store

variable {σ : Type} {store : Store}

/-! ## One key in both passes -/

/-- The blob is what the export of a key on its own writes: the data of the key, whose length is
answered without a buffer, and which go into a buffer with as much room, where what is behind them
stays. -/
structure Writes (store : Store) (id : KeyId) (blob : Bytes) : Prop where
  data : store.data? id = some blob
  sized : (store.ownExport id none).result = .ok blob.length
  filled : ∀ room behind, room.length = blob.length →
    (store.ownExport id).Yields (some (room ++ behind)) blob.length (some (blob ++ behind))

/-- The data of a key are written as long as they stay below the failure mark. -/
theorem writes_iff {id : KeyId} {blob : Bytes} :
    store.Writes id blob ↔ store.data? id = some blob ∧ blob.length ≤ Uint.maxTotal := by
  constructor
  · intro writes
    refine ⟨writes.data, Nat.le_of_not_lt fun exceeds => ?_⟩
    have sized := writes.sized
    rw [ownExport_overflow writes.data exceeds] at sized
    cases sized
  · rintro ⟨written, bound⟩
    refine ⟨written, ?_, ?_⟩
    · rw [ownExport_none written bound]
    · intro room behind sized
      rw [Op.Yields, ownExport_room written bound sized behind]
      exact ⟨rfl, rfl⟩

/-- A key in a slot of its own half can be written. -/
theorem Sound.exists_data? (sound : Sound store) {id : KeyId} (held : store.has id = true) :
    ∃ blob, store.data? id = some blob := by
  rcases id with id | id
  · obtain ⟨key, found⟩ := Option.isSome_iff_exists.1 held
    obtain ⟨numbers, listed⟩ := Rsa.exists_fields (sound id key found)
    exact ⟨Uint.join numbers, data?_rsa found listed⟩
  · obtain ⟨key, found⟩ := Option.isSome_iff_exists.1 held
    exact ⟨key.bytes, data?_hmac found⟩

/-! ## Keys whose records fit -/

/-- The records of some keys. -/
def records (ids : List KeyId) (blob : KeyId → Bytes) : List Record :=
  ids.map fun id => ⟨id.code, blob id⟩

/-- The keys can be written, and their records take `total` bytes together, which is below the
failure mark. -/
structure Sized (store : Store) (ids : List KeyId) (blob : KeyId → Bytes) (total : Nat) : Prop where
  writes : ∀ id ∈ ids, store.Writes id (blob id)
  sum : (ids.map fun id => Record.headerSize + (blob id).length).sum = total
  bound : total ≤ Uint.maxTotal

namespace Sized

variable {ids : List KeyId} {id : KeyId} {blob : KeyId → Bytes} {total : Nat}

theorem nil (store : Store) (blob : KeyId → Bytes) : store.Sized [] blob 0 where
  writes _ member := by cases member
  sum := rfl
  bound := Nat.zero_le _

theorem snoc (sized : store.Sized ids blob total) (writes : store.Writes id (blob id))
    (bound : total + (Record.headerSize + (blob id).length) ≤ Uint.maxTotal) :
    store.Sized (ids ++ [id]) blob (total + (Record.headerSize + (blob id).length)) where
  writes other member := by
    rw [List.mem_append, List.mem_singleton] at member
    rcases member with earlier | rfl
    · exact sized.writes other earlier
    · exact writes
  sum := by
    rw [List.map_append, List.sum_append, sized.sum, List.map_singleton, List.sum_singleton]
  bound := bound

theorem cons (writes : store.Writes id (blob id)) (sized : store.Sized ids blob total)
    (bound : Record.headerSize + (blob id).length + total ≤ Uint.maxTotal) :
    store.Sized (id :: ids) blob (Record.headerSize + (blob id).length + total) where
  writes := List.forall_mem_cons.2 ⟨writes, sized.writes⟩
  sum := by rw [List.map_cons, List.sum_cons, sized.sum]
  bound := bound

/-- Where the records of some keys fit, those of the first ones and those of the later ones do. -/
theorem split {first later : List KeyId} (sized : store.Sized (first ++ later) blob total) :
    ∃ part rest, store.Sized first blob part ∧ store.Sized later blob rest ∧
      total = part + rest := by
  rcases sized with ⟨writes, sum, bound⟩
  rw [List.map_append, List.sum_append] at sum
  refine ⟨_, _, ⟨?_, rfl, by omega⟩, ⟨?_, rfl, by omega⟩, sum.symm⟩
  · intro id member
    exact writes id (List.mem_append_left later member)
  · intro id member
    exact writes id (List.mem_append_right first member)

theorem uncons (sized : store.Sized (id :: ids) blob total) :
    store.Writes id (blob id) ∧ ∃ later, store.Sized ids blob later ∧
      total = Record.headerSize + (blob id).length + later := by
  rcases sized with ⟨writes, sum, bound⟩
  rw [List.forall_mem_cons] at writes
  rw [List.map_cons, List.sum_cons] at sum
  refine ⟨writes.1, _, ⟨writes.2, rfl, ?_⟩, sum.symm⟩
  omega

/-- The sum is the length of the container that is made of the records. -/
theorem length_join (sized : store.Sized ids blob total) :
    (Record.join (records ids blob)).length = total := by
  rw [Record.length_join, records, List.map_map]
  exact sized.sum

end Sized

/-! ## The first pass -/

/-- Records for two lists of keys are measured one list after the other. -/
theorem containerLength_append (store : Store) (first later : List KeyId) (total : Nat) :
    (containerLength store (first ++ later) total : Op σ Nat) =
      containerLength store first total >>= containerLength store later := by
  induction first generalizing total with
  | nil => rfl
  | cons id rest inductionHypothesis =>
      rw [List.cons_append, containerLength, containerLength]
      simp only [bind_assoc, inductionHypothesis]

/-- The record of one key, measured on its own. -/
theorem containerLength_single (store : Store) (id : KeyId) (total : Nat) :
    (containerLength store [id] total : Op σ Nat) =
      Op.within none (store.ownExport id) >>= fun length =>
        Op.ofExcept (Uint.accumulate total Record.headerSize) >>= fun header =>
          Op.ofExcept (Uint.accumulate header length) := by
  rw [containerLength, exportKey_eq_ownExport]
  simp only [containerLength, bind_pure]

section Single

variable {id : KeyId} {length total : Nat}

theorem yields_containerLength (own : (store.ownExport id none).result = .ok length)
    (bound : total + (Record.headerSize + length) ≤ Uint.maxTotal) (outer : σ) :
    (containerLength store [id] total).Yields outer (total + (Record.headerSize + length))
      outer := by
  have header : total + Record.headerSize ≤ Uint.maxTotal := by omega
  have whole : total + Record.headerSize + length ≤ Uint.maxTotal := by omega
  rw [containerLength_single]
  apply Op.yields_bind.2
  refine ⟨length, outer, Op.yields_within.2 ⟨own, rfl⟩, ?_⟩
  rw [Uint.accumulate_of_le header, Op.ofExcept_ok, pure_bind, Uint.accumulate_of_le whole,
    Op.ofExcept_ok, Op.yields_pure]
  exact ⟨Nat.add_assoc _ _ _, rfl⟩

/-- A length that cannot be taken ends the pass. -/
theorem fails_containerLength {cause : KeyError}
    (own : (store.ownExport id none).result = .error cause) (total : Nat) (outer : σ) :
    (containerLength store [id] total).Fails outer cause := by
  rw [containerLength_single]
  apply Op.fails_bind.2
  exact .inl own

/-- A sum beyond the mark ends the pass, whichever of its two parts goes beyond it. -/
theorem fails_containerLength_of_lt (own : (store.ownExport id none).result = .ok length)
    (exceeds : Uint.maxTotal < total + (Record.headerSize + length)) (outer : σ) :
    (containerLength store [id] total).Fails outer .lengthOverflow := by
  rw [containerLength_single]
  apply Op.fails_bind.2
  refine .inr ⟨length, outer, Op.yields_within.2 ⟨own, rfl⟩, ?_⟩
  by_cases header : total + Record.headerSize ≤ Uint.maxTotal
  · have whole : Uint.maxTotal < total + Record.headerSize + length := by omega
    rw [Uint.accumulate_of_le header, Op.ofExcept_ok, pure_bind, Uint.accumulate_of_lt whole]
    rfl
  · rw [Uint.accumulate_of_lt (Nat.lt_of_not_le header)]
    rfl

end Single

/-- The first pass answers what the records take. -/
theorem containerLength_sized {ids : List KeyId} {blob : KeyId → Bytes} {total : Nat}
    (sized : store.Sized ids blob total) {start : Nat} (bound : start + total ≤ Uint.maxTotal)
    (outer : σ) : (containerLength store ids start).Yields outer (start + total) outer := by
  induction ids generalizing start total with
  | nil =>
      rw [← sized.sum]
      apply Op.yields_pure.2
      exact ⟨rfl, rfl⟩
  | cons id rest inductionHypothesis =>
      obtain ⟨writes, later, rest, rfl⟩ := sized.uncons
      rw [← Nat.add_assoc] at bound ⊢
      rw [← List.singleton_append, containerLength_append]
      have first : start + (Record.headerSize + (blob id).length) ≤ Uint.maxTotal := by omega
      apply Op.yields_bind.2
      exact ⟨_, outer, yields_containerLength writes.sized first outer,
        inductionHypothesis rest bound⟩

theorem Sized.yields_containerLength {ids : List KeyId} {blob : KeyId → Bytes} {total : Nat}
    (sized : store.Sized ids blob total) (outer : σ) :
    (containerLength store ids 0).Yields outer total outer := by
  have start : 0 + total ≤ Uint.maxTotal := by
    rw [Nat.zero_add]
    exact sized.bound
  have measured := containerLength_sized sized start outer
  rwa [Nat.zero_add] at measured

/-! ## The second pass -/

theorem yields_exportOnto {id : KeyId} {blob room : Bytes} (writes : store.Writes id blob)
    (sized : room.length = blob.length) (behind : Bytes) (outer : σ) :
    (exportOnto store id (room ++ behind)).Yields outer (blob.length, blob ++ behind) outer := by
  obtain ⟨answered, left⟩ := writes.filled room behind sized
  rw [exportOnto, exportKey_eq_ownExport]
  apply Op.yields_bind.2
  refine ⟨(blob.length, some (blob ++ behind)), outer, ⟨?_, rfl⟩, ⟨rfl, rfl⟩⟩
  rw [Op.withinKeeping, answered, left]
  rfl

/-- The second pass fills as much of a buffer as was measured, and what is behind it stays. -/
theorem fillRecords_sized {ids : List KeyId} {blob : KeyId → Bytes} {total : Nat}
    (sized : store.Sized ids blob total) {room : Bytes} (whole : room.length = total)
    (behind : Bytes) (position : Nat) (outer : σ) :
    (fillRecords store ids position (room ++ behind)).Yields outer
      (position + total, Record.join (records ids blob) ++ behind) outer := by
  induction ids generalizing total room position with
  | nil =>
      have empty := sized.sum
      rw [List.map_nil, List.sum_nil] at empty
      rw [← empty, List.length_eq_zero_iff] at whole
      subst whole empty
      apply Op.yields_pure.2
      exact ⟨rfl, rfl⟩
  | cons id rest inductionHypothesis =>
      have below := sized.bound
      obtain ⟨writes, later, laterSized, rfl⟩ := sized.uncons
      -- The room falls into a header, a stretch for the blob, and room for the later records.
      rw [Nat.add_assoc] at whole
      obtain ⟨header, body, rfl, headerFits, bodyFits⟩ := Uint.exists_append_of_length whole
      obtain ⟨stretch, others, rfl, stretchFits, othersFit⟩ :=
        Uint.exists_append_of_length bodyFits
      rw [List.append_assoc, List.append_assoc]
      have enough : ¬ (header ++ (stretch ++ (others ++ behind))).length < Record.headerSize := by
        rw [List.length_append]
        omega
      have narrow : (blob id).length < UInt32.size := by
        have mark : Uint.maxTotal < UInt32.size := by decide
        omega
      have field : header.length =
          (LittleEndian.digits Uint.lengthFieldSize (blob id).length ++ [id.code]).length := by
        rw [headerFits, List.length_append, LittleEndian.length_digits]
        rfl
      have filled := inductionHypothesis laterSized othersFit
        (position + (Record.headerSize + (blob id).length))
      rw [fillRecords, Bytes.shorterThan_eq, if_neg (by simpa using enough),
        Bytes.cut_append headerFits, Op.checked_ok, pure_bind]
      apply Op.yields_bind.2
      refine ⟨_, outer, yields_exportOnto writes stretchFits (others ++ behind) outer, ?_⟩
      simp only [narrow32_eq_ok narrow, Op.checked_ok, pure_bind, Bytes.overwrite_eq_ok field,
        Bytes.cut_append rfl]
      apply Op.yields_bind.2
      refine ⟨_, outer, filled, Op.yields_pure.2 ⟨?_, rfl⟩⟩
      rw [Prod.mk.injEq]
      constructor
      · omega
      · simp [records, Record.bytes]

/-! ## How sizing fails -/

/-- Why the lengths of the records of some keys cannot be added up: at the first key for which this
fails it is not held, or its own length or the sum so far goes beyond the failure mark. -/
inductive SizingFails (store : Store) (ids : List KeyId) : KeyError → Prop where
  | missing {first later : List KeyId} {id : KeyId} {blob : KeyId → Bytes} {total : Nat}
      (order : ids = first ++ id :: later) (sized : store.Sized first blob total)
      (absent : store.has id = false) : SizingFails store ids .missingKey
  | ownLength {first later : List KeyId} {id : KeyId} {blob : KeyId → Bytes} {total : Nat}
      (order : ids = first ++ id :: later) (sized : store.Sized first blob total)
      (own : (store.ownExport id none).result = .error .lengthOverflow) :
      SizingFails store ids .lengthOverflow
  | runningTotal {first later : List KeyId} {id : KeyId} {blob : KeyId → Bytes}
      {total length : Nat} (order : ids = first ++ id :: later)
      (sized : store.Sized first blob total)
      (own : (store.ownExport id none).result = .ok length)
      (exceeds : Uint.maxTotal < total + (Record.headerSize + length)) :
      SizingFails store ids .lengthOverflow

/-- What fails at a key behind keys that fit fails for the whole list. -/
theorem fails_containerLength_append {first later : List KeyId} {id : KeyId}
    {blob : KeyId → Bytes} {total : Nat} {cause : KeyError} {outer : σ}
    (sized : store.Sized first blob total)
    (failed : (containerLength store [id] total).Fails outer cause) :
    (containerLength store (first ++ id :: later) 0).Fails outer cause := by
  rw [containerLength_append]
  apply Op.fails_bind.2
  refine .inr ⟨total, outer, sized.yields_containerLength outer, ?_⟩
  rw [← List.singleton_append, containerLength_append]
  apply Op.fails_bind.2
  exact .inl failed

theorem SizingFails.fails {ids : List KeyId} {cause : KeyError}
    (failure : store.SizingFails ids cause) (outer : σ) :
    (containerLength store ids 0).Fails outer cause := by
  cases failure with
  | missing order sized absent =>
      subst order
      apply fails_containerLength_append sized
      apply fails_containerLength
      rw [ownExport_missing (key?_eq_none absent)]
  | ownLength order sized own =>
      subst order
      apply fails_containerLength_append sized
      exact fails_containerLength own _ outer
  | runningTotal order sized own exceeds =>
      subst order
      apply fails_containerLength_append sized
      exact fails_containerLength_of_lt own exceeds outer

/-- Either all records fit, or there is a first key at which sizing fails. -/
theorem Sound.sized_or_fails (sound : Sound store) (ids : List KeyId) :
    (∃ blob total, store.Sized ids blob total) ∨ ∃ cause, store.SizingFails ids cause := by
  -- The keys in front of the remaining ones are those that were found to fit.
  have walk (later : List KeyId) : ∀ first total, store.Sized first store.blob total →
      (∃ whole, store.Sized (first ++ later) store.blob whole) ∨
        ∃ cause, store.SizingFails (first ++ later) cause := by
    induction later with
    | nil =>
        intro first total sized
        rw [List.append_nil]
        exact .inl ⟨total, sized⟩
    | cons id rest inductionHypothesis =>
        intro first total sized
        cases held : store.has id with
        | false => exact .inr ⟨_, .missing rfl sized held⟩
        | true =>
            obtain ⟨data, written⟩ := sound.exists_data? held
            by_cases own : data.length ≤ Uint.maxTotal
            · have writes : store.Writes id (store.blob id) := by
                rw [blob_of_data? written]
                exact writes_iff.2 ⟨written, own⟩
              by_cases fits : total + (Record.headerSize + (store.blob id).length) ≤ Uint.maxTotal
              · have onward := inductionHypothesis _ _ (sized.snoc writes fits)
                rwa [List.append_assoc, List.singleton_append] at onward
              · have exceeds := Nat.lt_of_not_le fits
                exact .inr ⟨_, .runningTotal rfl sized writes.sized exceeds⟩
            · refine .inr ⟨_, .ownLength rfl sized ?_⟩
              rw [ownExport_overflow written (Nat.lt_of_not_le own)]
  rcases walk ids [] 0 (.nil store store.blob) with ⟨total, sized⟩ | failed
  · exact .inl ⟨store.blob, total, sized⟩
  · exact .inr failed

/-! ## A whole export -/

/-- Why the keys of a mask cannot be exported.  A key that can only be imported comes first, the
bits of no key second, and what the keys themselves say last. -/
inductive ExportFails (store : Store) (mask : KeyMask) : KeyError → Prop where
  | rootPublic (asked : mask.has (.rsa .rootPublic) = true) :
      ExportFails store mask (.store (.importOnly (.rsa .rootPublic)))
  | fileWrite (noRoot : mask.has (.rsa .rootPublic) = false)
      (asked : mask.has (.hmac .fileWrite) = true) :
      ExportFails store mask (.store (.importOnly (.hmac .fileWrite)))
  | unknownBits {rest : KeyMask} (noRoot : mask.has (.rsa .rootPublic) = false)
      (noWrite : mask.has (.hmac .fileWrite) = false)
      (left : ∀ i, rest.bits.getLsbD i = true ↔
        mask.bits.getLsbD i = true ∧ ∀ id : KeyId, id.code.toNat ≠ i)
      (some : ∃ i, rest.bits.getLsbD i = true) :
      ExportFails store mask (.store (.unknownBits rest))
  | sizing {cause : KeyError} (allowed : KeyMask.user.contains mask = true)
      (failed : store.SizingFails mask.ids cause) : ExportFails store mask cause

section Export

variable {mask : KeyMask}

theorem exportableIds_of_user (allowed : KeyMask.user.contains mask = true) :
    (exportableIds mask : Op σ (List KeyId)) = pure mask.ids := by
  obtain ⟨exportable, known⟩ := KeyMask.user_contains_iff.1 allowed
  obtain ⟨noRoot, noWrite⟩ := KeyMask.exportable_iff.1 exportable
  simp [exportableIds, KeyMask.find?_isImportOnly, noRoot, noWrite, known]

theorem yields_exportContainer (allowed : KeyMask.user.contains mask = true)
    {blob : KeyId → Bytes} {total : Nat} (sized : store.Sized mask.ids blob total) (outer : σ) :
    (exportContainer store mask).Yields outer (Record.join (records mask.ids blob)) outer := by
  have zeros : (List.replicate total (0 : UInt8)).length = total := List.length_replicate
  have filled := fillRecords_sized sized zeros [] 0 outer
  rw [Nat.zero_add, List.append_nil, List.append_nil] at filled
  rw [exportContainer, exportableIds_of_user allowed, pure_bind]
  apply Op.yields_bind.2
  refine ⟨total, outer, sized.yields_containerLength outer, ?_⟩
  apply Op.yields_bind.2
  refine ⟨_, outer, filled, ?_⟩
  dsimp only
  rw [if_neg (fun mismatch => mismatch rfl)]
  apply Op.yields_bind.2
  exact ⟨(), outer, Op.yields_emit.2 rfl, Op.yields_pure.2 ⟨rfl, rfl⟩⟩

theorem ExportFails.fails {cause : KeyError} (failure : store.ExportFails mask cause)
    (outer : σ) : (exportContainer store mask).Fails outer cause := by
  unfold exportContainer
  apply Op.fails_bind.2
  cases failure with
  | rootPublic asked =>
      apply Or.inl
      simp [Op.Fails, exportableIds, KeyMask.find?_isImportOnly, asked]
  | fileWrite noRoot asked =>
      apply Or.inl
      simp [Op.Fails, exportableIds, KeyMask.find?_isImportOnly, noRoot, asked]
  | @unknownBits rest noRoot noWrite left some =>
      apply Or.inl
      have same := KeyMask.unknown_eq left
      have notEmpty := KeyMask.not_isEmpty_iff.2 some
      simp [Op.Fails, exportableIds, KeyMask.find?_isImportOnly, noRoot, noWrite, notEmpty, same]
  | sizing allowed failed =>
      apply Or.inr
      refine ⟨mask.ids, outer, ?_, ?_⟩
      · rw [exportableIds_of_user allowed]
        exact Op.yields_pure.2 ⟨rfl, rfl⟩
      · apply Op.fails_bind.2
        exact .inl (failed.fails outer)

/-- Either the mask has only keys that may be exported, or there is a reason why nothing is. -/
theorem user_or_exportFails (store : Store) (mask : KeyMask) :
    KeyMask.user.contains mask = true ∨ ∃ cause, store.ExportFails mask cause := by
  cases root : mask.has (.rsa .rootPublic) with
  | true => exact .inr ⟨_, .rootPublic root⟩
  | false =>
      cases write : mask.has (.hmac .fileWrite) with
      | true => exact .inr ⟨_, .fileWrite root write⟩
      | false =>
          by_cases known : mask.unknown.isEmpty = true
          · exact .inl (KeyMask.user_contains_iff.2 ⟨KeyMask.exportable_iff.2 ⟨root, write⟩, known⟩)
          · have some := KeyMask.not_isEmpty_iff.1 known
            exact .inr ⟨_, .unknownBits root write (KeyMask.bit_unknown mask) some⟩

/-- Either the keys of the mask fit into a container, or there is a reason why not. -/
theorem Sound.sized_or_exportFails (sound : Sound store) (mask : KeyMask) :
    (KeyMask.user.contains mask = true ∧ ∃ blob total, store.Sized mask.ids blob total) ∨
      ∃ cause, store.ExportFails mask cause := by
  rcases store.user_or_exportFails mask with allowed | failed
  · rcases sound.sized_or_fails mask.ids with fits | ⟨cause, failed⟩
    · exact .inl ⟨allowed, fits⟩
    · exact .inr ⟨cause, .sizing allowed failed⟩
  · exact .inr failed

/-- What was exported is the container of the keys of the mask. -/
theorem Sound.exists_sized (sound : Sound store) {outer : σ} {container : Bytes}
    (done : (exportContainer store mask outer).result = .ok container) :
    KeyMask.user.contains mask = true ∧ ∃ blob total, store.Sized mask.ids blob total ∧
      container = Record.join (records mask.ids blob) := by
  rcases sound.sized_or_exportFails mask with ⟨allowed, blob, total, sized⟩ | ⟨cause, fails⟩
  · have same := done.symm.trans (yields_exportContainer allowed sized outer).1
    cases same
    exact ⟨allowed, blob, total, sized, rfl⟩
  · have failed := done.symm.trans (fails.fails outer)
    cases failed

/-- What was not exported has one of the listed reasons. -/
theorem Sound.exportFails (sound : Sound store) {outer : σ} {cause : KeyError}
    (failed : (exportContainer store mask outer).result = .error cause) :
    store.ExportFails mask cause := by
  rcases sound.sized_or_exportFails mask with ⟨allowed, blob, total, sized⟩ | ⟨other, fails⟩
  · rw [(yields_exportContainer allowed sized outer).1] at failed
    cases failed
  · have same := (fails.fails outer).symm.trans failed
    cases same
    exact fails

/-- Keys that can be written are held. -/
theorem Sized.missing?_eq_none {blob : KeyId → Bytes} {total : Nat}
    (sized : store.Sized mask.ids blob total) : store.missing? mask = none := by
  apply List.find?_eq_none.2
  intro id member absent
  obtain ⟨key, held, -⟩ := data?_eq_some.1 (sized.writes id member).data
  cases held.symm.trans (key?_eq_none (by simpa using absent))

/-- The first keys of a store can be exported. -/
theorem exists_firstContainer :
    ∃ container, (exportContainer firstKeys firstMask ()).result = .ok container := by
  have made : (exportContainer firstKeys firstMask ()).result.toOption.isSome = true := by
    decide +kernel
  cases ending : (exportContainer firstKeys firstMask ()).result with
  | error cause =>
      rw [ending] at made
      cases made
  | ok container => exact ⟨container, rfl⟩

/-- The export of a reachable store succeeds exactly if the mask has no other bits than those of
keys that users hold, all these keys are held, and their records stay below the failure mark; the
container is then made of these records, in ascending order, and each of them has what the export
of its private half, public half or secret on its own writes.  Any other export fails for the first
of the reasons that are listed, none of which comes from the second pass. -/
theorem exportContainer_iff (reachable : Reachable store) (mask : KeyMask) (outer : σ) :
    Record.headerSize = 5 ∧ Uint.maxTotal = 2 ^ 32 - 2 ∧
    mask.ids.Pairwise (fun first second => first.code < second.code) ∧
    (∀ container, (exportContainer store mask outer).result = .ok container ↔
      KeyMask.user.contains mask = true ∧ store.missing? mask = none ∧
        ∃ blob total, store.Sized mask.ids blob total ∧
          container = Record.join (records mask.ids blob)) ∧
    (∀ cause, (exportContainer store mask outer).result = .error cause ↔
      store.ExportFails mask cause) ∧
    ∀ cause, (exportContainer store mask outer).result = .error cause →
      (∀ needed available, cause ≠ .format (.bufferEnds needed available)) ∧
        (∀ expected actual, cause ≠ .store (.lengthMismatch expected actual)) ∧
        cause ≠ .notPrivate ∧ (∀ id, cause ≠ .store (.wrongKind id)) ∧
        ∀ fault, cause ≠ .fault fault := by
  have sound := reachable.sound
  refine ⟨rfl, rfl, mask.ids_ascending, ?_, ?_, ?_⟩
  · intro container
    constructor
    · intro done
      obtain ⟨allowed, blob, total, sized, made⟩ := sound.exists_sized done
      exact ⟨allowed, sized.missing?_eq_none, blob, total, sized, made⟩
    · rintro ⟨allowed, -, blob, total, sized, rfl⟩
      exact (yields_exportContainer allowed sized outer).1
  · intro cause
    constructor
    · exact sound.exportFails
    · intro fails
      exact fails.fails outer
  · intro cause failed
    cases sound.exportFails failed with
    | rootPublic => simp
    | fileWrite => simp
    | unknownBits => simp
    | sizing allowed sizing =>
        cases sizing with
        | missing => simp
        | ownLength => simp
        | runningTotal => simp

theorem firstKeys_export :
    ∃ container, (exportContainer firstKeys firstMask ()).result = .ok container ∧
      ∃ blob total, firstKeys.Sized firstMask.ids blob total ∧
        container = Record.join (records firstMask.ids blob) := by
  obtain ⟨-, -, -, exported, -⟩ := exportContainer_iff reachable_firstKeys firstMask ()
  obtain ⟨container, done⟩ := exists_firstContainer
  exact ⟨container, done, ((exported container).1 done).2.2⟩

end Export

end Keyring.Store
