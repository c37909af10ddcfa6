/-
Module: Keyring.Proofs.Length
Purpose: Lengths that are answered.  Adding up lengths checks every step against the failure mark,
  which comes to one check of their sum, and the same sums come out in 32-bit words; so a length
  that an export answers is that of the bytes it writes, and never the failure mark.
Main exports: Uint.foldlM_accumulate, Uint.accumulateWords, Uint.map_foldlM_accumulateWords,
  Measured, TwoPass.measured, measured_exportHalf, measured_exportHmac,
  Store.exists_sized_of_measured, Store.exists_sized_of_exported, lengths_exact
-/
import Keyring.Proofs.Store.Export
import Keyring.Proofs.TwoPass
import Keyring.Proofs.Uint.Stream

namespace Keyring

open LittleEndian

namespace Uint

/-! ## Sums -/

/-- Lengths are added up one after the other as their sum is added at once: no step fails before the
sum does. -/
theorem foldlM_accumulate {total : Nat} (start : total ≤ maxTotal) (addends : List Nat) :
    addends.foldlM accumulate total = accumulate total addends.sum := by
  induction addends generalizing total with
  | nil =>
      rw [List.foldlM_nil, List.sum_nil, accumulate_of_le start]
      rfl
  | cons first rest inductionHypothesis =>
      rw [List.foldlM_cons, List.sum_cons]
      by_cases own : total + first ≤ maxTotal
      · rw [accumulate_of_le own]
        change rest.foldlM accumulate (total + first) = _
        rw [inductionHypothesis own, accumulate, accumulate, Nat.add_assoc]
      · have whole : maxTotal < total + (first + rest.sum) := by omega
        rw [accumulate_of_lt (Nat.lt_of_not_le own), accumulate_of_lt whole]
        rfl

/-- The sum of a running length and a further one in words of 32 and 64 bits.  The further one has to
go into 32 bits, and the sum must not have wrapped around, which would have made it smaller. -/
def accumulateWords (total : UInt32) (more : UInt64) : Except KeyError UInt32 :=
  let sum := total + more.toUInt32
  if more.toNat < UInt32.size ∧ total ≤ sum ∧ sum.toNat ≤ maxTotal then
    .ok sum
  else
    .error .lengthOverflow

theorem map_accumulateWords (total : UInt32) (more : UInt64) :
    (accumulateWords total more).map UInt32.toNat = accumulate total.toNat more.toNat := by
  have totalSmall := total.toNat_lt
  have wrapped : (total + more.toUInt32).toNat = (total.toNat + more.toNat % 2 ^ 32) % 2 ^ 32 := by
    rw [UInt32.toNat_add, UInt64.toNat_toUInt32]
  have size : UInt32.size = 2 ^ 32 := rfl
  have mark : maxTotal = 2 ^ 32 - 2 := rfl
  simp only [accumulateWords, accumulate, UInt32.le_iff_toNat_le, wrapped]
  by_cases bound : total.toNat + more.toNat ≤ maxTotal
  · rw [if_pos bound, if_pos (by omega)]
    change Except.ok (total + more.toUInt32).toNat = _
    rw [wrapped, Nat.mod_eq_of_lt (by omega : more.toNat < 2 ^ 32), Nat.mod_eq_of_lt (by omega)]
  · rw [if_neg bound, if_neg (by omega)]
    rfl

/-- Words add up to the same lengths as numbers, and fail with them. -/
theorem map_foldlM_accumulateWords (total : UInt32) (addends : List UInt64) :
    (addends.foldlM accumulateWords total).map UInt32.toNat =
      (addends.map UInt64.toNat).foldlM accumulate total.toNat := by
  induction addends generalizing total with
  | nil => rfl
  | cons first rest inductionHypothesis =>
      rw [List.foldlM_cons, List.map_cons, List.foldlM_cons, ← map_accumulateWords]
      cases accumulateWords total first with
      | error cause => rfl
      | ok sum => exact inductionHypothesis sum

theorem length_join_magnitudes (numbers : List Nat) :
    (join numbers).length = (numbers.map fun n => 4 + (magnitude n).length).sum := by
  simp only [length_magnitude]
  exact length_join numbers

/-- A length below the failure mark is told from a failure. -/
theorem lengthOrMark_eq_iff {answer : Except KeyError Nat}
    (below : ∀ length, answer = .ok length → length < 0xFFFFFFFF) :
    lengthOrMark answer = 0xFFFFFFFF ↔ ∃ cause, answer = .error cause := by
  cases answer with
  | error cause => exact ⟨fun _ => ⟨cause, rfl⟩, fun _ => rfl⟩
  | ok length =>
      constructor
      · intro marked
        exact absurd marked (Nat.ne_of_lt (below length rfl))
      · rintro ⟨cause, impossible⟩
        cases impossible

end Uint

/-! ## One operation -/

/-- Whatever length the operation answers, without a buffer or with one, can be relied upon. -/
structure Measured (op : Op (Option Bytes) Nat) (content : Except KeyError Bytes) : Prop where
  /-- It is the length of the content, which is then at the front of the buffer. -/
  written : ∀ (out : Option Bytes) (length : Nat), (op out).result = .ok length →
    ∃ blob, content = .ok blob ∧ length = blob.length ∧
      ∀ room, out = some room → (op out).state = some (blob ++ room.drop length)
  /-- No length is the failure mark. -/
  below : ∀ (out : Option Bytes) (length : Nat), (op out).result = .ok length →
    length < 0xFFFFFFFF
  /-- The failure mark stands for failures only. -/
  marked : ∀ out : Option Bytes,
    Uint.lengthOrMark (op out).result = 0xFFFFFFFF ↔ ∃ cause, (op out).result = .error cause

namespace TwoPass

variable {op : Op (Option Bytes) Nat} {content : Except KeyError Bytes} {length : Nat}

/-- What is answered without a buffer is the length of the content. -/
theorem exists_content (twoPass : TwoPass op content) (done : (op none).result = .ok length) :
    ∃ blob, content = .ok blob ∧ length = blob.length := by
  have sized := done.symm.trans twoPass.sized
  cases content with
  | error cause => cases sized
  | ok blob => exact ⟨blob, rfl, Except.ok.inj sized⟩

theorem measured (twoPass : TwoPass op content)
    (bound : ∀ blob, content = .ok blob → blob.length ≤ Uint.maxTotal) : Measured op content := by
  have written (out : Option Bytes) (length : Nat) (done : (op out).result = .ok length) :
      ∃ blob, content = .ok blob ∧ length = blob.length ∧
        ∀ room, out = some room → (op out).state = some (blob ++ room.drop length) := by
    cases out with
    | none =>
        obtain ⟨blob, made, rfl⟩ := twoPass.exists_content done
        exact ⟨blob, made, rfl, by rintro room ⟨⟩⟩
    | some room =>
        obtain ⟨without, enough⟩ := (twoPass.answered room length).1 done
        obtain ⟨blob, made, rfl⟩ := twoPass.exists_content without
        refine ⟨blob, made, rfl, ?_⟩
        rintro _ ⟨⟩
        exact twoPass.filled room blob made enough
  have below (out : Option Bytes) (length : Nat) (done : (op out).result = .ok length) :
      length < 0xFFFFFFFF := by
    obtain ⟨blob, made, rfl, -⟩ := written out length done
    exact Nat.lt_succ_of_le (bound blob made)
  exact ⟨written, below, fun out => Uint.lengthOrMark_eq_iff (below out)⟩

end TwoPass

theorem measured_exportHalf (half : Half) (slot : Slot RsaKey) :
    Measured (Rsa.exportHalf half slot) (Rsa.encoded half slot) := by
  apply (twoPass_exportHalf half slot).measured
  intro blob made
  obtain ⟨key, numbers, -, -, -, bound⟩ := Rsa.encoded_eq_ok.1 made
  exact bound

theorem measured_exportHmac (slot : Slot HmacKey) :
    Measured (Hmac.exportKey slot) (Hmac.encoded slot) := by
  apply (twoPass_exportHmac slot).measured
  intro blob made
  obtain ⟨key, -, rfl⟩ := Hmac.encoded_eq_ok.1 made
  exact key.length_bytes_le_maxTotal

/-- Sizing fails for the length exactly if there is content that is too long. -/
theorem exportHalf_overflow_iff {half : Half} {slot : Slot RsaKey} :
    (Rsa.exportHalf half slot none).result = .error .lengthOverflow ↔
      Rsa.encoded half slot = .error .lengthOverflow := by
  rw [(twoPass_exportHalf half slot).sized]
  cases Rsa.encoded half slot with
  | error cause => simp [Except.map]
  | ok blob => simp [Except.map]

/-! ## A whole container -/

namespace Store

variable {σ : Type} {store : Store} {mask : KeyMask} {id : KeyId} {ids : List KeyId}
  {blob : KeyId → Bytes} {container : Bytes} {start total length : Nat} {outer after : σ}

/-- A key whose length is answered is written with this length. -/
theorem exists_writes (own : (store.ownExport id none).result = .ok length) :
    ∃ blob, store.Writes id blob ∧ length = blob.length := by
  rcases id with id | id
  · rw [ownExport_rsa] at own
    obtain ⟨_, made, rfl⟩ := (twoPass_exportHalf id.half (store.rsa id)).exists_content own
    obtain ⟨key, numbers, held, listed, rfl, bound⟩ := Rsa.encoded_eq_ok.1 made
    exact ⟨_, writes_iff.2 ⟨data?_rsa held listed, bound⟩, rfl⟩
  · obtain ⟨_, made, rfl⟩ := (twoPass_exportHmac (store.hmac id)).exists_content own
    obtain ⟨key, held, rfl⟩ := Hmac.encoded_eq_ok.1 made
    exact ⟨_, writes_iff.2 ⟨data?_hmac held, key.length_bytes_le_maxTotal⟩, rfl⟩

/-- A record is measured by the length of its key, and the sum stays below the failure mark. -/
theorem exists_length_of_measured
    (measured : (containerLength store [id] start).Yields outer total after) :
    ∃ length, (store.ownExport id none).result = .ok length ∧
      total = start + (Record.headerSize + length) ∧ total ≤ Uint.maxTotal := by
  cases own : (store.ownExport id none).result with
  | error cause => cases measured.1.symm.trans (fails_containerLength own start outer)
  | ok length =>
      by_cases bound : start + (Record.headerSize + length) ≤ Uint.maxTotal
      · cases measured.1.symm.trans (yields_containerLength own bound outer).1
        exact ⟨length, rfl, rfl, bound⟩
      · have failed := fails_containerLength_of_lt own (Nat.lt_of_not_le bound) outer
        cases measured.1.symm.trans failed

/-- Records that were measured fit together. -/
theorem sized_of_measured
    (writes : ∀ id length, (store.ownExport id none).result = .ok length →
      store.Writes id (blob id) ∧ length = (blob id).length)
    (bound : start ≤ Uint.maxTotal)
    (measured : (containerLength store ids start).Yields outer total after) :
    total ≤ Uint.maxTotal ∧ ∃ more, store.Sized ids blob more ∧ total = start + more := by
  induction ids generalizing start outer with
  | nil =>
      obtain ⟨rfl, -⟩ := Op.yields_pure.1 measured
      exact ⟨bound, 0, .nil store blob, rfl⟩
  | cons id rest inductionHypothesis =>
      rw [← List.singleton_append, containerLength_append] at measured
      obtain ⟨middle, between, first, later⟩ := Op.yields_bind.1 measured
      obtain ⟨length, own, rfl, middleBound⟩ := exists_length_of_measured first
      obtain ⟨written, rfl⟩ := writes id length own
      obtain ⟨whole, more, sized, rfl⟩ := inductionHypothesis middleBound later
      refine ⟨whole, _, sized.cons written ?_, Nat.add_assoc _ _ _⟩
      omega

/-- Keys that were measured have blobs that fit together, whatever store they are in. -/
theorem exists_sized_of_measured
    (measured : (containerLength store ids 0).Yields outer total after) :
    ∃ blob, store.Sized ids blob total := by
  have every (id : KeyId) : ∃ blob, ∀ length, (store.ownExport id none).result = .ok length →
      store.Writes id blob ∧ length = blob.length := by
    cases own : (store.ownExport id none).result with
    | error cause => exact ⟨[], by rintro length ⟨⟩⟩
    | ok length =>
        obtain ⟨blob, writes, same⟩ := exists_writes own
        refine ⟨blob, ?_⟩
        rintro _ ⟨⟩
        exact ⟨writes, same⟩
  choose blob writes using every
  obtain ⟨-, more, sized, rfl⟩ := sized_of_measured writes (Nat.zero_le _) measured
  rw [Nat.zero_add]
  exact ⟨blob, sized⟩

/-- What was exported is the container of the keys of the mask, whatever store it comes from. -/
theorem exists_sized_of_exported
    (done : (exportContainer store mask outer).result = .ok container) :
    ∃ blob total, store.Sized mask.ids blob total ∧
      container = Record.join (records mask.ids blob) := by
  rcases store.user_or_exportFails mask with allowed | ⟨cause, failed⟩
  · have ending := Op.yields_of_result done
    rw [exportContainer, exportableIds_of_user allowed, pure_bind] at ending
    obtain ⟨total, between, measured, -⟩ := Op.yields_bind.1 ending
    obtain ⟨blob, sized⟩ := exists_sized_of_measured measured
    exact ⟨blob, total, sized, Except.ok.inj
      (done.symm.trans (yields_exportContainer allowed sized outer).1)⟩
  · cases done.symm.trans (failed.fails outer)

end Store

/-! ## All lengths -/

/-- Lengths are added up as their sum, in words as in numbers and in any order, up to
`2 ^ 32 - 2`.  So what a number or an export answers is the length of what it writes and differs
from the mark of a failure, which no answer is mistaken for; a container has the length of its
records, each with a header in front of the blob; and an RSA key is refused for its length exactly
if its fields take more than `2 ^ 32 - 2` bytes together. -/
theorem lengths_exact {σ : Type} (outer : σ) :
    (∀ (total : Nat) (addends : List Nat), total ≤ 2 ^ 32 - 2 →
      addends.foldlM Uint.accumulate total =
          (if total + addends.sum ≤ 2 ^ 32 - 2 then .ok (total + addends.sum)
            else .error .lengthOverflow) ∧
        ∀ others : List Nat, others.Perm addends →
          others.foldlM Uint.accumulate total = addends.foldlM Uint.accumulate total) ∧
    (∀ (total : UInt32) (addends : List UInt64),
      (addends.foldlM Uint.accumulateWords total).map UInt32.toNat =
        (addends.map UInt64.toNat).foldlM Uint.accumulate total.toNat) ∧
    (∀ n, Measured (Uint.encode n) (Uint.withinTotal (Uint.bytes n))) ∧
    (∀ half slot, Measured (Rsa.exportHalf half slot) (Rsa.encoded half slot)) ∧
    (∀ half slot (out : Option Bytes) length,
      (Rsa.exportHalf half slot out).result = .ok length →
        ∃ key numbers, slot = some key ∧ Rsa.fields half key = .ok numbers ∧
          length = (numbers.map fun n => 4 + (magnitude n).length).sum) ∧
    (∀ slot, Measured (Hmac.exportKey slot) (Hmac.encoded slot)) ∧
    (∀ (store : Store) (mask : KeyMask) (container : Bytes),
      (Store.exportContainer store mask outer).result = .ok container →
        ∃ length : KeyId → Nat,
          (∀ id ∈ mask.ids, (store.ownExport id none).result = .ok (length id)) ∧
          container.length = (mask.ids.map fun id => 5 + length id).sum ∧
          container.length < 0xFFFFFFFF) ∧
    ∀ half slot, (Rsa.exportHalf half slot none).result = .error .lengthOverflow ↔
      ∃ key numbers, slot = some key ∧ Rsa.fields half key = .ok numbers ∧
        2 ^ 32 - 2 < (numbers.map fun n => 4 + (magnitude n).length).sum := by
  refine ⟨?_, Uint.map_foldlM_accumulateWords, ?_, measured_exportHalf, ?_, measured_exportHmac,
    ?_, ?_⟩
  · intro total addends start
    refine ⟨Uint.foldlM_accumulate start addends, ?_⟩
    intro others same
    rw [Uint.foldlM_accumulate start, Uint.foldlM_accumulate start, same.sum_eq]
  · intro n
    apply (twoPass_encode n).measured
    intro blob made
    obtain ⟨rfl, bound⟩ := Uint.withinTotal_eq_ok.1 made
    exact bound
  · intro half slot out length done
    obtain ⟨blob, made, rfl, -⟩ := (measured_exportHalf half slot).written out length done
    obtain ⟨key, numbers, held, listed, rfl, -⟩ := Rsa.encoded_eq_ok.1 made
    exact ⟨key, numbers, held, listed, Uint.length_join_magnitudes numbers⟩
  · intro store mask container done
    obtain ⟨blob, total, sized, rfl⟩ := Store.exists_sized_of_exported done
    have whole := sized.length_join
    refine ⟨fun id => (blob id).length, fun id listed => (sized.writes id listed).sized, ?_, ?_⟩
    · exact whole.trans sized.sum.symm
    · rw [whole]
      exact Nat.lt_succ_of_le sized.bound
  · intro half slot
    rw [exportHalf_overflow_iff, Rsa.encoded_eq_overflow]
    simp only [Uint.length_join_magnitudes]
    exact Iff.rfl

end Keyring
