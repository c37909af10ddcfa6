/-
Module: Keyring.Proofs.Rsa.Blob
Purpose: RSA blobs as a grammar.  The blob of one half is made of so many frames and nothing else;
  reading accepts exactly these blobs, and a key written as one half of a pair is read back as the
  key that it was.
Main exports: Half.numberCount, keyOfNumbers?, IsBlob, IsBlob.exists_reads, IsBlob.half_eq,
  IsBlob.unique, yields_readHalf, importHalf_of_isBlob, importHalf_of_fails, importHalf_refused,
  isBlob_join, exists_fields, exportHalf_eq, exportHalf_of_serialize, exportHalf_overflow,
  exportHalf_refused, raises_exportHalf
-/
import Keyring.Proofs.Uint.Room
import Keyring.Rsa.Blob

namespace Keyring

open LittleEndian

/-- How many numbers the blob of each half holds. -/
def Half.numberCount : Half → Nat
  | .privateHalf => 8
  | .publicHalf => 2

namespace Rsa

/-- The key that the numbers of a blob stand for, in the order of the blob. -/
def keyOfNumbers? : Half → List Nat → Option RsaKey
  | .publicHalf, [n, e] => some { n, e, secret := none }
  | .privateHalf, [n, e, d, p, q, dp, dq, qInv] =>
      some { n, e, secret := some { d, p, q, dp, dq, qInv } }
  | _, _ => none

/-- The bytes are a blob of the key as one half of a pair.  A number may stand in it with high zero
bytes, so a key has many blobs. -/
def IsBlob (half : Half) (blob : Bytes) (key : RsaKey) : Prop :=
  ∃ magnitudes : List Bytes, (∀ magnitude ∈ magnitudes, magnitude.Fits) ∧
    blob = Uint.frames magnitudes ∧ keyOfNumbers? half (magnitudes.map value) = some key

theorem length_of_keyOfNumbers? {half : Half} {numbers : List Nat} {key : RsaKey}
    (made : keyOfNumbers? half numbers = some key) : numbers.length = half.numberCount := by
  unfold keyOfNumbers? at made
  split at made
  · rfl
  · rfl
  · cases made

theorem exists_keyOfNumbers? {half : Half} {numbers : List Nat}
    (enough : numbers.length = half.numberCount) :
    ∃ key, keyOfNumbers? half numbers = some key := by
  cases half with
  | publicHalf =>
      match numbers, enough with
      | [_, _], _ => exact ⟨_, rfl⟩
  | privateHalf =>
      match numbers, enough with
      | [_, _, _, _, _, _, _, _], _ => exact ⟨_, rfl⟩

/-- The numbers of a key stand for it, and no other numbers do. -/
theorem keyOfNumbers?_eq_some {half : Half} {numbers : List Nat} {key : RsaKey} :
    keyOfNumbers? half numbers = some key ↔ key.half = half ∧ fields half key = .ok numbers := by
  constructor
  · intro made
    unfold keyOfNumbers? at made
    split at made
    · cases made
      exact ⟨rfl, rfl⟩
    · cases made
      exact ⟨rfl, rfl⟩
    · cases made
  · rintro ⟨rfl, listed⟩
    rcases key with ⟨n, e, _ | secret⟩
    · cases listed
      rfl
    · cases listed
      rfl

/-! ## Reading -/

/-- Reading one half is reading so many numbers, up to the end of the data. -/
theorem readHalf_eq (half : Half) :
    readHalf half = do
      let numbers ← Uint.reads half.numberCount
      Uint.finish
      return (keyOfNumbers? half numbers).getD default := by
  cases half with
  | privateHalf =>
      simp only [readHalf, readPrivate, Half.numberCount, Uint.reads, bind_assoc, pure_bind]
      rfl
  | publicHalf =>
      simp only [readHalf, readPublic, Half.numberCount, Uint.reads, bind_assoc, pure_bind]
      rfl

/-- The numbers of a blob are all that is read from it. -/
theorem IsBlob.exists_reads {half : Half} {blob : Bytes} {key : RsaKey}
    (isBlob : IsBlob half blob key) :
    ∃ numbers, Uint.reads half.numberCount blob = ⟨.ok numbers, [], []⟩ ∧
      keyOfNumbers? half numbers = some key := by
  obtain ⟨magnitudes, fits, rfl, made⟩ := isBlob
  have count := length_of_keyOfNumbers? made
  rw [List.length_map] at count
  have numbersRead := Uint.reads_frames fits []
  rw [List.append_nil, count] at numbersRead
  exact ⟨_, numbersRead, made⟩

theorem readHalf_of_isBlob {half : Half} {blob : Bytes} {key : RsaKey}
    (isBlob : IsBlob half blob key) : readHalf half blob = ⟨.ok key, [], []⟩ := by
  obtain ⟨numbers, numbersRead, made⟩ := isBlob.exists_reads
  rw [readHalf_eq, Op.bind_ok numbersRead, Op.bind_ok Uint.finish_nil, made]
  rfl

theorem yields_readHalf {half : Half} {blob behind : Bytes} {key : RsaKey} :
    (readHalf half).Yields blob key behind ↔ IsBlob half blob key ∧ behind = [] := by
  constructor
  · intro done
    simp only [readHalf_eq, Op.yields_bind, Op.yields_pure] at done
    obtain ⟨numbers, _, numbersRead, _, _, finished, rfl, rfl⟩ := done
    obtain ⟨rfl, rfl⟩ := Uint.yields_finish.1 finished
    obtain ⟨magnitudes, count, fits, rfl, rfl⟩ := Uint.yields_reads.1 numbersRead
    obtain ⟨key, made⟩ := exists_keyOfNumbers? ((List.length_map value).trans count)
    rw [made]
    exact ⟨⟨magnitudes, fits, List.append_nil _, made⟩, rfl⟩
  · rintro ⟨isBlob, rfl⟩
    simp [Op.Yields, readHalf_of_isBlob isBlob]

namespace IsBlob

variable {half : Half} {blob : Bytes} {key other : RsaKey}

/-- A blob stands for a key of its own half. -/
theorem half_eq (isBlob : IsBlob half blob key) : key.half = half := by
  obtain ⟨_, _, _, made⟩ := isBlob
  exact (keyOfNumbers?_eq_some.1 made).1

/-- A blob stands for one key only. -/
theorem unique (one : IsBlob half blob key) (two : IsBlob half blob other) : key = other := by
  have same := (readHalf_of_isBlob one).symm.trans (readHalf_of_isBlob two)
  simpa using same

end IsBlob

theorem importHalf_of_isBlob {half : Half} {blob : Bytes} {key : RsaKey}
    (isBlob : IsBlob half blob key) (slot : Slot RsaKey) :
    importHalf half blob slot = ⟨.ok (), some key, [.importedRsa half key.summary]⟩ := by
  have whole : (Op.within blob (readHalf half) : Op (Slot RsaKey) RsaKey) slot =
      ⟨.ok key, slot, []⟩ := by
    rw [Op.within, readHalf_of_isBlob isBlob]
  rw [importHalf, Op.bind_ok whole, Op.bind_ok (Op.emit_apply _ _)]
  rfl

/-- Where the blob cannot be read the slot keeps its key. -/
theorem importHalf_of_fails {half : Half} {blob : Bytes} {cause : KeyError}
    (failed : (readHalf half).Fails blob cause) (slot : Slot RsaKey) :
    importHalf half blob slot = ⟨.error cause, slot, (readHalf half blob).log⟩ := by
  have refused : (Op.within blob (readHalf half) : Op (Slot RsaKey) RsaKey) slot =
      ⟨.error cause, slot, (readHalf half blob).log⟩ := by
    rw [Op.within, failed]
  rw [importHalf, Op.bind_error refused]

/-- Bytes that are no blob are refused, for a cause that does not depend on the slot, and the slot
keeps its key. -/
theorem importHalf_refused {half : Half} {blob : Bytes} (bad : ¬ ∃ key, IsBlob half blob key) :
    ∃ cause log, ∀ slot, importHalf half blob slot = ⟨.error cause, slot, log⟩ := by
  cases ending : (readHalf half blob).result with
  | ok key =>
      have read := yields_readHalf.1 (Op.yields_of_result ending)
      exact absurd ⟨key, read.1⟩ bad
  | error cause => exact ⟨cause, (readHalf half blob).log, importHalf_of_fails ending⟩

/-! ## Writing -/

/-- A key can be written as the half that it is. -/
theorem exists_fields {half : Half} {key : RsaKey} (same : key.half = half) :
    ∃ numbers, fields half key = .ok numbers := by
  subst same
  rcases key with ⟨n, e, _ | secret⟩
  · exact ⟨_, rfl⟩
  · exact ⟨_, rfl⟩

/-- The numbers of a key, written one after the other, are a blob of it. -/
theorem isBlob_join {half : Half} {key : RsaKey} {numbers : List Nat} (same : key.half = half)
    (listed : fields half key = .ok numbers)
    (bound : (Uint.join numbers).length ≤ Uint.maxTotal) :
    IsBlob half (Uint.join numbers) key := by
  refine ⟨numbers.map magnitude, Uint.fits_magnitudes bound, Uint.join_eq_frames numbers, ?_⟩
  rw [Uint.map_value_magnitude]
  exact keyOfNumbers?_eq_some.2 ⟨same, listed⟩

/-- Where the numbers of a half are known, exporting it is writing them. -/
theorem exportHalf_eq {half : Half} {key : RsaKey} {numbers : List Nat}
    (listed : fields half key = .ok numbers) :
    exportHalf half (some key) =
      Uint.serialize numbers >>= fun length =>
        Op.emit (.exportedRsa half length) >>= fun _ => pure length := by
  simp only [exportHalf, Slot.require, pure_bind, listed, Op.ofExcept_ok]

theorem exportHalf_of_serialize {half : Half} {key : RsaKey} {numbers : List Nat} {length : Nat}
    {out after : Option Bytes} (listed : fields half key = .ok numbers)
    (written : Uint.serialize numbers out = ⟨.ok length, after, []⟩) :
    exportHalf half (some key) out = ⟨.ok length, after, [.exportedRsa half length]⟩ := by
  rw [exportHalf_eq listed, Op.bind_ok written, Op.bind_ok (Op.emit_apply _ _)]
  rfl

theorem exportHalf_overflow {half : Half} {key : RsaKey} {numbers : List Nat}
    (listed : fields half key = .ok numbers)
    (exceeds : Uint.maxTotal < (Uint.join numbers).length) :
    exportHalf half (some key) none = ⟨.error .lengthOverflow, none, []⟩ := by
  rw [exportHalf_eq listed, Op.bind_error (Uint.serialize_overflow exceeds)]

/-- Neither a buffer nor anything else is touched where a half has no numbers. -/
theorem exportHalf_refused {half : Half} {key : RsaKey} {cause : KeyError}
    (none : fields half key = .error cause) (out : Option Bytes) :
    exportHalf half (some key) out = ⟨.error cause, out, []⟩ := by
  simp only [exportHalf, Slot.require, pure_bind, none, Op.ofExcept_error]
  rw [Op.bind_error (Op.fail_apply cause out)]

/-- A key that has the numbers of a half fails to be written as this half only for want of room. -/
theorem raises_exportHalf {half : Half} {key : RsaKey} {numbers : List Nat}
    (listed : fields half key = .ok numbers) :
    Op.Raises Uint.WriteFailure (exportHalf half (some key)) := by
  rw [exportHalf_eq listed]
  refine (Uint.raises_serialize numbers).bind fun length => ?_
  intro out cause failed
  cases failed

end Rsa

end Keyring
