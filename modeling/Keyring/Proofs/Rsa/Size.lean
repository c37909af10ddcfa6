/-
Module: Keyring.Proofs.Rsa.Size
Purpose: The size of a modulus, as its value, its bits and its bytes in a blob tell it.  A modulus
  is written without high zero bytes, so the length field at the front of a blob that was written
  and the last byte behind it give its bits.  A modulus that is read may have high zero bytes, which
  only its length field counts.
Main exports: WritesSize, writesSize_frame, WritesSize.hasStandardSize_iff, IsBlob.exists_modulus,
  modulusBytes_eq_length_trimmed, ReadsSize, IsBlob.readsSize, publicBlob_tells_size
-/
import Keyring.Proofs.Rsa.Delimited
import Keyring.Proofs.Rsa.Provider
import Keyring.Proofs.Rsa.RoundTrip
import Keyring.Proofs.Uint.Fields

namespace Keyring.Rsa

open LittleEndian
open Uint (frame payload)

variable {half : Half} {key : RsaKey} {blob : Bytes} {numbers : List Nat} {length : Nat}

/-! ## A modulus that is written -/

/-- A blob begins with the modulus of the key as it is written, in as few bytes as hold its bits. -/
structure WritesSize (blob : Bytes) (key : RsaKey) : Prop where
  /-- The length field names as many bytes as the modulus has. -/
  field : value (blob.take 4) = key.modulusBytes
  /-- They are its bits, divided by eight and rounded up. -/
  rounded : key.modulusBits ≤ 8 * key.modulusBytes ∧ 8 * key.modulusBytes < key.modulusBits + 8
  /-- Zero has no bits. -/
  zero : key.n = 0 → key.modulusBits = 0
  /-- Otherwise the last byte is not zero, and all bytes before it count in full. -/
  top : key.n ≠ 0 → ∃ top, blob[3 + key.modulusBytes]? = some top ∧ top ≠ 0 ∧
    key.modulusBits = 8 * (key.modulusBytes - 1) + top.toNat.size

theorem rounded_modulusBytes (key : RsaKey) :
    key.modulusBits ≤ 8 * key.modulusBytes ∧ 8 * key.modulusBytes < key.modulusBits + 8 := by
  simp only [RsaKey.modulusBytes, RsaKey.modulusBits, byteLength]
  omega

theorem modulusBits_eq_zero (zero : key.n = 0) : key.modulusBits = 0 := by
  rw [RsaKey.modulusBits, zero]
  rfl

theorem writesSize_frame (fits : Bytes.Fits (magnitude key.n)) (behind : Bytes) :
    WritesSize (frame (magnitude key.n) ++ behind) key where
  field := (Uint.value_take_frame fits behind).trans (length_magnitude key.n)
  rounded := rounded_modulusBytes key
  zero := modulusBits_eq_zero
  top positive := by
    obtain ⟨low, top, split, some, bits⟩ := exists_top positive
    have bytes : key.modulusBytes = low.length + 1 := by
      rw [RsaKey.modulusBytes, ← length_magnitude, split, List.length_append]
      rfl
    refine ⟨top, ?_, some, ?_⟩
    · have index : 3 + key.modulusBytes = 4 + low.length := by omega
      rw [index, ← List.getElem?_drop, Uint.drop_frame, split, List.append_assoc,
        List.getElem?_append_right (Nat.le_refl _), Nat.sub_self]
      rfl
    · rw [bytes, Nat.add_sub_cancel, RsaKey.modulusBits, bits, bitLength_eq_size]

/-- A modulus has the standard size if the first four bytes of its blob name 256 bytes and the last
one of these has its highest bit set. -/
theorem WritesSize.hasStandardSize_iff (writes : WritesSize blob key)
    (whole : (blob.take 4).length = 4) :
    key.hasStandardSize = true ↔
      [0, 1, 0, 0] <+: blob ∧ ∃ top, blob[259]? = some top ∧ 0x80 ≤ top := by
  have sizes : key.hasStandardSize = true ↔ key.modulusBytes = 256 ∧ key.modulusBits = 2048 := by
    rw [RsaKey.hasStandardSize, Bool.and_eq_true, beq_iff_eq, beq_iff_eq]
    rfl
  have field : [0, 1, 0, 0] <+: blob ↔ key.modulusBytes = 256 := by
    rw [List.prefix_iff_eq_take, ← writes.field]
    constructor
    · intro front
      have named : value [0, 1, 0, 0] = 256 := rfl
      rwa [front] at named
    · intro named
      have same := Uint.lengthField_eq whole
      rwa [named] at same
  rw [sizes, field]
  apply and_congr_right
  intro bytes
  have positive : key.n ≠ 0 := by
    intro zero
    have none := writes.zero zero
    have rounded := writes.rounded.2
    omega
  obtain ⟨top, there, -, bits⟩ := writes.top positive
  rw [bytes] at there bits
  constructor
  · intro standard
    have eight : 7 < top.toNat.size := by omega
    exact ⟨top, there, UInt8.le_iff_toNat_le.2 (Nat.lt_size.1 eight)⟩
  · rintro ⟨other, also, high⟩
    obtain rfl : top = other := Option.some.inj (there.symm.trans also)
    have least : 7 < top.toNat.size := Nat.lt_size.2 (UInt8.le_iff_toNat_le.1 high)
    have most : top.toNat.size ≤ 8 := Nat.size_le.2 top.toNat_lt
    omega

/-! ## A modulus that is read -/

/-- Both halves of a key begin with its modulus. -/
theorem exists_fields_behind (listed : fields half key = .ok numbers) :
    ∃ rest, numbers = key.n :: rest := by
  unfold fields at listed
  split at listed
  · cases listed
    exact ⟨_, rfl⟩
  · cases listed
  · cases listed
    exact ⟨_, rfl⟩

theorem IsBlob.exists_modulus (isBlob : IsBlob half blob key) :
    ∃ modulus behind, Bytes.Fits modulus ∧ blob = frame modulus ++ behind ∧
      key.n = value modulus := by
  obtain ⟨magnitudes, fits, rfl, made⟩ := isBlob
  obtain ⟨rest, listed⟩ := exists_fields_behind (keyOfNumbers?_eq_some.1 made).2
  obtain ⟨modulus, others, rfl, first, -⟩ := List.map_eq_cons_iff.1 listed
  exact ⟨modulus, Uint.frames others, fits modulus List.mem_cons_self, rfl, first.symm⟩

/-- The bytes of a modulus that was read are those of the blob without the high zero bytes. -/
theorem modulusBytes_eq_length_trimmed {modulus : Bytes} (read : key.n = value modulus) :
    key.modulusBytes = modulus.trimmed.length := by
  rw [RsaKey.modulusBytes, read, ← length_magnitude, magnitude_value]

/-- What a blob that is accepted tells about the size of the modulus that is read from it. -/
structure ReadsSize (blob : Bytes) (key : RsaKey) : Prop where
  modulus : key.n = value (payload blob)
  atMost : key.modulusBytes ≤ value (blob.take 4)
  exact : key.modulusBytes = (payload blob).trimmed.length
  standard : key.hasStandardSize = true ↔
    2 ^ 2047 ≤ value (payload blob) ∧ value (payload blob) < 2 ^ 2048

theorem IsBlob.readsSize (isBlob : IsBlob half blob key) : ReadsSize blob key := by
  obtain ⟨modulus, behind, fits, rfl, read⟩ := isBlob.exists_modulus
  have shorter := modulusBytes_eq_length_trimmed read
  have standard : key.hasStandardSize = true ↔ 2 ^ 2047 ≤ key.n ∧ key.n < 2 ^ 2048 :=
    hasStandardSize_iff
  rw [read] at standard
  refine ⟨?_, ?_, ?_, ?_⟩
  · rw [Uint.payload_frame fits, read]
  · rw [Uint.value_take_frame fits, shorter]
    exact modulus.trimmed_length_le
  · rw [Uint.payload_frame fits, shorter]
  · rw [Uint.payload_frame fits, standard]

/-! ## Blobs of public halves -/

/-- What is written for the public half of a key begins with its modulus. -/
theorem exists_carries_writesSize (sized : (exportPublic (some key) none).result = .ok length) :
    ∃ blob, blob.length = length ∧ (blob.take 4).length = 4 ∧
      Carries .publicHalf key blob key.toPublic ∧ WritesSize blob key := by
  have listed : fields .publicHalf key = .ok [key.n, key.e] := rfl
  obtain ⟨bound, rfl⟩ := length_of_sized listed sized
  have fits : Bytes.Fits (magnitude key.n) := Uint.fits_magnitudes bound _ List.mem_cons_self
  have split : Uint.join [key.n, key.e] = frame (magnitude key.n) ++ Uint.join [key.e] := by
    rw [Uint.join_cons, Uint.bytes_eq_frame]
  refine ⟨_, rfl, ?_, carries_join listed rfl bound, ?_⟩
  · rw [split, Uint.take_frame, length_digits]
  · rw [split]
    exact writesSize_frame fits _

/-- The blob that is written for the public half of a key tells the size of the modulus: its length
field is the number of bytes, and with the last byte behind it gives the number of bits.  So the
modulus has the standard size exactly if its value lies between two powers of two, and exactly if
the blob names 256 bytes and the last of them has its highest bit set.  In a blob that is accepted
the modulus may have high zero bytes: its length field is then an upper bound only, and whether the
modulus has the standard size is settled by its value. -/
theorem publicBlob_tells_size :
    (∀ (key : RsaKey) (length : Nat), (exportPublic (some key) none).result = .ok length →
      ∃ blob, blob.length = length ∧ Carries .publicHalf key blob key.toPublic ∧
        WritesSize blob key ∧
        (key.hasStandardSize = true ↔ 2 ^ 2047 ≤ key.n ∧ key.n < 2 ^ 2048) ∧
        (key.hasStandardSize = true ↔
          [0, 1, 0, 0] <+: blob ∧ ∃ top, blob[259]? = some top ∧ 0x80 ≤ top)) ∧
    ∀ (blob : Bytes) (slot : Slot RsaKey), (importPublic blob slot).result = .ok () →
      ∃ key, (importPublic blob).Yields slot () (some key) ∧ ReadsSize blob key ∧
        ∀ (other : Bytes) (held : Slot RsaKey) (kept : RsaKey),
          (importPublic other).Yields held () (some kept) →
          value (payload other) = value (payload blob) →
          kept.hasStandardSize = key.hasStandardSize := by
  constructor
  · intro key length sized
    obtain ⟨blob, whole, header, carries, writes⟩ := exists_carries_writesSize sized
    exact ⟨blob, whole, carries, writes, hasStandardSize_iff, writes.hasStandardSize_iff header⟩
  · intro blob slot accepted
    obtain ⟨key, isBlob⟩ := exists_isBlob_of_imported accepted
    have reads := isBlob.readsSize
    refine ⟨key, yields_importHalf.2 isBlob, reads, ?_⟩
    intro other held kept done same
    have others := (yields_importHalf.1 done).readsSize
    rw [Bool.eq_iff_iff, others.standard, reads.standard, same]

/-- A modulus of 256 bytes with a small last byte. -/
def shortKey : RsaKey := ⟨2 ^ 2040, 65537, none⟩

theorem shortKey_tells_size :
    (exportPublic (some shortKey) none).result = .ok 267 ∧ shortKey.hasStandardSize = false ∧
      ∃ blob, Carries .publicHalf shortKey blob shortKey ∧ value (blob.take 4) = 256 := by
  have sized : (exportPublic (some shortKey) none).result = .ok 267 := by decide +kernel
  obtain ⟨blob, -, carries, writes, standard, -⟩ := publicBlob_tells_size.1 shortKey 267 sized
  have bytes : shortKey.modulusBytes = 256 := by decide +kernel
  refine ⟨sized, ?_, blob, carries, writes.field.trans bytes⟩
  rw [Bool.eq_false_iff, ne_eq, standard]
  decide +kernel

end Keyring.Rsa
