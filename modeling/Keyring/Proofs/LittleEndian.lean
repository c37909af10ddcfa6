/-
Module: Keyring.Proofs.LittleEndian
Purpose: Laws of numbers as byte strings.  Digits and values undo each other, the halving
  definitions agree with the plain ones, and the magnitude of a number is the only byte string
  without a high zero byte that stands for it.
Main exports: value_digits, digits_value, bitLength_eq_size, bitLength_add_mul, ofBytes_eq_value,
  magnitude_eq_digits, ofBytes_magnitude, length_magnitude, exists_top
-/
import Mathlib.Data.Nat.Size
import Mathlib.Tactic.Ring
import Keyring.LittleEndian

namespace Keyring.LittleEndian

/-! ## The plain definitions -/

@[simp] theorem length_digits (width n : Nat) : (digits width n).length = width := by
  induction width generalizing n with
  | zero => rfl
  | succ width ih => simp [digits, ih]

theorem value_append (low high : Bytes) :
    value (low ++ high) = value low + 256 ^ low.length * value high := by
  induction low with
  | nil => simp [value]
  | cons byte low ih =>
      simp only [List.cons_append, value, ih, List.length_cons, Nat.pow_succ]
      rw [Nat.mul_add, Nat.add_assoc, Nat.mul_comm (256 ^ low.length) 256, Nat.mul_assoc]

theorem value_lt (bytes : Bytes) : value bytes < 256 ^ bytes.length := by
  induction bytes with
  | nil => simp [value]
  | cons byte rest ih =>
      have small := byte.toNat_lt
      simp only [value, List.length_cons, Nat.pow_succ]
      omega

theorem value_digits (width n : Nat) : value (digits width n) = n % 256 ^ width := by
  induction width generalizing n with
  | zero => simp [digits, value, Nat.mod_one]
  | succ width ih =>
      rw [Nat.pow_succ, Nat.mul_comm, Nat.mod_mul]
      simp [digits, value, ih]

theorem digits_value (bytes : Bytes) : digits bytes.length (value bytes) = bytes := by
  induction bytes with
  | nil => rfl
  | cons byte rest ih =>
      have small := byte.toNat_lt
      have front : UInt8.ofNat (byte.toNat + 256 * value rest) = byte := by
        apply UInt8.toNat_inj.1
        simp only [UInt8.toNat_ofNat']
        omega
      have behind : (byte.toNat + 256 * value rest) / 256 = value rest := by omega
      simp [value, digits, front, behind, ih]

theorem digits_add (low high n : Nat) :
    digits (low + high) n = digits low n ++ digits high (n / 256 ^ low) := by
  induction low generalizing n with
  | zero => simp [digits]
  | succ low ih =>
      rw [Nat.succ_add, digits, ih, Nat.div_div_eq_div_mul, Nat.pow_succ, Nat.mul_comm 256]
      rfl

theorem digits_mod (width n : Nat) : digits width (n % 256 ^ width) = digits width n := by
  induction width generalizing n with
  | zero => rfl
  | succ width ih =>
      have front : UInt8.ofNat (n % 256 ^ (width + 1)) = UInt8.ofNat n := by
        apply UInt8.toNat_inj.1
        simp only [UInt8.toNat_ofNat']
        exact Nat.mod_mod_of_dvd n ⟨256 ^ width, by rw [Nat.pow_succ, Nat.mul_comm]⟩
      rw [digits, digits, front, Nat.pow_succ, Nat.mul_comm, Nat.mod_mul_right_div_self, ih]

/-! ## Lengths -/

theorem lt_two_pow_bitLength (n : Nat) : n < 2 ^ bitLength n := by
  unfold bitLength
  split
  · next zero => simp [zero]
  · exact Nat.lt_log2_self

theorem two_pow_le_of_bitLength {n : Nat} (positive : n ≠ 0) : 2 ^ (bitLength n - 1) ≤ n := by
  simpa [bitLength, positive] using Nat.log2_self_le positive

/-- How many binary digits a number has is a range that it lies in. -/
theorem bitLength_eq_iff {n k : Nat} :
    bitLength n = k + 1 ↔ 2 ^ k ≤ n ∧ n < 2 ^ (k + 1) := by
  unfold bitLength
  split
  · next zero =>
      subst zero
      simp
  · next positive => rw [Nat.add_right_cancel_iff, Nat.log2_eq_iff positive]

/-- How many binary digits a number has is the least exponent of a power of two above it. -/
theorem bitLength_eq_size (n : Nat) : bitLength n = n.size := by
  apply Nat.le_antisymm
  · by_cases zero : n = 0
    · rw [zero]
      exact Nat.zero_le _
    · have reached : bitLength n - 1 < n.size :=
        Nat.lt_size.2 (two_pow_le_of_bitLength zero)
      omega
  · exact Nat.size_le.2 (lt_two_pow_bitLength n)

/-- Low bits below a number other than zero are counted in full. -/
theorem bitLength_add_mul {low k m : Nat} (small : low < 2 ^ k) (positive : m ≠ 0) :
    bitLength (low + 2 ^ k * m) = k + bitLength m := by
  obtain ⟨j, some⟩ := Nat.exists_eq_succ_of_ne_zero
    (show bitLength m ≠ 0 by simp [bitLength, positive])
  obtain ⟨least, below⟩ := bitLength_eq_iff.1 some
  rw [some, Nat.succ_eq_add_one, ← Nat.add_assoc, bitLength_eq_iff, Nat.add_assoc k, pow_add,
    pow_add]
  constructor
  · exact Nat.le_trans (Nat.mul_le_mul_left _ least) (Nat.le_add_left _ _)
  · calc low + 2 ^ k * m < 2 ^ k + 2 ^ k * m := Nat.add_lt_add_right small _
      _ = 2 ^ k * (m + 1) := by ring
      _ ≤ 2 ^ k * 2 ^ (j + 1) := Nat.mul_le_mul_left _ below

theorem lt_pow_byteLength (n : Nat) : n < 256 ^ byteLength n := by
  have wide : 2 ^ bitLength n ≤ 2 ^ (8 * byteLength n) :=
    Nat.pow_le_pow_right (by decide) (by unfold byteLength; omega)
  rw [Nat.pow_mul] at wide
  exact Nat.lt_of_lt_of_le (lt_two_pow_bitLength n) wide

/-- How many bytes a number has at most is a bound on it. -/
theorem byteLength_le_iff {n width : Nat} : byteLength n ≤ width ↔ n < 256 ^ width := by
  constructor
  · intro short
    exact Nat.lt_of_lt_of_le (lt_pow_byteLength n) (Nat.pow_le_pow_right (by decide) short)
  · intro small
    by_cases zero : n = 0
    · subst zero
      exact Nat.zero_le width
    · have reached : 2 ^ (bitLength n - 1) < 2 ^ (8 * width) := by
        rw [pow_mul]
        exact Nat.lt_of_le_of_lt (two_pow_le_of_bitLength zero) small
      have bits := (Nat.pow_lt_pow_iff_right (by decide)).1 reached
      unfold byteLength
      omega

/-! ## The halving definitions agree with the plain ones -/

@[simp] theorem halfWidth_zero : halfWidth 0 = 1 := rfl

theorem halfWidth_succ (depth : Nat) :
    halfWidth (depth + 1) = halfWidth depth + halfWidth depth := by
  simp [halfWidth, Nat.one_shiftLeft, pow_succ, Nat.mul_two]

theorem halfWidth_eq_pow (depth : Nat) : halfWidth depth = 2 ^ depth :=
  Nat.one_shiftLeft depth

/-- Shifting by the bits of some bytes is shifting by so many digits. -/
theorem two_pow_halfBits (depth : Nat) : 2 ^ halfBits depth = 256 ^ halfWidth depth := by
  rw [halfBits, pow_mul, show 2 ^ 8 = 256 from rfl]

theorem valueByHalves_eq_value (depth : Nat) (bytes : Bytes)
    (fits : bytes.length ≤ halfWidth depth) : valueByHalves depth bytes = value bytes := by
  induction depth generalizing bytes with
  | zero =>
      match bytes with
      | [] => rfl
      | [byte] => simp [valueByHalves, value]
      | _ :: _ :: _ => simp at fits
  | succ depth ih =>
      match bytes with
      | [] => rfl
      | byte :: rest =>
          rw [valueByHalves]
          generalize byte :: rest = all at fits
          rw [halfWidth_succ] at fits
          rw [ih _ (by simp only [List.length_take]; omega),
            ih _ (by simp only [List.length_drop]; omega),
            Nat.shiftLeft_eq, two_pow_halfBits]
          by_cases short : all.length ≤ halfWidth depth
          · simp [List.take_of_length_le short, List.drop_of_length_le short, value]
          · have whole := value_append (all.take (halfWidth depth)) (all.drop (halfWidth depth))
            rw [List.take_append_drop, List.length_take, Nat.min_eq_left (by omega)] at whole
            rw [whole, Nat.mul_comm]

theorem digitsByHalves_eq_digits (depth n : Nat) (behind : Bytes) :
    digitsByHalves depth n behind = digits (halfWidth depth) n ++ behind := by
  induction depth generalizing n behind with
  | zero => simp [digitsByHalves, digits]
  | succ depth ih =>
      rw [digitsByHalves, ih, ih, Nat.one_shiftLeft, Nat.shiftRight_eq_div_pow,
        two_pow_halfBits, digits_mod, ← List.append_assoc, ← digits_add, halfWidth_succ]

@[simp] theorem ofBytes_eq_value (bytes : Bytes) : ofBytes bytes = value bytes :=
  valueByHalves_eq_value _ _
    (by rw [halfWidth_eq_pow]; exact Nat.le_of_lt (lt_two_pow_bitLength _))

@[simp] theorem magnitude_eq_digits (n : Nat) : magnitude n = digits (byteLength n) n := by
  obtain ⟨more, enough⟩ := Nat.exists_eq_add_of_le
    (Nat.le_of_lt (lt_two_pow_bitLength (byteLength n)))
  rw [magnitude, digitsByHalves_eq_digits, List.append_nil, halfWidth_eq_pow, enough, digits_add,
    List.take_left' (length_digits _ _)]

theorem ofBytes_magnitude (n : Nat) : ofBytes (magnitude n) = n := by
  rw [ofBytes_eq_value, magnitude_eq_digits, value_digits,
    Nat.mod_eq_of_lt (lt_pow_byteLength n)]

theorem length_magnitude (n : Nat) : (magnitude n).length = byteLength n := by
  simp

/-- The last byte of a magnitude is not zero, and all bytes before it count in full. -/
theorem exists_top {n : Nat} (positive : n ≠ 0) :
    ∃ low top, magnitude n = low ++ [top] ∧ top ≠ 0 ∧
      bitLength n = 8 * low.length + bitLength top.toNat := by
  have whole : n = value (magnitude n) := by rw [← ofBytes_eq_value, ofBytes_magnitude]
  rcases List.eq_nil_or_concat (magnitude n) with none | ⟨low, top, split⟩
  · rw [none] at whole
    exact absurd whole positive
  · rw [List.concat_eq_append] at split
    have length := length_magnitude n
    rw [split, List.length_append, List.length_singleton] at length
    rw [split, value_append, value, value, Nat.mul_zero, Nat.add_zero] at whole
    have some : top.toNat ≠ 0 := by
      intro zero
      rw [zero, Nat.mul_zero, Nat.add_zero] at whole
      have shorter := byteLength_le_iff.2 (whole ▸ value_lt low)
      omega
    have digit : 256 ^ low.length = 2 ^ (8 * low.length) := by
      rw [pow_mul, show 2 ^ 8 = 256 from rfl]
    have small := value_lt low
    rw [digit] at whole small
    refine ⟨low, top, split, fun zero => some (congrArg UInt8.toNat zero), ?_⟩
    rw [whole]
    exact bitLength_add_mul small some

end Keyring.LittleEndian
