/-
Module: Keyring.Proofs.Uint.Trimmed
Purpose: Magnitudes without high zero bytes.  What is written for a number that was read is its
  magnitude with the high zero bytes cut off, so the bytes of numbers come back as they were exactly
  if no magnitude in them has any; otherwise they come back shorter.
Main exports: Bytes.trimmed, Bytes.trimmed_eq_self_iff, LittleEndian.magnitude_value,
  Uint.frames_injective, Uint.Shortest, Uint.frames_trimmed_eq_iff
-/
import Mathlib.Data.List.DropRight
import Keyring.Proofs.Uint.Reader

namespace Keyring

open LittleEndian

/-! ## One magnitude -/

namespace Bytes

/-- The bytes without the zero bytes at their end. -/
def trimmed (bytes : Bytes) : Bytes :=
  bytes.rdropWhile (· == 0)

theorem trimmed_length_le (bytes : Bytes) : bytes.trimmed.length ≤ bytes.length :=
  (List.rdropWhile_prefix _ bytes).length_le

/-- What is left has no zero bytes at its end. -/
theorem trimmed_trimmed (bytes : Bytes) : bytes.trimmed.trimmed = bytes.trimmed :=
  List.rdropWhile_idempotent _ bytes

/-- Nothing is cut off if nothing becomes shorter. -/
theorem trimmed_of_length_le {bytes : Bytes} (long : bytes.length ≤ bytes.trimmed.length) :
    bytes.trimmed = bytes :=
  (List.rdropWhile_prefix _ bytes).eq_of_length_le long

/-- Nothing is cut off from bytes that are empty or end in a byte other than zero. -/
theorem trimmed_eq_self_iff {bytes : Bytes} :
    bytes.trimmed = bytes ↔ bytes = [] ∨ ∃ byte, bytes.getLast? = some byte ∧ byte ≠ 0 := by
  rw [trimmed, List.rdropWhile_eq_self_iff]
  rcases List.eq_nil_or_concat bytes with rfl | ⟨front, last, rfl⟩
  · simp
  · simp

end Bytes

/-- The magnitude of the number that some bytes stand for is these bytes, trimmed. -/
theorem LittleEndian.magnitude_value (bytes : Bytes) : magnitude (value bytes) = bytes.trimmed := by
  induction bytes using List.reverseRecOn with
  | nil => decide
  | append_singleton front last inductionHypothesis =>
      rw [Bytes.trimmed, List.rdropWhile_concat]
      split
      · next zero =>
          have same : value (front ++ [last]) = value front := by
            rw [value_append, eq_of_beq zero]
            simp [value]
          rw [same]
          exact inductionHypothesis
      · next other =>
          -- The last byte counts, so the number has as many bytes as it stands in.
          have whole : byteLength (value (front ++ [last])) = (front ++ [last]).length := by
            apply Nat.le_antisymm (byteLength_le_iff.2 (value_lt _))
            rw [List.length_append, List.length_singleton, Nat.succ_le_iff, ← Nat.not_le,
              byteLength_le_iff, Nat.not_lt, value_append, value]
            have positive : 0 < last.toNat := by
              apply Nat.pos_of_ne_zero
              intro zero
              exact other (beq_iff_eq.2 (UInt8.toNat_inj.1 zero))
            exact Nat.le_add_left_of_le (Nat.le_mul_of_pos_right _ (by omega))
          rw [magnitude_eq_digits, whole, digits_value]

/-! ## Several magnitudes -/

namespace Uint

/-- Frames that begin the same data are the same, and so is what is behind them. -/
theorem frame_append_inj {first second behind rest : Bytes} (firstFits : first.Fits)
    (secondFits : second.Fits) (same : frame first ++ behind = frame second ++ rest) :
    first = second ∧ behind = rest := by
  have read := (read_frame firstFits behind).symm.trans (same ▸ read_frame secondFits rest)
  simp only [Outcome.mk.injEq] at read
  obtain ⟨-, rfl, -⟩ := read
  have fields := List.append_cancel_right same
  exact ⟨(List.append_inj fields (by simp)).2, rfl⟩

/-- Data are the frames of one list of magnitudes only. -/
theorem frames_injective {first second : List Bytes} (firstFits : ∀ bytes ∈ first, bytes.Fits)
    (secondFits : ∀ bytes ∈ second, bytes.Fits) (same : frames first = frames second) :
    first = second := by
  induction first generalizing second with
  | nil =>
      cases second with
      | nil => rfl
      | cons magnitude rest => simp [frame, digits, lengthFieldSize] at same
  | cons magnitude rest inductionHypothesis =>
      cases second with
      | nil => simp [frame, digits, lengthFieldSize] at same
      | cons other others =>
          rw [List.forall_mem_cons] at firstFits secondFits
          rw [frames_cons, frames_cons] at same
          obtain ⟨rfl, behind⟩ := frame_append_inj firstFits.1 secondFits.1 same
          rw [inductionHypothesis firstFits.2 secondFits.2 behind]

/-- The data are the frames of magnitudes that are empty or end in a byte other than zero. -/
def Shortest (data : Bytes) : Prop :=
  ∃ magnitudes : List Bytes,
    (∀ magnitude ∈ magnitudes, magnitude.Fits ∧
      (magnitude = [] ∨ ∃ byte, magnitude.getLast? = some byte ∧ byte ≠ 0)) ∧
    data = frames magnitudes

theorem length_frames_trimmed_le (magnitudes : List Bytes) :
    (frames (magnitudes.map Bytes.trimmed)).length ≤ (frames magnitudes).length := by
  induction magnitudes with
  | nil => exact Nat.le_refl _
  | cons magnitude rest inductionHypothesis =>
      have first := magnitude.trimmed_length_le
      simp only [List.map_cons, frames_cons, List.length_append, length_frame]
      omega

/-- If all magnitudes together become no shorter, then none does. -/
theorem trimmed_of_length_frames {magnitudes : List Bytes}
    (long : (frames magnitudes).length ≤ (frames (magnitudes.map Bytes.trimmed)).length) :
    ∀ magnitude ∈ magnitudes, magnitude.trimmed = magnitude := by
  induction magnitudes with
  | nil => simp
  | cons magnitude rest inductionHypothesis =>
      have first := magnitude.trimmed_length_le
      have later := length_frames_trimmed_le rest
      simp only [List.map_cons, frames_cons, List.length_append, length_frame] at long
      rw [List.forall_mem_cons]
      exact ⟨Bytes.trimmed_of_length_le (by omega), inductionHypothesis (by omega)⟩

/-- Trimming leaves data as they are exactly if they are the shortest for their numbers. -/
theorem frames_trimmed_eq_iff {magnitudes : List Bytes}
    (fits : ∀ magnitude ∈ magnitudes, magnitude.Fits) :
    frames (magnitudes.map Bytes.trimmed) = frames magnitudes ↔ Shortest (frames magnitudes) := by
  constructor
  · intro same
    have kept := trimmed_of_length_frames (congrArg List.length same).ge
    refine ⟨magnitudes, fun magnitude member => ⟨fits magnitude member, ?_⟩, rfl⟩
    exact Bytes.trimmed_eq_self_iff.1 (kept magnitude member)
  · rintro ⟨others, shortest, same⟩
    obtain rfl := frames_injective fits (fun bytes member => (shortest bytes member).1) same
    refine congrArg frames ?_
    refine (List.map_congr_left fun magnitude member => ?_).trans magnitudes.map_id
    exact Bytes.trimmed_eq_self_iff.2 (shortest magnitude member).2

end Uint

end Keyring
