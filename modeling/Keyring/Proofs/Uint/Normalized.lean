/-
Module: Keyring.Proofs.Uint.Normalized
Purpose: Numbers that are read and written again.  A number stands in data as a length field and a
  payload, which may have high zero bytes; written again it has none.  So it comes back as the bytes
  it was read from, or as fewer bytes that stand for it as well, and only lengths next to the end of
  the 32-bit range are read and not written.
Main exports: decode_eq_ok, bytes_value, frame_trimmed_eq_iff, encode_overflow_iff,
  encode_none_eq_ok, encode_of_decode
-/
import Keyring.Proofs.TwoPass
import Keyring.Proofs.Uint.Trimmed

namespace Keyring.Uint

open LittleEndian

variable {σ : Type} {outer : σ} {data payload : Bytes} {n used : Nat}

/-! ## What is read -/

/-- A number is read from a frame, and nothing behind the frame is looked at. -/
theorem decode_eq_ok :
    (decode data outer).result = .ok (n, used) ↔
      ∃ payload behind, Bytes.Fits payload ∧ data = frame payload ++ behind ∧
        n = value payload ∧ used = (frame payload).length := by
  constructor
  · intro decoded
    cases front data with
    | short few =>
        rw [decode_short few] at decoded
        cases decoded
    | cutOff whole few =>
        rw [decode_lengthField whole, if_pos few] at decoded
        cases decoded
    | @framed payload behind fits =>
        rw [decode_frame fits] at decoded
        cases decoded
        exact ⟨payload, behind, fits, rfl, rfl, rfl⟩
  · rintro ⟨payload, behind, fits, rfl, rfl, rfl⟩
    rw [decode_frame fits]

/-! ## What is written for it -/

/-- The number that a payload stands for is written without the high zero bytes of the payload. -/
theorem bytes_value (payload : Bytes) : bytes (value payload) = frame payload.trimmed := by
  rw [bytes_eq_frame, magnitude_value]

theorem value_trimmed (payload : Bytes) : value payload.trimmed = value payload := by
  rw [← magnitude_value, ← ofBytes_eq_value, ofBytes_magnitude]

/-- A frame is kept exactly if its payload has no high zero bytes. -/
theorem frame_trimmed_eq_iff (fits : payload.Fits) :
    frame payload.trimmed = frame payload ↔
      payload = [] ∨ ∃ byte, payload.getLast? = some byte ∧ byte ≠ 0 := by
  rw [← Bytes.trimmed_eq_self_iff]
  constructor
  · intro same
    have shorter : payload.trimmed.Fits := Nat.lt_of_le_of_lt payload.trimmed_length_le fits
    apply (frame_append_inj shorter fits _).1
    · exact []
    · exact []
    · rw [same]
  · intro same
    rw [same]

theorem length_frame_trimmed_le (payload : Bytes) :
    (frame payload.trimmed).length ≤ (frame payload).length := by
  rw [length_frame, length_frame]
  exact Nat.add_le_add_left payload.trimmed_length_le _

/-- A frame that is not kept becomes shorter. -/
theorem length_frame_trimmed_lt (changed : frame payload.trimmed ≠ frame payload) :
    (frame payload.trimmed).length < (frame payload).length := by
  apply Nat.lt_of_not_le
  intro long
  rw [length_frame, length_frame] at long
  have same := Bytes.trimmed_of_length_le (Nat.le_of_add_le_add_left long)
  exact changed (congrArg frame same)

theorem maxTotal_lt_length_bytes_iff :
    maxTotal < (bytes n).length ↔ 2 ^ 32 - 6 < (magnitude n).length := by
  have mark : maxTotal = 2 ^ 32 - 2 := rfl
  have field : lengthFieldSize = 4 := rfl
  rw [length_bytes]
  omega

/-- A number is refused for its length exactly if it is too long, whatever buffer there is. -/
theorem encode_overflow_iff (out : Option Bytes) :
    (encode n).Fails out .lengthOverflow ↔ maxTotal < (bytes n).length := by
  constructor
  · intro failed
    rw [Op.Fails] at failed
    cases out with
    | none =>
        by_contra within
        rw [encode, encodedLength_of_le (Nat.le_of_not_lt within)] at failed
        cases failed
    | some out =>
        have ends := encodeInto_ends n out
        rw [encode] at failed
        generalize encodeInto n out = outcome at ends failed
        cases ends with
        | overflow exceeds => exact exceeds
        | noRoom => cases failed
        | done => cases failed
  · intro exceeds
    cases out with
    | none =>
        rw [Op.Fails, encode, encodedLength_of_lt exceeds]
        rfl
    | some out => rw [Op.Fails, encode, encodeInto_overflow exceeds]

/-- Without a buffer there is no other cause to refuse a number. -/
theorem encode_none_eq_error {cause : KeyError} (failed : (encode n).Fails none cause) :
    cause = .lengthOverflow := by
  rw [Op.Fails, encode] at failed
  cases answered : encodedLength n with
  | ok length =>
      rw [answered] at failed
      cases failed
  | error other =>
      rw [answered] at failed
      cases failed
      exact encodedLength_eq_error answered

theorem encode_none_eq_ok {length : Nat} (answered : (encode n none).result = .ok length) :
    (bytes n).length ≤ maxTotal ∧ length = (bytes n).length := by
  by_cases bound : (bytes n).length ≤ maxTotal
  · rw [encode, encodedLength_of_le bound] at answered
    cases answered
    exact ⟨bound, rfl⟩
  · rw [encode, encodedLength_of_lt (Nat.lt_of_not_le bound)] at answered
    cases answered

/-- A number that was read stands in the data as a length field and a payload of which it is the
value, and nothing behind them counts.  Written again it is refused for its length exactly if its
magnitude has more than `2 ^ 32 - 6` bytes, and for nothing else.  Otherwise its bytes are not more
than those that it was read from: they are the same if the payload is empty or its last byte is not
zero, and fewer if not, and in both cases the number is read from them. -/
theorem encode_of_decode (decoded : (decode data outer).result = .ok (n, used)) :
    ∃ field payload behind : Bytes, data = field ++ payload ++ behind ∧ field.length = 4 ∧
      used = 4 + payload.length ∧ n = value payload ∧
      (∀ more : Bytes, (decode (data ++ more) outer).result = .ok (n, used)) ∧
      (∀ out, (encode n).Fails out .lengthOverflow ↔ 2 ^ 32 - 6 < (magnitude n).length) ∧
      (∀ cause, (encode n).Fails none cause → cause = .lengthOverflow) ∧
      ∀ length, (encode n none).result = .ok length →
        length ≤ used ∧ ∃ encoding : Bytes, encoding.length = length ∧
          (∀ room rest : Bytes, room.length = length →
            (encode n).Yields (some (room ++ rest)) length (some (encoding ++ rest))) ∧
          (encoding = field ++ payload ↔
            payload = [] ∨ ∃ byte, payload.getLast? = some byte ∧ byte ≠ 0) ∧
          (encoding ≠ field ++ payload → length < used) ∧
          (decode encoding outer).result = .ok (n, length) := by
  obtain ⟨payload, behind, fits, rfl, rfl, rfl⟩ := decode_eq_ok.1 decoded
  have whole : (digits 4 payload.length).length = 4 := length_digits 4 payload.length
  refine ⟨digits 4 payload.length, payload, behind, rfl, whole, length_frame payload, rfl, ?_, ?_,
    fun cause failed => encode_none_eq_error failed, ?_⟩
  · intro more
    rw [List.append_assoc]
    exact decode_eq_ok.2 ⟨payload, behind ++ more, fits, rfl, rfl, rfl⟩
  · intro out
    rw [encode_overflow_iff, maxTotal_lt_length_bytes_iff]
  · intro length answered
    obtain ⟨bound, rfl⟩ := encode_none_eq_ok answered
    have written {room : Bytes} (sized : room.length = (bytes (value payload)).length)
        (rest : Bytes) :
        (encode (value payload)).Yields (some (room ++ rest)) (bytes (value payload)).length
          (some (bytes (value payload) ++ rest)) := by
      rw [Op.Yields, encode, encodeInto_room bound sized]
      exact ⟨rfl, rfl⟩
    have shorter := length_frame_trimmed_le payload
    rw [bytes_value] at written ⊢
    refine ⟨shorter, frame payload.trimmed, rfl, fun room rest sized => written sized rest,
      frame_trimmed_eq_iff fits, length_frame_trimmed_lt, ?_⟩
    have shorterFits : payload.trimmed.Fits := Nat.lt_of_le_of_lt payload.trimmed_length_le fits
    apply decode_eq_ok.2
    exact ⟨payload.trimmed, [], shorterFits, (List.append_nil _).symm,
      (value_trimmed payload).symm, rfl⟩

/-- Seven was read from a payload of three bytes and is written as one of one byte. -/
theorem paddedSeven_encode :
    (decode [3, 0, 0, 0, 7, 0, 0, 99] ()).result = .ok (7, 7) ∧
      (encode 7 none).result = .ok 5 ∧
      ∃ encoding : Bytes, encoding.length = 5 ∧
        (encode 7).Yields (some [9, 9, 9, 9, 9, 9]) 5 (some (encoding ++ [9])) ∧
        (decode encoding ()).result = .ok (7, 5) := by
  have decoded : (decode [3, 0, 0, 0, 7, 0, 0, 99] ()).result = .ok (7, 7) := by decide
  have sized : (encode 7 none).result = .ok 5 := by decide
  obtain ⟨_, _, _, -, -, -, -, -, -, -, encoded⟩ := encode_of_decode decoded
  obtain ⟨-, encoding, length, written, -, -, again⟩ := encoded 5 sized
  exact ⟨decoded, sized, encoding, length, written [9, 9, 9, 9, 9] [9] rfl, again⟩

end Keyring.Uint
