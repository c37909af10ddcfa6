/-
Module: Keyring.Proofs.Uint.Room
Purpose: Numbers written into a buffer of any length.  A buffer has room for a number, or it ends
  inside the magnitude, or inside the length field; numbers are all written exactly if their sum
  stays below the failure mark and the buffer has room for each, and where only the room is missing
  the buffer is named as the cause.
Main exports: Room, room, encodeInto_overflow, EncodeEnds, encodeInto_ends, encodeInto_noRoom,
  write_refused, yields_write_filling, yields_writeAll_filling, fails_writeAll_filling,
  serialize_some_overflow, serialize_short, WriteFailure, raises_encodeInto, raises_write,
  raises_serialize
-/
import Keyring.Proofs.Uint.Writer

namespace Keyring.Uint

open LittleEndian

variable {n total length : Nat} {numbers : List Nat} {written ahead out : Bytes} {writer : Writer}

/-- How far a buffer reaches when a number is written to its front. -/
inductive Room (n : Nat) : Bytes → Prop where
  /-- Not to the end of the length field. -/
  | short {out : Bytes} (few : out.length < lengthFieldSize) : Room n out
  /-- Not to the end of the magnitude. -/
  | cutOff {field rest : Bytes} (whole : field.length = lengthFieldSize)
      (few : rest.length < (magnitude n).length) : Room n (field ++ rest)
  /-- To the end of the number, or beyond it. -/
  | enough {room behind : Bytes} (sized : room.length = (bytes n).length) : Room n (room ++ behind)

theorem room (n : Nat) (out : Bytes) : Room n out := by
  by_cases few : out.length < lengthFieldSize
  · exact .short few
  by_cases fits : (bytes n).length ≤ out.length
  · rw [← List.take_append_drop (bytes n).length out]
    exact .enough (List.length_take_of_le fits)
  · rw [← List.take_append_drop lengthFieldSize out]
    rw [length_bytes] at fits
    apply Room.cutOff (List.length_take_of_le (Nat.le_of_not_lt few))
    rw [List.length_drop]
    omega

/-! ## One number -/

theorem encodeInto_overflow (exceeds : maxTotal < (bytes n).length) (out : Bytes) :
    encodeInto n out = ⟨.error .lengthOverflow, out, []⟩ := by
  rw [encodeInto, encodedLength_of_lt exceeds, Op.ofExcept_error, Op.bind_error (Op.fail_apply _ _)]

/-- A buffer without room for a length field stays as it was. -/
theorem encodeInto_short (bound : (bytes n).length ≤ maxTotal) (few : out.length < lengthFieldSize) :
    encodeInto n out =
      ⟨.error (.format (.bufferEnds lengthFieldSize out.length)), out, [.bufferEnds .integers]⟩ := by
  rw [encodeInto, encodedLength_of_le bound, Op.ofExcept_ok, pure_bind,
    Op.bind_ok (Op.get_apply _), Bytes.shorterThan_eq, if_pos (decide_eq_true few)]
  rfl

/-- A buffer with room for the length field only has that field written. -/
theorem encodeInto_cutOff (bound : (bytes n).length ≤ maxTotal) {field rest : Bytes}
    (whole : field.length = lengthFieldSize) (few : rest.length < (magnitude n).length) :
    encodeInto n (field ++ rest) =
      ⟨.error (.format (.bufferEnds (magnitude n).length rest.length)),
        digits lengthFieldSize (magnitude n).length ++ rest, [.bufferEnds .integers]⟩ := by
  have enough : ¬ (field ++ rest).length < lengthFieldSize := by simp [whole]
  have header : field.length = (digits lengthFieldSize (magnitude n).length).length := by
    rw [whole, length_digits]
  rw [length_bytes] at bound
  have small : (magnitude n).length < UInt32.size := by
    have below : maxTotal < UInt32.size := by decide
    omega
  rw [← length_bytes] at bound
  rw [encodeInto, encodedLength_of_le bound, Op.ofExcept_ok, pure_bind,
    Op.bind_ok (Op.get_apply _)]
  simp only [Bytes.shorterThan_eq, enough, Bytes.cut_append whole, Op.checked_ok, pure_bind,
    narrow32_eq_ok small, Bytes.overwrite_eq_ok header, decide_false, Bool.false_eq_true, if_false]
  rw [Op.bind_ok (Op.set_apply _ _), if_pos (decide_eq_true few)]
  rfl

/-- How the writing of a number to the front of a buffer ends. -/
inductive EncodeEnds (n : Nat) (out : Bytes) : Outcome Bytes Nat → Prop where
  /-- The number alone goes beyond the failure mark. -/
  | overflow (exceeds : maxTotal < (bytes n).length) :
      EncodeEnds n out ⟨.error .lengthOverflow, out, []⟩
  /-- The buffer ends inside of the number. -/
  | noRoom (bound : (bytes n).length ≤ maxTotal) (needed available : Nat) (after : Bytes) :
      EncodeEnds n out
        ⟨.error (.format (.bufferEnds needed available)), after, [.bufferEnds .integers]⟩
  /-- The number stands at the front of the buffer. -/
  | done (bound : (bytes n).length ≤ maxTotal) (behind : Bytes) :
      EncodeEnds n out ⟨.ok (bytes n).length, bytes n ++ behind, []⟩

theorem encodeInto_ends (n : Nat) (out : Bytes) : EncodeEnds n out (encodeInto n out) := by
  by_cases bound : (bytes n).length ≤ maxTotal
  · cases room n out with
    | short few =>
        rw [encodeInto_short bound few]
        exact .noRoom bound _ _ _
    | cutOff whole few =>
        rw [encodeInto_cutOff bound whole few]
        exact .noRoom bound _ _ _
    | enough sized =>
        rw [encodeInto_room bound sized]
        exact .done bound _
  · have exceeds := Nat.lt_of_not_le bound
    rw [encodeInto_overflow exceeds]
    exact .overflow exceeds

/-- A writer whose number is refused has lost its buffer, and counts nothing for the number. -/
theorem write_refused {after : Bytes} {cause : KeyError} {log : List Event}
    (refused : encodeInto n ahead = ⟨.error cause, after, log⟩) (written : Bytes) (total : Nat) :
    write n ⟨.filling written ahead, total⟩ =
      ⟨.error cause, ⟨.lost (written ++ after), total⟩, log⟩ := by
  have taken : put n (.filling written ahead) = ⟨.error cause, .lost (written ++ after), log⟩ := by
    rw [put, Op.bind_ok (Op.get_apply _)]
    simp only [fill, refused, List.nil_append]
  have inside : Op.inside Writer.sink (fun sink writer => { writer with sink }) (put n)
      ⟨.filling written ahead, total⟩ = ⟨.error cause, ⟨.lost (written ++ after), total⟩, log⟩ := by
    simp only [Op.inside, taken]
  rw [write, Op.bind_error inside]

/-- A sum beyond the mark is refused also where the buffer has room. -/
theorem write_filling_overflow (exceeds : maxTotal < total + (bytes n).length) {room : Bytes}
    (sized : room.length = (bytes n).length) (written behind : Bytes) :
    (write n).Fails ⟨.filling written (room ++ behind), total⟩ .lengthOverflow := by
  by_cases alone : (bytes n).length ≤ maxTotal
  · have taken : put n (.filling written (room ++ behind)) =
        ⟨.ok (bytes n).length, .filling (written ++ bytes n) behind, []⟩ := by
      rw [put, Op.bind_ok (Op.get_apply _)]
      simp only [fill_room alone sized, List.append_nil]
    simp only [Op.Fails, write, Op.inside, taken, Op.bind_apply, Op.get_apply,
      accumulate_of_lt exceeds, Op.ofExcept_error, Op.fail_apply]
  · have refused := encodeInto_overflow (Nat.lt_of_not_le alone) (room ++ behind)
    rw [Op.Fails, write_refused refused]

theorem yields_write_filling :
    (write n).Yields ⟨.filling written ahead, total⟩ () writer ↔
      total + (bytes n).length ≤ maxTotal ∧
        ∃ room behind, ahead = room ++ behind ∧ room.length = (bytes n).length ∧
          writer = ⟨.filling (written ++ bytes n) behind, total + (bytes n).length⟩ := by
  constructor
  · intro done
    by_cases alone : (bytes n).length ≤ maxTotal
    · cases room n ahead with
      | short few =>
          rw [Op.Yields, write_refused (encodeInto_short alone few)] at done
          cases done.1
      | cutOff whole few =>
          rw [Op.Yields, write_refused (encodeInto_cutOff alone whole few)] at done
          cases done.1
      | @enough room behind sized =>
          by_cases bound : total + (bytes n).length ≤ maxTotal
          · rw [Op.Yields, write_filling bound sized] at done
            exact ⟨bound, room, behind, rfl, sized, done.2.symm⟩
          · have failed := write_filling_overflow (Nat.lt_of_not_le bound) sized written behind
            cases done.1.symm.trans failed
    · rw [Op.Yields, write_refused (encodeInto_overflow (Nat.lt_of_not_le alone) ahead)] at done
      cases done.1
  · rintro ⟨bound, room, behind, rfl, sized, rfl⟩
    rw [Op.Yields, write_filling bound sized]
    exact ⟨rfl, rfl⟩

/-- A buffer without room for a number is named as the cause, wherever in the number it ends. -/
theorem encodeInto_noRoom (bound : (bytes n).length ≤ maxTotal)
    (few : out.length < (bytes n).length) :
    ∃ needed available, (encodeInto n).Fails out (.format (.bufferEnds needed available)) := by
  cases room n out with
  | short tooFew => exact ⟨_, _, by rw [Op.Fails, encodeInto_short bound tooFew]⟩
  | cutOff whole tooFew => exact ⟨_, _, by rw [Op.Fails, encodeInto_cutOff bound whole tooFew]⟩
  | enough sized =>
      rw [List.length_append, sized] at few
      omega

/-! ## Several numbers -/

/-- Numbers are written exactly if their sum stays below the failure mark and the buffer has room
for them; what is behind them is still to be written. -/
theorem yields_writeAll_filling (start : total ≤ maxTotal) :
    (writeAll numbers).Yields ⟨.filling written ahead, total⟩ () writer ↔
      total + (join numbers).length ≤ maxTotal ∧
        ∃ room behind, ahead = room ++ behind ∧ room.length = (join numbers).length ∧
          writer = ⟨.filling (written ++ join numbers) behind, total + (join numbers).length⟩ := by
  constructor
  · intro done
    induction numbers generalizing written ahead total with
    | nil =>
        obtain ⟨-, rfl⟩ := Op.yields_pure.1 done
        exact ⟨start, [], ahead, rfl, rfl, by simp⟩
    | cons n rest inductionHypothesis =>
        obtain ⟨_, between, firstWritten, restWritten⟩ := Op.yields_bind.1 done
        obtain ⟨bound, room, behind, rfl, sized, rfl⟩ := yields_write_filling.1 firstWritten
        obtain ⟨whole, later, last, rfl, laterSized, rfl⟩ := inductionHypothesis bound restWritten
        rw [Nat.add_assoc, ← List.length_append, ← join_cons] at whole
        refine ⟨whole, room ++ later, last, (List.append_assoc _ _ _).symm, ?_, ?_⟩
        · rw [List.length_append, sized, laterSized, join_cons, List.length_append]
        · rw [join_cons, List.append_assoc, List.length_append, Nat.add_assoc]
  · rintro ⟨bound, room, behind, rfl, sized, rfl⟩
    rw [Op.Yields, writeAll_filling bound sized]
    exact ⟨rfl, rfl⟩

/-- Numbers that stay below the failure mark are refused by a buffer without room for them, wherever
in them it ends. -/
theorem fails_writeAll_filling (bound : total + (join numbers).length ≤ maxTotal)
    (few : ahead.length < (join numbers).length) :
    ∃ needed available,
      (writeAll numbers).Fails ⟨.filling written ahead, total⟩
        (.format (.bufferEnds needed available)) := by
  induction numbers generalizing written ahead total with
  | nil => cases few
  | cons n rest inductionHypothesis =>
      rw [join_cons, List.length_append] at bound few
      have alone : (bytes n).length ≤ maxTotal := by omega
      cases room n ahead with
      | short tooFew =>
          have refused := write_refused (encodeInto_short alone tooFew) written total
          exact ⟨_, _, Op.fails_bind.2 (.inl (by rw [Op.Fails, refused]))⟩
      | cutOff whole tooFew =>
          have refused := write_refused (encodeInto_cutOff alone whole tooFew) written total
          exact ⟨_, _, Op.fails_bind.2 (.inl (by rw [Op.Fails, refused]))⟩
      | @enough room behind sized =>
          have firstBound : total + (bytes n).length ≤ maxTotal := by omega
          have laterBound : total + (bytes n).length + (join rest).length ≤ maxTotal := by omega
          rw [List.length_append, sized] at few
          obtain ⟨needed, available, failed⟩ :=
            inductionHypothesis laterBound (Nat.lt_of_add_lt_add_left few)
          refine ⟨needed, available, Op.fails_bind.2 (.inr ⟨(), _, ?_, failed⟩)⟩
          exact yields_write_filling.2 ⟨firstBound, room, behind, rfl, sized, rfl⟩

/-! ## A whole blob -/

/-- What is written without a failure has been written by a writer that began with the buffer. -/
theorem yields_writeAll_of_serialize (done : (serialize numbers (some out)).result = .ok length) :
    ∃ writer, (writeAll numbers).Yields (Writer.start (some out)) () writer ∧
      writer.total = length := by
  unfold serialize at done
  split at done
  · cases done
  · next writer log ran =>
      refine ⟨writer, ?_, Except.ok.inj done⟩
      rw [Op.Yields, ran]
      exact ⟨rfl, rfl⟩

/-- Numbers beyond the failure mark are not written, whatever room there is. -/
theorem serialize_some_overflow (exceeds : maxTotal < (join numbers).length) (out : Bytes)
    (length : Nat) : (serialize numbers (some out)).result ≠ .ok length := by
  intro done
  obtain ⟨writer, written, -⟩ := yields_writeAll_of_serialize done
  obtain ⟨bound, -⟩ := (yields_writeAll_filling (Nat.zero_le _)).1 written
  omega

theorem serialize_short (bound : (join numbers).length ≤ maxTotal)
    (few : out.length < (join numbers).length) :
    ∃ needed available,
      (serialize numbers).Fails (some out) (.format (.bufferEnds needed available)) := by
  have start : 0 + (join numbers).length ≤ maxTotal := by omega
  obtain ⟨needed, available, failed⟩ := fails_writeAll_filling start few
  exact ⟨needed, available, fails_serialize.2 failed⟩

/-! ## How writing fails -/

/-- Why numbers cannot be written. -/
inductive WriteFailure : KeyError → Prop where
  | overflow : WriteFailure .lengthOverflow
  | noRoom (needed available : Nat) : WriteFailure (.format (.bufferEnds needed available))

theorem raises_accumulate {σ : Type} (total more : Nat) :
    Op.Raises WriteFailure (Op.ofExcept (accumulate total more) : Op σ Nat) := by
  apply Op.Raises.ofExcept
  intro cause refused
  rw [accumulate_eq_error refused]
  exact .overflow

theorem raises_encodedLength {σ : Type} (n : Nat) :
    Op.Raises WriteFailure (Op.ofExcept (encodedLength n) : Op σ Nat) := by
  apply Op.Raises.ofExcept
  intro cause refused
  rw [encodedLength_eq_error refused]
  exact .overflow

/-- What is answered is not more than what stands in the buffer then. -/
theorem exists_behind_of_encodeInto {after : Bytes} {log : List Event}
    (ran : encodeInto n out = ⟨.ok length, after, log⟩) :
    ∃ behind, after = bytes n ++ behind ∧ length = (bytes n).length := by
  have ends := encodeInto_ends n out
  rw [ran] at ends
  cases ends with
  | done bound behind => exact ⟨behind, rfl, rfl⟩

/-- Every cut, copy and narrowing on the way is in bounds, so only room can be missing. -/
theorem raises_encodeInto (n : Nat) : Op.Raises WriteFailure (encodeInto n) := by
  intro out cause failed
  have ends := encodeInto_ends n out
  unfold Op.Fails at failed
  generalize encodeInto n out = outcome at ends failed
  cases ends with
  | overflow =>
      cases failed
      exact .overflow
  | noRoom =>
      cases failed
      exact .noRoom _ _
  | done => cases failed

theorem raises_encode (n : Nat) : Op.Raises WriteFailure (encode n) := by
  intro out cause failed
  cases out with
  | none => exact raises_encodedLength n none cause failed
  | some out => exact raises_encodeInto n out cause failed

theorem raises_fill (n : Nat) (written ahead : Bytes) :
    Op.Raises WriteFailure (fill n written ahead) := by
  intro sink cause failed
  unfold Op.Fails fill at failed
  split at failed
  · next other after log ran =>
      cases failed
      exact raises_encodeInto n ahead cause (by rw [Op.Fails, ran])
  · next length after log ran =>
      -- What was written is not longer than the buffer that it was written to.
      obtain ⟨behind, rfl, rfl⟩ := exists_behind_of_encodeInto ran
      rw [Bytes.cut_append rfl] at failed
      cases failed

theorem raises_write (n : Nat) : Op.Raises WriteFailure (write n) := by
  have puts : Op.Raises WriteFailure (put n) := by
    refine Op.Raises.get.bind fun sink => ?_
    cases sink with
    | filling written ahead => exact raises_fill n written ahead
    | absent => exact raises_encodedLength n
    | lost contents => exact raises_encodedLength n
  exact (puts.inside _ _).bind fun length => Op.Raises.get.bind fun writer =>
    (raises_accumulate _ _).bind fun total => .set _

theorem raises_writeAll (numbers : List Nat) : Op.Raises WriteFailure (writeAll numbers) := by
  induction numbers with
  | nil => exact .pure ()
  | cons n rest inductionHypothesis =>
      exact (raises_write n).bind fun _ => inductionHypothesis

theorem raises_serialize (numbers : List Nat) : Op.Raises WriteFailure (serialize numbers) := by
  intro out cause failed
  exact raises_writeAll numbers (Writer.start out) cause (fails_serialize.1 failed)

end Keyring.Uint
