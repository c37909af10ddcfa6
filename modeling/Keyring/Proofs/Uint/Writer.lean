/-
Module: Keyring.Proofs.Uint.Writer
Purpose: What is written as numbers.  The numbers of a key stand one after the other, each as the
  frame of its magnitude.  Without a buffer only their length is added up, and the sum is refused
  where it would reach the failure mark; into a buffer with room for them they are written, and
  what is behind them stays.
Main exports: join, reads_join, encodedLength_of_le, encodeInto_room, Sink.Counting,
  writeAll_counting, writeAll_overflow, writeAll_filling, serialize_none, serialize_overflow,
  serialize_room, fails_serialize
-/
import Keyring.Proofs.Uint.Reader
import Keyring.Uint.Writer

namespace Keyring.Uint

open LittleEndian

/-- Some numbers as they stand in a key, one after the other. -/
def join (numbers : List Nat) : Bytes :=
  numbers.flatMap bytes

@[simp] theorem join_nil : join [] = [] := rfl

@[simp] theorem join_cons (n : Nat) (rest : List Nat) :
    join (n :: rest) = bytes n ++ join rest := rfl

theorem join_append (first later : List Nat) : join (first ++ later) = join first ++ join later :=
  List.flatMap_append

theorem bytes_eq_frame (n : Nat) : bytes n = frame (magnitude n) := by
  rw [bytes, frame, length_magnitude]

theorem join_eq_frames (numbers : List Nat) : join numbers = frames (numbers.map magnitude) := by
  rw [join, frames, List.flatMap_map, funext bytes_eq_frame]

theorem length_bytes (n : Nat) : (bytes n).length = lengthFieldSize + (magnitude n).length := by
  rw [bytes_eq_frame, length_frame]

/-- A length below the failure mark fits into a length field. -/
theorem fits_of_le_maxTotal {bytes : Bytes} (bound : bytes.length ≤ maxTotal) : bytes.Fits := by
  have below : maxTotal < UInt32.size := by decide
  exact Nat.lt_of_le_of_lt bound below

/-- The magnitudes of numbers that stay below the failure mark together fit each. -/
theorem fits_magnitudes {numbers : List Nat} (bound : (join numbers).length ≤ maxTotal) :
    ∀ bytes ∈ numbers.map magnitude, bytes.Fits := by
  intro digits member
  obtain ⟨n, held, rfl⟩ := List.mem_map.1 member
  apply fits_of_le_maxTotal
  have part : (bytes n).length ≤ (join numbers).length :=
    (List.sublist_flatten_of_mem (List.mem_map_of_mem held)).length_le
  rw [length_bytes] at part
  omega

/-- Numbers are the values of their magnitudes. -/
theorem map_value_magnitude (numbers : List Nat) : (numbers.map magnitude).map value = numbers := by
  rw [List.map_map]
  refine (List.map_congr_left fun n _ => ?_).trans numbers.map_id
  exact (ofBytes_eq_value _).symm.trans (ofBytes_magnitude n)

/-- The numbers that stand in a key are what is read from it, whatever is behind them. -/
theorem reads_join {numbers : List Nat} (bound : (join numbers).length ≤ maxTotal)
    (behind : Bytes) :
    reads numbers.length (join numbers ++ behind) = ⟨.ok numbers, behind, []⟩ := by
  have numbersRead := reads_frames (fits_magnitudes bound) behind
  rwa [List.length_map, ← join_eq_frames, map_value_magnitude] at numbersRead

/-! ## Lengths -/

theorem accumulate_of_le {total more : Nat} (bound : total + more ≤ maxTotal) :
    accumulate total more = .ok (total + more) :=
  if_pos bound

theorem accumulate_of_lt {total more : Nat} (exceeds : maxTotal < total + more) :
    accumulate total more = .error .lengthOverflow :=
  if_neg (Nat.not_le_of_lt exceeds)

/-- A length is refused for one cause only. -/
theorem accumulate_eq_error {total more : Nat} {cause : KeyError}
    (refused : accumulate total more = .error cause) : cause = .lengthOverflow := by
  unfold accumulate at refused
  split at refused
  · cases refused
  · cases refused
    rfl

/-- The length field alone never overflows, so one comparison decides. -/
theorem encodedLength_eq (n : Nat) : encodedLength n = accumulate 0 (bytes n).length := by
  have field : accumulate 0 lengthFieldSize = .ok lengthFieldSize := by decide
  rw [encodedLength, field, length_bytes]
  change accumulate lengthFieldSize (magnitude n).length = _
  rw [accumulate, accumulate, Nat.zero_add]

theorem encodedLength_of_le {n : Nat} (bound : (bytes n).length ≤ maxTotal) :
    encodedLength n = .ok (bytes n).length := by
  rw [encodedLength_eq, accumulate_of_le (by omega), Nat.zero_add]

theorem encodedLength_of_lt {n : Nat} (exceeds : maxTotal < (bytes n).length) :
    encodedLength n = .error .lengthOverflow := by
  rw [encodedLength_eq, accumulate_of_lt (by omega)]

theorem encodedLength_eq_error {n : Nat} {cause : KeyError}
    (refused : encodedLength n = .error cause) : cause = .lengthOverflow := by
  rw [encodedLength_eq] at refused
  exact accumulate_eq_error refused

/-! ## One number -/

/-- Bytes fall into two parts of given lengths. -/
theorem exists_append_of_length {room : Bytes} {first later : Nat}
    (whole : room.length = first + later) :
    ∃ front back, room = front ++ back ∧ front.length = first ∧ back.length = later := by
  refine ⟨room.take first, room.drop first, (List.take_append_drop first room).symm, ?_, ?_⟩
  · exact List.length_take_of_le (by omega)
  · rw [List.length_drop]
    omega

/-- A number is written over as many bytes as it takes. -/
theorem encodeInto_room {n : Nat} (bound : (bytes n).length ≤ maxTotal) {room : Bytes}
    (sized : room.length = (bytes n).length) (behind : Bytes) :
    encodeInto n (room ++ behind) = ⟨.ok (bytes n).length, bytes n ++ behind, []⟩ := by
  -- The room falls into that of the length field and that of the magnitude.
  obtain ⟨field, target, rfl, whole, fills⟩ :=
    exists_append_of_length (sized.trans (length_bytes n))
  have small : (magnitude n).length < UInt32.size := by
    have split := length_bytes n
    have below : maxTotal < UInt32.size := by decide
    omega
  have enough : ¬ (field ++ (target ++ behind)).length < lengthFieldSize := by simp [whole]
  have room : ¬ (target ++ behind).length < (magnitude n).length := by simp [fills]
  have header : field.length = (digits lengthFieldSize (magnitude n).length).length := by
    rw [whole, length_digits]
  rw [List.append_assoc, encodeInto, encodedLength_of_le bound, Op.ofExcept_ok, pure_bind,
    Op.bind_ok (Op.get_apply _)]
  simp only [Bytes.shorterThan_eq, enough, Bytes.cut_append whole, Op.checked_ok, pure_bind,
    narrow32_eq_ok small, Bytes.overwrite_eq_ok header, decide_false, Bool.false_eq_true, if_false]
  rw [Op.bind_ok (Op.set_apply _ _)]
  simp only [room, decide_false, Bool.false_eq_true, if_false, Bytes.cut_append fills,
    Op.checked_ok, pure_bind, Bytes.overwrite_eq_ok fills]
  rw [Op.bind_ok (Op.set_apply _ _), bytes_eq_frame, frame, List.append_assoc]
  rfl

theorem fill_room {n : Nat} (bound : (bytes n).length ≤ maxTotal) {room : Bytes}
    (sized : room.length = (bytes n).length) (written behind : Bytes) (sink : Sink) :
    fill n written (room ++ behind) sink =
      ⟨.ok (bytes n).length, .filling (written ++ bytes n) behind, []⟩ := by
  rw [fill, encodeInto_room bound sized]
  simp only [Bytes.cut_append rfl]

/-- A write that the sink takes counts its length, as long as the sum stays below the mark. -/
theorem write_of_put {n length total : Nat} {sink after : Sink}
    (taken : put n sink = ⟨.ok length, after, []⟩) (bound : total + length ≤ maxTotal) :
    write n ⟨sink, total⟩ = ⟨.ok (), ⟨after, total + length⟩, []⟩ := by
  simp only [write, Op.inside, Op.bind_apply, Op.get_apply, Op.set_apply, Op.pure_apply, taken,
    accumulate_of_le bound, Op.ofExcept_ok, List.append_nil]

theorem write_filling {n total : Nat} (bound : total + (bytes n).length ≤ maxTotal) {room : Bytes}
    (sized : room.length = (bytes n).length) (written behind : Bytes) :
    write n ⟨.filling written (room ++ behind), total⟩ =
      ⟨.ok (), ⟨.filling (written ++ bytes n) behind, total + (bytes n).length⟩, []⟩ := by
  apply write_of_put _ bound
  rw [put, Op.bind_ok (Op.get_apply _)]
  simp only [fill_room (n := n) (by omega) sized, List.append_nil]

/-- The sink takes no bytes: there is no buffer, or it is no longer written to. -/
inductive Sink.Counting : Sink → Prop where
  | absent : Counting .absent
  | lost (contents : Bytes) : Counting (.lost contents)

/-- Where no bytes are taken, only the length of a number is. -/
theorem put_counting {sink : Sink} (counting : sink.Counting) (n : Nat) :
    put n sink = Op.ofExcept (encodedLength n) sink := by
  rw [put, Op.bind_ok (Op.get_apply _)]
  cases counting with
  | absent => rfl
  | lost contents => rfl

theorem write_counting {sink : Sink} (counting : sink.Counting) {n total : Nat}
    (bound : total + (bytes n).length ≤ maxTotal) :
    write n ⟨sink, total⟩ = ⟨.ok (), ⟨sink, total + (bytes n).length⟩, []⟩ := by
  apply write_of_put _ bound
  rw [put_counting counting, encodedLength_of_le (by omega)]
  rfl

/-- A sum beyond the mark is refused in the same way as one number beyond it. -/
theorem write_overflow {n total : Nat} (exceeds : maxTotal < total + (bytes n).length) :
    write n ⟨.absent, total⟩ = ⟨.error .lengthOverflow, ⟨.absent, total⟩, []⟩ := by
  by_cases alone : (bytes n).length ≤ maxTotal
  · simp only [write, Op.inside, put_counting .absent, encodedLength_of_le alone, Op.bind_apply,
      Op.get_apply, Op.pure_apply, accumulate_of_lt exceeds, Op.ofExcept_ok, Op.ofExcept_error,
      Op.fail_apply, List.append_nil]
  · simp only [write, Op.inside, put_counting .absent,
      encodedLength_of_lt (Nat.lt_of_not_le alone), Op.bind_apply, Op.ofExcept_error, Op.fail_apply]

/-! ## Several numbers -/

theorem writeAll_counting {sink : Sink} (counting : sink.Counting) {numbers : List Nat}
    {total : Nat} (bound : total + (join numbers).length ≤ maxTotal) :
    writeAll numbers ⟨sink, total⟩ =
      ⟨.ok (), ⟨sink, total + (join numbers).length⟩, []⟩ := by
  induction numbers generalizing total with
  | nil => rfl
  | cons n rest inductionHypothesis =>
      rw [join_cons, List.length_append, ← Nat.add_assoc] at bound ⊢
      rw [writeAll, Op.bind_ok (write_counting counting (by omega)), inductionHypothesis bound]
      rfl

theorem writeAll_overflow {numbers : List Nat} {total : Nat} (start : total ≤ maxTotal)
    (exceeds : maxTotal < total + (join numbers).length) :
    ∃ reached, writeAll numbers ⟨.absent, total⟩ =
      ⟨.error .lengthOverflow, ⟨.absent, reached⟩, []⟩ := by
  induction numbers generalizing total with
  | nil =>
      rw [join_nil, List.length_nil] at exceeds
      omega
  | cons n rest inductionHypothesis =>
      rw [join_cons, List.length_append, ← Nat.add_assoc] at exceeds
      by_cases first : total + (bytes n).length ≤ maxTotal
      · obtain ⟨reached, failed⟩ := inductionHypothesis first exceeds
        refine ⟨reached, ?_⟩
        rw [writeAll, Op.bind_ok (write_counting .absent first), failed]
        rfl
      · refine ⟨total, ?_⟩
        rw [writeAll, Op.bind_error (write_overflow (Nat.lt_of_not_le first))]

theorem writeAll_filling {numbers : List Nat} {total : Nat}
    (bound : total + (join numbers).length ≤ maxTotal) {room : Bytes}
    (sized : room.length = (join numbers).length) (written behind : Bytes) :
    writeAll numbers ⟨.filling written (room ++ behind), total⟩ =
      ⟨.ok (), ⟨.filling (written ++ join numbers) behind, total + (join numbers).length⟩,
        []⟩ := by
  induction numbers generalizing total room written with
  | nil =>
      rw [join_nil, List.length_nil, List.length_eq_zero_iff] at sized
      subst sized
      simp only [writeAll, List.nil_append, join_nil, List.append_nil]
      rfl
  | cons n rest inductionHypothesis =>
      rw [join_cons, List.length_append] at bound sized
      obtain ⟨first, later, rfl, firstFits, laterFits⟩ := exists_append_of_length sized
      have firstBound : total + (bytes n).length ≤ maxTotal := by omega
      have laterBound : total + (bytes n).length + (join rest).length ≤ maxTotal := by omega
      have firstWritten := write_filling firstBound firstFits written (later ++ behind)
      have laterWritten := inductionHypothesis laterBound laterFits (written ++ bytes n)
      rw [List.append_assoc, writeAll, Op.bind_ok firstWritten, laterWritten, join_cons]
      simp [Nat.add_assoc]

/-! ## A whole blob -/

theorem serialize_none {numbers : List Nat} (bound : (join numbers).length ≤ maxTotal) :
    serialize numbers none = ⟨.ok (join numbers).length, none, []⟩ := by
  have start : 0 + (join numbers).length ≤ maxTotal := by omega
  simp only [serialize, Writer.start, writeAll_counting .absent start, Writer.buffer,
    Nat.zero_add]

theorem serialize_overflow {numbers : List Nat} (exceeds : maxTotal < (join numbers).length) :
    serialize numbers none = ⟨.error .lengthOverflow, none, []⟩ := by
  have start : maxTotal < 0 + (join numbers).length := by omega
  obtain ⟨reached, failed⟩ := writeAll_overflow (Nat.zero_le _) start
  simp only [serialize, Writer.start, failed, Writer.buffer]

theorem serialize_room {numbers : List Nat} (bound : (join numbers).length ≤ maxTotal)
    {room : Bytes} (sized : room.length = (join numbers).length) (behind : Bytes) :
    serialize numbers (some (room ++ behind)) =
      ⟨.ok (join numbers).length, some (join numbers ++ behind), []⟩ := by
  have start : 0 + (join numbers).length ≤ maxTotal := by omega
  simp only [serialize, Writer.start, writeAll_filling start sized [] behind, Writer.buffer,
    Nat.zero_add, List.nil_append]

/-- A blob cannot be written where its numbers cannot. -/
theorem fails_serialize {numbers : List Nat} {out : Option Bytes} {cause : KeyError} :
    (serialize numbers).Fails out cause ↔ (writeAll numbers).Fails (Writer.start out) cause := by
  unfold Op.Fails serialize
  split
  · next other writer log ran => simp [ran]
  · next writer log ran => simp [ran]

end Keyring.Uint
