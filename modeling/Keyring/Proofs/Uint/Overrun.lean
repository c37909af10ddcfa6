/-
Module: Keyring.Proofs.Uint.Overrun
Purpose: Numbers that are all written, whatever becomes of each.  As long as there is room they
  stand one after the other in the buffer.  The first number that does not fit is refused; what of
  it could still be written is its length field at most, and from there on the buffer is left alone
  while lengths are counted as if nothing had happened.
Main exports: totalSize, shortage, begun, encodeInto_refused, each_write_of_yields,
  exists_overrun, each_write_overrun, each_write_start
-/
import Mathlib.Order.Bounds.Basic
import Keyring.Proofs.Uint.Room
import Keyring.Proofs.Uint.Stream

namespace Keyring.Uint

open LittleEndian

variable {n total : Nat} {numbers before later : List Nat} {buffer contents out : Bytes}
  {writer after : Writer}

/-- How many bytes some numbers take, each of them a length field and its digits. -/
def totalSize (numbers : List Nat) : Nat :=
  (numbers.map fun n => 4 + byteLength n).sum

@[simp] theorem totalSize_nil : totalSize [] = 0 := rfl

@[simp] theorem totalSize_cons (n : Nat) (rest : List Nat) :
    totalSize (n :: rest) = 4 + byteLength n + totalSize rest := rfl

theorem totalSize_append (first rest : List Nat) :
    totalSize (first ++ rest) = totalSize first + totalSize rest := by
  simp [totalSize]

/-- The bytes of numbers are as many as the numbers take. -/
theorem length_join_eq_totalSize (numbers : List Nat) :
    (join numbers).length = totalSize numbers :=
  length_join numbers

theorem length_bytes_eq (n : Nat) : (bytes n).length = 4 + byteLength n := by
  rw [length_bytes, length_magnitude]
  rfl

/-! ## One number without room -/

/-- Why a number is refused where so many bytes are left: they do not hold a length field, or what
is left behind that field does not hold the magnitude. -/
def shortage (n room : Nat) : FormatError :=
  if room < 4 then .bufferEnds 4 room else .bufferEnds (magnitude n).length (room - 4)

/-- What becomes of the bytes in which a number is refused: a length field that fits is written. -/
def begun (n : Nat) (room : Bytes) : Bytes :=
  if room.length < 4 then room else digits 4 (magnitude n).length ++ room.drop 4

/-- A number without room is refused wherever in it the room ends. -/
theorem encodeInto_refused (bound : (bytes n).length ≤ maxTotal)
    (few : out.length < (bytes n).length) :
    encodeInto n out =
      ⟨.error (.format (shortage n out.length)), begun n out, [.bufferEnds .integers]⟩ := by
  cases room n out with
  | short tooFew =>
      have noField : out.length < 4 := tooFew
      rw [encodeInto_short bound tooFew, shortage, begun, if_pos noField, if_pos noField]
      rfl
  | @cutOff field rest whole tooFew =>
      have length : (field ++ rest).length = 4 + rest.length := by
        rw [List.length_append, whole]
        rfl
      have hasField : ¬ (field ++ rest).length < 4 := by omega
      have behind : (field ++ rest).drop 4 = rest := List.drop_left' whole
      rw [encodeInto_cutOff bound whole tooFew, shortage, begun, if_neg hasField, if_neg hasField,
        behind, length, Nat.add_sub_cancel_left]
      rfl
  | enough sized =>
      rw [List.length_append, sized] at few
      omega

/-! ## Numbers up to the first one without room, and behind it -/

/-- Where numbers are written up to the first failure and there is none, each of them is written. -/
theorem each_write_of_yields (done : (writeAll numbers).Yields writer () after) :
    Op.each (numbers.map write) writer = (List.replicate numbers.length (.ok ()), after) := by
  induction numbers generalizing writer with
  | nil =>
      have left := (Op.yields_pure.1 done).2
      rw [left]
      rfl
  | cons n rest inductionHypothesis =>
      obtain ⟨answer, between, first, restWritten⟩ := Op.yields_bind.1 done
      have later := inductionHypothesis restWritten
      rw [List.map_cons, Op.each_cons, first.1, first.2, later]
      rfl

theorem each_write_filling (bound : totalSize numbers ≤ maxTotal)
    (enough : totalSize numbers ≤ buffer.length) :
    Op.each (numbers.map write) (Writer.start (some buffer)) =
      (List.replicate numbers.length (.ok ()),
        ⟨.filling (join numbers) (buffer.drop (totalSize numbers)), totalSize numbers⟩) := by
  apply each_write_of_yields
  apply (yields_writeAll_filling (Nat.zero_le _)).2
  rw [length_join_eq_totalSize, Nat.zero_add]
  exact ⟨bound, _, _, (List.take_append_drop _ _).symm, List.length_take_of_le enough, rfl⟩

/-- A writer that has lost its buffer counts on. -/
theorem each_write_lost (bound : total + totalSize numbers ≤ maxTotal) :
    Op.each (numbers.map write) ⟨.lost contents, total⟩ =
      (List.replicate numbers.length (.ok ()), ⟨.lost contents, total + totalSize numbers⟩) := by
  apply each_write_of_yields
  rw [← length_join_eq_totalSize] at bound ⊢
  rw [Op.Yields, writeAll_counting (.lost contents) bound]
  exact ⟨rfl, rfl⟩

/-- Somewhere in numbers that are too long for a buffer its end is reached. -/
theorem exists_overrun {room : Nat} (few : room < totalSize numbers) :
    ∃ before n rest, numbers = before ++ n :: rest ∧ totalSize before ≤ room ∧
      room < totalSize before + (4 + byteLength n) := by
  induction numbers generalizing room with
  | nil => cases few
  | cons n rest inductionHypothesis =>
      rw [totalSize_cons] at few
      by_cases here : room < 4 + byteLength n
      · exact ⟨[], n, rest, rfl, Nat.zero_le _, by simpa using here⟩
      · have behind : room - (4 + byteLength n) < totalSize rest := by omega
        obtain ⟨before, other, later, rfl, fits, ends⟩ := inductionHypothesis behind
        refine ⟨n :: before, other, later, rfl, ?_, ?_⟩
        · rw [totalSize_cons]
          omega
        · rw [totalSize_cons]
          omega

/-- Behind a number without room nothing is written any more, and all lengths but its own are
counted. -/
theorem each_write_overrun (bound : totalSize (before ++ n :: later) ≤ maxTotal)
    (fits : totalSize before ≤ buffer.length)
    (ends : buffer.length < totalSize before + (4 + byteLength n)) :
    Op.each ((before ++ n :: later).map write) (Writer.start (some buffer)) =
      (List.replicate before.length (.ok ()) ++
          .error (.format (shortage n (buffer.length - totalSize before))) ::
            List.replicate later.length (.ok ()),
        ⟨.lost (join before ++ begun n (buffer.drop (totalSize before))),
          totalSize before + totalSize later⟩) := by
  rw [totalSize_append, totalSize_cons] at bound
  have alone : (bytes n).length ≤ maxTotal := by
    rw [length_bytes_eq]
    omega
  have noRoom : (buffer.drop (totalSize before)).length < (bytes n).length := by
    rw [List.length_drop, length_bytes_eq]
    omega
  have first := each_write_filling (by omega) fits
  have refused := write_refused (encodeInto_refused alone noRoom) (join before) (totalSize before)
  have onward : Op.each (later.map write)
      ⟨.lost (join before ++ begun n (buffer.drop (totalSize before))), totalSize before⟩ = _ :=
    each_write_lost (by omega)
  rw [List.map_append, List.map_cons, Op.each_append, first, Op.each_cons, refused, onward,
    List.length_drop]

/-! ## Any numbers -/

/-- The first number behind whose end the buffer does not reach is the one in which it ends. -/
theorem isLeast_overrun {rest : List Nat} {room : Nat} (fits : totalSize before ≤ room)
    (ends : room < totalSize before + (4 + byteLength n)) :
    IsLeast {k | room < totalSize ((before ++ n :: rest).take (k + 1))} before.length := by
  constructor
  · have front : (before ++ n :: rest).take (before.length + 1) = before ++ [n] := by
      rw [List.take_length_add_append]
      rfl
    change room < totalSize _
    rw [front, totalSize_append, totalSize_cons, totalSize_nil]
    exact ends
  · intro k exceeds
    by_contra less
    have inside : (before ++ n :: rest).take (k + 1) = before.take (k + 1) := by
      apply List.take_append_of_le_length
      omega
    have whole := totalSize_append (before.take (k + 1)) (before.drop (k + 1))
    rw [List.take_append_drop] at whole
    change room < totalSize _ at exceeds
    rw [inside] at exceeds
    omega

/-- Numbers are written into a buffer, each of them whatever became of the others.  If they all fit,
every write succeeds, and the buffer is their bytes with what was behind them.  Otherwise it is the
first number behind whose end the buffer does not reach that is refused, for the part of it that
does not fit; however many numbers come behind it, each write succeeds and leaves the buffer as it
is, namely with the bytes of the numbers before, the length field if it fits, and the bytes that
were there.  The total leaves out the refused number only. -/
theorem each_write_start (buffer : Bytes) (numbers : List Nat)
    (bound : totalSize numbers ≤ 2 ^ 32 - 2) :
    (totalSize numbers ≤ buffer.length → ∃ writer,
      Op.each (numbers.map write) (Writer.start (some buffer)) =
        (List.replicate numbers.length (.ok ()), writer) ∧
      writer.total = totalSize numbers ∧
      writer.buffer = some (join numbers ++ buffer.drop (totalSize numbers))) ∧
    (buffer.length < totalSize numbers → ∃ before n rest, numbers = before ++ n :: rest ∧
      IsLeast {k | buffer.length < totalSize (numbers.take (k + 1))} before.length ∧
      ∀ later, later <+: rest → ∃ writer,
        Op.each ((before ++ n :: later).map write) (Writer.start (some buffer)) =
          (List.replicate before.length (.ok ()) ++
            .error (.format (shortage n (buffer.length - totalSize before))) ::
              List.replicate later.length (.ok ()), writer) ∧
        writer.total = totalSize before + totalSize later ∧
        writer.buffer = some (join before ++ begun n (buffer.drop (totalSize before)))) := by
  constructor
  · intro enough
    exact ⟨_, each_write_filling bound enough, rfl, rfl⟩
  · intro few
    obtain ⟨before, n, rest, rfl, fits, ends⟩ := exists_overrun few
    refine ⟨before, n, rest, rfl, isLeast_overrun fits ends, ?_⟩
    intro later part
    obtain ⟨more, rfl⟩ := part
    have partBound : totalSize (before ++ n :: later) ≤ maxTotal := by
      rw [← List.cons_append, ← List.append_assoc, totalSize_append] at bound
      exact Nat.le_trans (Nat.le_add_right _ _) bound
    exact ⟨_, each_write_overrun partBound fits ends, rfl, rfl⟩

/-- Nine bytes end inside the magnitude of the second of three numbers. -/
theorem nineBytes_overrun :
    totalSize [1, 66051, 5] ≤ 2 ^ 32 - 2 ∧ ∃ writer,
      Op.each ([1, 66051, 5].map write) (Writer.start (some (List.replicate 9 170))) =
        ([.ok (), .error (.format (.bufferEnds 3 0)), .ok ()], writer) ∧
      writer.total = 10 ∧ writer.buffer = some [1, 0, 0, 0, 1, 3, 0, 0, 0] := by
  have bound : totalSize [1, 66051, 5] ≤ 2 ^ 32 - 2 := by decide
  refine ⟨bound, ?_⟩
  obtain ⟨before, n, rest, split, first, written⟩ :=
    (each_write_start (List.replicate 9 170) _ bound).2 (by decide)
  have ends : IsLeast {k | 9 < totalSize (([1] ++ 66051 :: [5]).take (k + 1))} 1 :=
    isLeast_overrun (by decide) (by decide)
  have second : before.length = 1 := first.unique ends
  obtain ⟨one, rfl⟩ := List.length_eq_one_iff.1 second
  cases split
  exact written [5] (List.prefix_refl _)

end Keyring.Uint
