/-
Module: Keyring.Proofs.Uint.Stream
Purpose: Numbers written one after the other and read back.  A writer makes the same bytes of
  numbers whatever its buffer held, a reader takes these bytes and nothing else off the front of a
  stream, and so no other numbers, and no other equally many numbers in front of more bytes, are
  written in the same way.
Main exports: length_join, Encodes, encodes_iff, Encodes.yields_reads, Encodes.unique,
  Encodes.eq_of_prefix, exists_encodes
-/
import Keyring.Proofs.Uint.Trimmed
import Keyring.Proofs.Uint.Writer

namespace Keyring.Uint

open LittleEndian

variable {numbers others : List Nat} {written other : Bytes}

/-- Every number takes a length field and its digits. -/
theorem length_join (numbers : List Nat) :
    (join numbers).length = (numbers.map fun n => lengthFieldSize + byteLength n).sum := by
  induction numbers with
  | nil => rfl
  | cons n rest inductionHypothesis =>
      rw [join_cons, List.length_append, length_bytes, length_magnitude, inductionHypothesis,
        List.map_cons, List.sum_cons]

/-- The bytes are what writers make of the numbers: a writer without a buffer adds up their length,
and one with a buffer of this length takes every number and fills the buffer with the bytes. -/
structure Encodes (numbers : List Nat) (written : Bytes) : Prop where
  sized : ∃ writer, (writeAll numbers).Yields (Writer.start none) () writer ∧
    writer.total = written.length
  filled : ∀ room : Bytes, room.length = written.length →
    ∃ writer, (writeAll numbers).Yields (Writer.start (some room)) () writer ∧
      writer.total = written.length ∧ writer.buffer = some written

/-- Numbers that stay below the failure mark together are written as the frames of their
magnitudes. -/
theorem encodes_join (bound : (join numbers).length ≤ maxTotal) :
    Encodes numbers (join numbers) where
  sized := by
    have start : 0 + (join numbers).length ≤ maxTotal := by omega
    have ending : (writeAll numbers).Yields (Writer.start none) ()
        ⟨.absent, 0 + (join numbers).length⟩ := by
      rw [Op.Yields, Writer.start, writeAll_counting .absent start]
      exact ⟨rfl, rfl⟩
    exact ⟨_, ending, Nat.zero_add _⟩
  filled room fits := by
    have start : 0 + (join numbers).length ≤ maxTotal := by omega
    have ending : (writeAll numbers).Yields (Writer.start (some room)) ()
        ⟨.filling (join numbers) [], 0 + (join numbers).length⟩ := by
      have run := writeAll_filling start fits [] []
      rw [List.append_nil, List.nil_append] at run
      rw [Op.Yields, Writer.start, run]
      exact ⟨rfl, rfl⟩
    exact ⟨_, ending, Nat.zero_add _, congrArg some (List.append_nil _)⟩

/-- Only numbers that stay below the failure mark are written. -/
theorem Encodes.bound (encodes : Encodes numbers written) :
    (join numbers).length ≤ maxTotal := by
  obtain ⟨writer, ⟨answered, -⟩, -⟩ := encodes.sized
  by_contra exceeds
  have start : maxTotal < 0 + (join numbers).length := by omega
  obtain ⟨reached, failed⟩ := writeAll_overflow (Nat.zero_le _) start
  rw [Writer.start, failed] at answered
  cases answered

/-- Numbers are written in one way only. -/
theorem Encodes.unique (encodes : Encodes numbers written) (also : Encodes numbers other) :
    written = other := by
  obtain ⟨sizer, ⟨-, rfl⟩, length⟩ := encodes.sized
  obtain ⟨otherSizer, ⟨-, rfl⟩, otherLength⟩ := also.sized
  have same : written.length = other.length := length.symm.trans otherLength
  obtain ⟨writer, ⟨-, rfl⟩, -, buffer⟩ := encodes.filled written rfl
  obtain ⟨otherWriter, ⟨-, rfl⟩, -, otherBuffer⟩ := also.filled written same
  exact Option.some.inj (buffer.symm.trans otherBuffer)

/-- A reader takes the numbers off the front of their bytes, and leaves what is behind them. -/
theorem Encodes.yields_reads (encodes : Encodes numbers written) (behind : Bytes) :
    (reads numbers.length).Yields (written ++ behind) numbers behind := by
  obtain rfl := encodes.unique (encodes_join encodes.bound)
  rw [Op.Yields, reads_join encodes.bound]
  exact ⟨rfl, rfl⟩

/-- Of equally many numbers the bytes of one list do not continue those of another. -/
theorem Encodes.eq_of_prefix (encodes : Encodes numbers written) (also : Encodes others other)
    (count : numbers.length = others.length) (continued : written <+: other) :
    numbers = others ∧ written = other := by
  obtain ⟨more, rfl⟩ := continued
  obtain ⟨answered, left⟩ := encodes.yields_reads more
  obtain ⟨otherAnswered, otherLeft⟩ := also.yields_reads []
  rw [List.append_nil, ← count] at otherAnswered otherLeft
  have same := answered.symm.trans otherAnswered
  cases same
  obtain rfl : more = [] := left.symm.trans otherLeft
  exact ⟨rfl, (List.append_nil _).symm⟩

/-- The bytes of numbers stand for no other numbers. -/
theorem Encodes.numbers_unique (encodes : Encodes numbers written)
    (also : Encodes others written) : numbers = others := by
  obtain rfl := encodes.unique (encodes_join encodes.bound)
  have same := also.unique (encodes_join also.bound)
  rw [join_eq_frames, join_eq_frames] at same
  have magnitudes := frames_injective (fits_magnitudes encodes.bound)
    (fits_magnitudes also.bound) same
  rw [← map_value_magnitude numbers, magnitudes, map_value_magnitude]

/-- Numbers that take at most `2 ^ 32 - 2` bytes together are written as bytes of this length, and
read back from them in as many steps, whatever is behind them; nothing is left exactly if nothing is
behind them.  Other numbers are written as other bytes, and equally many others as bytes that do
not continue these. -/
theorem exists_encodes (numbers : List Nat)
    (bound : (numbers.map fun n => 4 + byteLength n).sum ≤ 2 ^ 32 - 2) :
    ∃ written, Encodes numbers written ∧
      written.length = (numbers.map fun n => 4 + byteLength n).sum ∧
      (∀ behind, (reads numbers.length).Yields (written ++ behind) numbers behind ∧
        ((finish behind).result = .ok () ↔ behind = [])) ∧
      ∀ others other, Encodes others other →
        (written = other → numbers = others) ∧
          (numbers.length = others.length → written <+: other → written = other) := by
  have length := length_join numbers
  have encodes := encodes_join (length.trans_le bound)
  refine ⟨_, encodes, length, ?_, ?_⟩
  · intro behind
    refine ⟨encodes.yields_reads behind, ?_⟩
    constructor
    · intro finished
      exact (yields_finish.1 (Op.yields_of_result finished)).1
    · rintro rfl
      rfl
  · intro others other also
    constructor
    · rintro rfl
      exact encodes.numbers_unique also
    · intro count continued
      exact (encodes.eq_of_prefix also count continued).2

/-- Three numbers with magnitudes of no, three and two bytes. -/
theorem exists_encodes_three :
    ∃ written, Encodes [0, 65537, 256] written ∧ written.length = 17 ∧
      (reads 3).Yields (written ++ [7]) [0, 65537, 256] [7] := by
  have bound : (([0, 65537, 256] : List Nat).map fun n => 4 + byteLength n).sum ≤ 2 ^ 32 - 2 := by
    decide
  obtain ⟨written, encodes, length, readBack, -⟩ := exists_encodes _ bound
  exact ⟨written, encodes, length, (readBack [7]).1⟩

end Keyring.Uint
