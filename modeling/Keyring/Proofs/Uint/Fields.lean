/-
Module: Keyring.Proofs.Uint.Fields
Purpose: What any number of reads takes off data.  Data are whole frames and behind them a tail at
  which a reader is stuck, in one way only.  Reads take the frames one after the other; from the
  tail on every read fails for the same cause and leaves the tail, so nothing is ever lost between
  what was read and what is left.
Main exports: Stuck, read_stuck, Parses, exists_parses, Parses.unique, ReadCall, payload,
  eq_of_yields_read, refuses_read, Parses.each_read, Parses.finish_iff, each_read_data
-/
import Keyring.Proofs.Uint.Trimmed

namespace Keyring.Uint

open LittleEndian

variable {data tail after behind : Bytes} {magnitudes others : List Bytes} {cause : FormatError}

/-! ## Data from which no number can be read -/

/-- The data end inside the field at their front, and this is how a reader says so. -/
inductive Stuck : Bytes → FormatError → Prop where
  /-- They end inside the length field. -/
  | short {data : Bytes} (few : data.length < 4) : Stuck data (.dataEnds 4 data.length)
  /-- They end inside the magnitude. -/
  | cutOff {field payload : Bytes} (whole : field.length = 4) (few : payload.length < value field) :
      Stuck (field ++ payload) (.dataEnds (value field) payload.length)

theorem read_stuck (stuck : Stuck data cause) :
    read data = ⟨.error (.format cause), data, [.dataEnds .integers]⟩ := by
  cases stuck with
  | short few => exact read_short few
  | cutOff whole few => exact read_cutOff whole few

/-- A reader that is stuck fails in one way, and it takes no frame. -/
theorem Stuck.unique {other : FormatError} (one : Stuck data cause) (two : Stuck data other) :
    cause = other := by
  have same := (read_stuck one).symm.trans (read_stuck two)
  simpa using same

theorem Stuck.ne_frame {magnitude : Bytes} (stuck : Stuck data cause) (fits : magnitude.Fits) :
    data ≠ frame magnitude ++ behind := by
  intro same
  have failed := read_stuck stuck
  rw [same, read_frame fits] at failed
  cases failed

/-- A number is read, or the reader is stuck. -/
theorem framed_or_stuck (data : Bytes) :
    (∃ magnitude behind, Bytes.Fits magnitude ∧ data = frame magnitude ++ behind) ∨
      ∃ cause, Stuck data cause := by
  cases front data with
  | short few => exact .inr ⟨_, .short few⟩
  | cutOff whole few => exact .inr ⟨_, .cutOff whole few⟩
  | framed fits => exact .inl ⟨_, _, fits, rfl⟩

/-! ## Data as fields -/

/-- The data are the fields with the given magnitudes, one after the other, and behind them a tail
at which a reader is stuck. -/
structure Parses (data : Bytes) (magnitudes : List Bytes) (tail : Bytes) (cause : FormatError) :
    Prop where
  fits : ∀ magnitude ∈ magnitudes, magnitude.Fits
  whole : data = frames magnitudes ++ tail
  stuck : Stuck tail cause

theorem exists_parses (data : Bytes) :
    ∃ magnitudes tail cause, Parses data magnitudes tail cause := by
  induction size : data.length using Nat.strongRecOn generalizing data with
  | ind _ inductionHypothesis =>
      rcases framed_or_stuck data with ⟨magnitude, behind, fits, framed⟩ | ⟨cause, stuck⟩
      · have shorter : behind.length < data.length := by
          rw [framed, List.length_append, length_frame, lengthFieldSize]
          omega
        obtain ⟨magnitudes, tail, cause, parses⟩ :=
          inductionHypothesis behind.length (size ▸ shorter) behind rfl
        refine ⟨magnitude :: magnitudes, tail, cause, ?_, ?_, parses.stuck⟩
        · exact List.forall_mem_cons.2 ⟨fits, parses.fits⟩
        · rw [framed, parses.whole, frames_cons, List.append_assoc]
      · exact ⟨[], data, cause, List.forall_mem_nil _, rfl, stuck⟩

/-- There is one way only in which data are fields and a tail. -/
theorem Parses.unique {rest : Bytes} {other : FormatError}
    (one : Parses data magnitudes tail cause) (two : Parses data others rest other) :
    magnitudes = others ∧ tail = rest ∧ cause = other := by
  induction magnitudes generalizing data others with
  | nil =>
      cases others with
      | nil =>
          have same : tail = rest := one.whole.symm.trans two.whole
          subst same
          exact ⟨rfl, rfl, one.stuck.unique two.stuck⟩
      | cons first later =>
          have same := one.whole.symm.trans two.whole
          rw [frames_cons, List.append_assoc] at same
          exact absurd same (one.stuck.ne_frame (two.fits first List.mem_cons_self))
  | cons first later inductionHypothesis =>
      cases others with
      | nil =>
          have same := two.whole.symm.trans one.whole
          rw [frames_cons, List.append_assoc] at same
          exact absurd same (two.stuck.ne_frame (one.fits first List.mem_cons_self))
      | cons second remaining =>
          have same := one.whole.symm.trans two.whole
          have oneFits := List.forall_mem_cons.1 one.fits
          have twoFits := List.forall_mem_cons.1 two.fits
          rw [frames_cons, frames_cons, List.append_assoc, List.append_assoc] at same
          obtain ⟨rfl, behind⟩ := frame_append_inj oneFits.1 twoFits.1 same
          obtain ⟨rfl, rest⟩ := inductionHypothesis ⟨oneFits.2, rfl, one.stuck⟩
            ⟨twoFits.2, behind, two.stuck⟩
          exact ⟨rfl, rest⟩

/-! ## One read -/

/-- A call that reads the next number.  A secret number is handed out in a wrapper that wipes it
after use. -/
inductive ReadCall where
  | plain
  | secret

/-- Whatever becomes of the number later, it is read in the same way. -/
def ReadCall.run : ReadCall → Op Bytes Nat
  | .plain => read
  | .secret => read

theorem ReadCall.run_eq (call : ReadCall) : call.run = read := by
  cases call with
  | plain => rfl
  | secret => rfl

theorem map_run_eq (calls : List ReadCall) :
    calls.map ReadCall.run = List.replicate calls.length read := by
  rw [List.eq_replicate_iff]
  constructor
  · rw [List.length_map]
  · intro op member
    obtain ⟨call, -, rfl⟩ := List.mem_map.1 member
    exact call.run_eq

/-! The field at the front of data, as its four bytes name it. -/

theorem take_frame (magnitude behind : Bytes) :
    (frame magnitude ++ behind).take 4 = digits 4 magnitude.length := by
  rw [frame, List.append_assoc]
  exact List.take_left' (length_digits 4 magnitude.length)

theorem drop_frame (magnitude behind : Bytes) :
    (frame magnitude ++ behind).drop 4 = magnitude ++ behind := by
  rw [frame, List.append_assoc]
  exact List.drop_left' (length_digits 4 magnitude.length)

theorem value_take_frame {magnitude : Bytes} (fits : magnitude.Fits) (behind : Bytes) :
    value ((frame magnitude ++ behind).take 4) = magnitude.length := by
  rw [take_frame]
  exact value_lengthField fits

/-- The bytes behind the length field at the front of data, as many as it names. -/
def payload (data : Bytes) : Bytes :=
  (data.drop 4).take (value (data.take 4))

theorem payload_frame {magnitude : Bytes} (fits : magnitude.Fits) (behind : Bytes) :
    payload (frame magnitude ++ behind) = magnitude := by
  rw [payload, value_take_frame fits, drop_frame, List.take_left]

/-- A read that succeeds takes a length field and as many bytes as it names. -/
theorem eq_of_yields_read {n : Nat} (done : read.Yields data n after) :
    4 + value (data.take 4) ≤ data.length ∧ after = data.drop (4 + value (data.take 4)) ∧
      n = value (payload data) := by
  obtain ⟨magnitude, fits, rfl, rfl⟩ := yields_read.1 done
  have length : (frame magnitude).length = 4 + magnitude.length := length_frame magnitude
  rw [value_take_frame fits, payload_frame fits]
  refine ⟨?_, ?_, rfl⟩
  · rw [List.length_append, length]
    exact Nat.le_add_right _ _
  · exact (List.drop_left' length).symm

/-- A read that fails takes nothing. -/
theorem refuses_read {other : KeyError} (failed : read.Fails data other) :
    read.Refuses data other := by
  rcases framed_or_stuck data with ⟨magnitude, behind, fits, rfl⟩ | ⟨cause, stuck⟩
  · rw [Op.Fails, read_frame fits] at failed
    cases failed
  · refine ⟨failed, ?_⟩
    rw [read_stuck stuck]

/-! ## Any number of reads -/

theorem length_frames (magnitudes : List Bytes) :
    (frames magnitudes).length = (magnitudes.map fun magnitude => 4 + magnitude.length).sum := by
  rw [frames, List.length_flatMap]
  exact congrArg List.sum (List.map_congr_left fun magnitude _ => length_frame magnitude)

/-- Every field takes four bytes at least. -/
theorem four_mul_length_le (magnitudes : List Bytes) :
    4 * magnitudes.length ≤ (frames magnitudes).length := by
  induction magnitudes with
  | nil => exact Nat.le_refl 0
  | cons first rest inductionHypothesis =>
      rw [frames_cons, List.length_append, length_frame, lengthFieldSize, List.length_cons]
      omega

theorem each_read_stuck (stuck : Stuck data cause) (count : Nat) :
    Op.each (List.replicate count read) data =
      (List.replicate count (.error (.format cause)), data) := by
  induction count with
  | zero => rfl
  | succ count inductionHypothesis =>
      rw [List.replicate_succ, Op.each_cons, read_stuck stuck, inductionHypothesis]
      rfl

namespace Parses

/-- Reads take the fields in their order, and behind the last one all of them fail alike. -/
theorem each_read (parses : Parses data magnitudes tail cause) (count : Nat) :
    Op.each (List.replicate count read) data =
      ((magnitudes.take count).map (fun magnitude => .ok (value magnitude)) ++
        List.replicate (count - magnitudes.length) (.error (.format cause)),
        frames (magnitudes.drop count) ++ tail) := by
  induction magnitudes generalizing data count with
  | nil =>
      have none : data = tail := parses.whole
      rw [none, each_read_stuck parses.stuck]
      simp
  | cons first later inductionHypothesis =>
      have fits := List.forall_mem_cons.1 parses.fits
      have behind : Parses (frames later ++ tail) later tail cause := ⟨fits.2, rfl, parses.stuck⟩
      rw [parses.whole, frames_cons, List.append_assoc]
      cases count with
      | zero => simp
      | succ count =>
          rw [List.replicate_succ, Op.each_cons, read_frame fits.1, inductionHypothesis behind]
          simp

/-- After any number of reads the data are the fields that were taken and what is left. -/
theorem split (parses : Parses data magnitudes tail cause) (count : Nat) :
    data = frames (magnitudes.take count) ++ (frames (magnitudes.drop count) ++ tail) := by
  rw [← List.append_assoc, frames, frames, ← List.flatMap_append, List.take_append_drop]
  exact parses.whole

theorem length_eq (parses : Parses data magnitudes tail cause) (count : Nat) :
    ((magnitudes.take count).map fun magnitude => 4 + magnitude.length).sum +
      (frames (magnitudes.drop count) ++ tail).length = data.length := by
  rw [← length_frames, ← List.length_append, ← parses.split count]

theorem length_take_le (parses : Parses data magnitudes tail cause) (count : Nat) :
    (magnitudes.take count).length ≤ data.length / 4 := by
  have whole := congrArg List.length (parses.split count)
  have least := four_mul_length_le (magnitudes.take count)
  rw [List.length_append] at whole
  omega

/-- Nothing is left exactly if the fields that were taken are the data. -/
theorem finish_iff (parses : Parses data magnitudes tail cause) (count : Nat) :
    (finish (frames (magnitudes.drop count) ++ tail)).result = .ok () ↔
      data = frames (magnitudes.take count) := by
  have split := parses.split count
  constructor
  · intro done
    have nothing := (yields_finish.1 (Op.yields_of_result done)).1
    rwa [nothing, List.append_nil] at split
  · intro same
    have nothing := List.append_right_eq_self.1 (split.symm.trans same)
    rw [nothing]
    rfl

end Parses

/-- Data are fields and a tail, in one way only, and any number of calls on a reader takes the
fields in their order.  What was read and what is left always are the data; behind the last field
every call fails for the cause that the tail gives, and leaves the tail; and the reader has come to
the end of the data exactly if the fields that were read are all of them.  A call that succeeds
takes a length field and as many bytes as it names, so of the calls on a reader no more succeed than
there are times four bytes in the data; a call that fails takes nothing. -/
theorem each_read_data (data : Bytes) :
    (∀ (call : ReadCall) (left : Bytes),
      (∀ n after, call.run.Yields left n after →
        4 + value (left.take 4) ≤ left.length ∧ after = left.drop (4 + value (left.take 4)) ∧
          n = value (payload left)) ∧
      ∀ cause, call.run.Fails left cause → call.run.Refuses left cause) ∧
    ∃ magnitudes tail cause, Parses data magnitudes tail cause ∧
      (∀ others rest other, Parses data others rest other →
        magnitudes = others ∧ tail = rest ∧ cause = other) ∧
      ∀ calls : List ReadCall, ∃ endings left,
        Op.each (calls.map ReadCall.run) data = (endings, left) ∧
        endings = (magnitudes.take calls.length).map (fun magnitude => .ok (value magnitude)) ++
          List.replicate (calls.length - magnitudes.length) (.error (.format cause)) ∧
        left = frames (magnitudes.drop calls.length) ++ tail ∧
        ((magnitudes.take calls.length).map fun magnitude => 4 + magnitude.length).sum +
          left.length = data.length ∧
        endings.countP Except.isOk ≤ data.length / 4 ∧
        ((finish left).result = .ok () ↔ data = frames (magnitudes.take calls.length)) := by
  constructor
  · intro call left
    rw [call.run_eq]
    exact ⟨fun n after done => eq_of_yields_read done, fun cause failed => refuses_read failed⟩
  · obtain ⟨magnitudes, tail, cause, parses⟩ := exists_parses data
    refine ⟨magnitudes, tail, cause, parses, fun _ _ _ other => parses.unique other, ?_⟩
    intro calls
    refine ⟨_, _, ?_, rfl, rfl, parses.length_eq calls.length, ?_, parses.finish_iff calls.length⟩
    · rw [map_run_eq, parses.each_read]
    · have successes : ((magnitudes.take calls.length).map fun magnitude =>
          (.ok (value magnitude) : Except KeyError Nat)).countP Except.isOk =
            (magnitudes.take calls.length).length := by
        rw [List.countP_map]
        exact List.countP_eq_length.2 fun _ _ => rfl
      have failures : (List.replicate (calls.length - magnitudes.length)
          (.error (.format cause) : Except KeyError Nat)).countP Except.isOk = 0 := by
        rw [List.countP_replicate]
        rfl
      rw [List.countP_append, successes, failures]
      exact parses.length_take_le calls.length

/-- One field, and then a length field that names more than is left. -/
example : Op.each [read, read, read] [1, 0, 0, 0, 7, 5, 0, 0, 0, 1] =
    ([.ok 7, .error (.format (.dataEnds 5 1)), .error (.format (.dataEnds 5 1))],
      [5, 0, 0, 0, 1]) := by
  rfl

end Keyring.Uint
