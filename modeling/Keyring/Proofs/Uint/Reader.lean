/-
Module: Keyring.Proofs.Uint.Reader
Purpose: What is read as numbers.  A number stands in a key as a frame: the length of a magnitude,
  then the magnitude, which may have high zero bytes.  Reading takes exactly the frames off the
  front of the data, whatever stands behind them, and fails where the data ends inside of one.
Main exports: Bytes.Fits, frame, frames, Front, front, read_frame, read_short, read_cutOff,
  reads, reads_frames, yields_reads, yields_finish, fails_finish, yields_reads_append, reads_add,
  raises_reads
-/
import Keyring.Proofs.LittleEndian
import Keyring.Proofs.Op
import Keyring.Uint.Reader

namespace Keyring

open LittleEndian

/-- The length of the bytes goes into a length field. -/
def Bytes.Fits (bytes : Bytes) : Prop :=
  bytes.length < UInt32.size

theorem Bytes.cut_append {first behind : Bytes} {offset : Nat} (ends : first.length = offset) :
    Bytes.cut (first ++ behind) offset = .ok (first, behind) := by
  subst ends
  rw [Bytes.cut_eq_ok (by simp)]
  simp

namespace Uint

/-- A magnitude behind its length. -/
def frame (magnitude : Bytes) : Bytes :=
  digits lengthFieldSize magnitude.length ++ magnitude

/-- The frames of some magnitudes, one after the other. -/
def frames (magnitudes : List Bytes) : Bytes :=
  magnitudes.flatMap frame

@[simp] theorem frames_nil : frames [] = [] := rfl

@[simp] theorem frames_cons (first : Bytes) (rest : List Bytes) :
    frames (first :: rest) = frame first ++ frames rest := rfl

theorem length_frame (magnitude : Bytes) :
    (frame magnitude).length = lengthFieldSize + magnitude.length := by
  rw [frame, List.length_append, length_digits]

/-- A length that fits is what its own field names. -/
theorem value_lengthField {bytes : Bytes} (fits : bytes.Fits) :
    value (digits lengthFieldSize bytes.length) = bytes.length := by
  rw [value_digits]
  exact Nat.mod_eq_of_lt fits

/-- What a length field names fits into one. -/
theorem value_lt_of_lengthField {field : Bytes} (whole : field.length = lengthFieldSize) :
    value field < UInt32.size := by
  have bound := value_lt field
  rw [whole] at bound
  exact bound

/-- A length field is determined by the length that it names. -/
theorem lengthField_eq {field : Bytes} (whole : field.length = lengthFieldSize) :
    digits lengthFieldSize (value field) = field := by
  rw [← whole]
  exact digits_value field

/-- What can stand at the front of data from which a number is to be read. -/
inductive Front : Bytes → Prop where
  /-- Less than a length field. -/
  | short {data : Bytes} (few : data.length < lengthFieldSize) : Front data
  /-- A length field that names more bytes than are left. -/
  | cutOff {field payload : Bytes} (whole : field.length = lengthFieldSize)
      (few : payload.length < value field) : Front (field ++ payload)
  /-- A whole frame. -/
  | framed {magnitude behind : Bytes} (fits : magnitude.Fits) : Front (frame magnitude ++ behind)

/-- A length field in front of as many bytes as it names makes a frame of them. -/
theorem append_eq_frame {field payload : Bytes} (whole : field.length = lengthFieldSize)
    (enough : value field ≤ payload.length) :
    Bytes.Fits (payload.take (value field)) ∧
      field ++ payload = frame (payload.take (value field)) ++ payload.drop (value field) := by
  have taken : (payload.take (value field)).length = value field := List.length_take_of_le enough
  constructor
  · rw [Bytes.Fits, taken]
    exact value_lt_of_lengthField whole
  · rw [frame, taken, lengthField_eq whole, List.append_assoc, List.take_append_drop]

theorem front (data : Bytes) : Front data := by
  by_cases few : data.length < lengthFieldSize
  · exact .short few
  have whole : (data.take lengthFieldSize).length = lengthFieldSize :=
    List.length_take_of_le (Nat.le_of_not_lt few)
  rw [← List.take_append_drop lengthFieldSize data]
  generalize data.take lengthFieldSize = field at whole
  generalize data.drop lengthFieldSize = payload
  by_cases enough : payload.length < value field
  · exact .cutOff whole enough
  obtain ⟨fits, framed⟩ := append_eq_frame whole (Nat.le_of_not_lt enough)
  rw [framed]
  exact .framed fits

/-! ## One number -/

theorem decode_short {σ : Type} {data : Bytes} (few : data.length < lengthFieldSize) (state : σ) :
    decode data state =
      ⟨.error (.format (.dataEnds lengthFieldSize data.length)), state,
        [.dataEnds .integers]⟩ := by
  simp [decode, few]

/-- Behind a whole length field only the bytes that it names are looked at. -/
theorem decode_lengthField {σ : Type} {field payload : Bytes}
    (whole : field.length = lengthFieldSize) (state : σ) :
    decode (field ++ payload) state =
      if payload.length < value field then
        ⟨.error (.format (.dataEnds (value field) payload.length)), state, [.dataEnds .integers]⟩
      else
        ⟨.ok (value (payload.take (value field)), lengthFieldSize + value field), state, []⟩ := by
  have enough : ¬ (field ++ payload).length < lengthFieldSize := by simp [whole]
  have small : ¬ maxBuffer < value field := by
    have bound := value_lt_of_lengthField whole
    have wide : UInt32.size ≤ maxBuffer := by decide
    omega
  simp only [decode, Bytes.shorterThan_eq, enough, Bytes.cut_append whole, Op.checked_ok,
    pure_bind, ofBytes_eq_value, small, decide_false, Bool.false_eq_true, if_false,
    decide_eq_true_eq]
  split
  · rfl
  · next room =>
      rw [Bytes.cut_eq_ok (by omega)]
      rfl

theorem decode_frame {σ : Type} {magnitude : Bytes} (fits : magnitude.Fits) (behind : Bytes)
    (state : σ) :
    decode (frame magnitude ++ behind) state =
      ⟨.ok (value magnitude, (frame magnitude).length), state, []⟩ := by
  rw [frame, List.append_assoc, decode_lengthField (length_digits _ _), value_lengthField fits]
  simp

theorem read_short {data : Bytes} (few : data.length < lengthFieldSize) :
    read data =
      ⟨.error (.format (.dataEnds lengthFieldSize data.length)), data, [.dataEnds .integers]⟩ := by
  unfold read
  rw [Op.bind_ok (Op.get_apply data), Op.bind_error (decode_short few data)]
  rfl

theorem read_cutOff {field payload : Bytes} (whole : field.length = lengthFieldSize)
    (few : payload.length < value field) :
    read (field ++ payload) =
      ⟨.error (.format (.dataEnds (value field) payload.length)), field ++ payload,
        [.dataEnds .integers]⟩ := by
  have decoded : decode (field ++ payload) (field ++ payload) = _ :=
    (decode_lengthField whole _).trans (if_pos few)
  unfold read
  rw [Op.bind_ok (Op.get_apply (field ++ payload)), Op.bind_error decoded]
  rfl

theorem read_frame {magnitude : Bytes} (fits : magnitude.Fits) (behind : Bytes) :
    read (frame magnitude ++ behind) = ⟨.ok (value magnitude), behind, []⟩ := by
  unfold read
  rw [Op.bind_ok (Op.get_apply _), Op.bind_ok (decode_frame fits behind _)]
  simp only [Bytes.cut_append rfl, Op.checked_ok, pure_bind]
  rfl

/-- Behind a whole length field the number of bytes that it names decides. -/
theorem read_lengthField {field payload : Bytes} (whole : field.length = lengthFieldSize) :
    read (field ++ payload) =
      if payload.length < value field then
        ⟨.error (.format (.dataEnds (value field) payload.length)), field ++ payload,
          [.dataEnds .integers]⟩
      else
        ⟨.ok (value (payload.take (value field))), payload.drop (value field), []⟩ := by
  split
  · next few => exact read_cutOff whole few
  · next enough =>
      obtain ⟨fits, framed⟩ := append_eq_frame whole (Nat.le_of_not_lt enough)
      rw [framed, read_frame fits]

/-- Reading succeeds on a frame and on nothing else. -/
theorem yields_read {data behind : Bytes} {n : Nat} :
    read.Yields data n behind ↔
      ∃ magnitude, magnitude.Fits ∧ data = frame magnitude ++ behind ∧ n = value magnitude := by
  constructor
  · intro done
    cases front data with
    | short few => simp [Op.Yields, read_short few] at done
    | cutOff whole few => simp [Op.Yields, read_cutOff whole few] at done
    | @framed magnitude rest fits =>
        simp only [Op.Yields, read_frame fits, Except.ok.injEq] at done
        rcases done with ⟨rfl, rfl⟩
        exact ⟨magnitude, fits, rfl, rfl⟩
  · rintro ⟨magnitude, fits, rfl, rfl⟩
    simp [Op.Yields, read_frame fits]

/-! ## Several numbers -/

/-- Read so many numbers. -/
def reads : Nat → Op Bytes (List Nat)
  | 0 => return []
  | count + 1 => do
      let n ← read
      let rest ← reads count
      return n :: rest

theorem reads_frames {magnitudes : List Bytes} (fits : ∀ magnitude ∈ magnitudes, magnitude.Fits)
    (behind : Bytes) :
    reads magnitudes.length (frames magnitudes ++ behind) =
      ⟨.ok (magnitudes.map value), behind, []⟩ := by
  induction magnitudes with
  | nil => rfl
  | cons first rest inductionHypothesis =>
      have firstRead := read_frame (fits first List.mem_cons_self) (frames rest ++ behind)
      have restRead := inductionHypothesis fun magnitude member =>
        fits magnitude (List.mem_cons_of_mem first member)
      rw [frames_cons, List.append_assoc, List.length_cons, reads, Op.bind_ok firstRead,
        Op.bind_ok restRead]
      rfl

/-- Reading several numbers succeeds on so many frames and on nothing else. -/
theorem yields_reads {count : Nat} {data behind : Bytes} {numbers : List Nat} :
    (reads count).Yields data numbers behind ↔
      ∃ magnitudes : List Bytes, magnitudes.length = count ∧
        (∀ magnitude ∈ magnitudes, magnitude.Fits) ∧ data = frames magnitudes ++ behind ∧
        numbers = magnitudes.map value := by
  constructor
  · intro done
    induction count generalizing data numbers with
    | zero =>
        simp only [reads, Op.yields_pure] at done
        rcases done with ⟨rfl, rfl⟩
        exact ⟨[], rfl, by simp, rfl, rfl⟩
    | succ count inductionHypothesis =>
        simp only [reads, Op.yields_bind, Op.yields_pure] at done
        obtain ⟨n, between, firstRead, rest, after, restRead, rfl, rfl⟩ := done
        obtain ⟨first, firstFits, rfl, rfl⟩ := yields_read.1 firstRead
        obtain ⟨magnitudes, rfl, fits, rfl, rfl⟩ := inductionHypothesis restRead
        exact ⟨first :: magnitudes, rfl, List.forall_mem_cons.2 ⟨firstFits, fits⟩,
          (List.append_assoc ..).symm, rfl⟩
  · rintro ⟨magnitudes, rfl, fits, rfl, rfl⟩
    simp [Op.Yields, reads_frames fits]

theorem finish_nil : finish [] = ⟨.ok (), [], []⟩ := rfl

theorem finish_cons (byte : UInt8) (rest : Bytes) :
    finish (byte :: rest) =
      ⟨.error (.format (.trailingData (rest.length + 1))), byte :: rest,
        [.trailingData (rest.length + 1)]⟩ := rfl

theorem yields_finish {data behind : Bytes} {answer : Unit} :
    finish.Yields data answer behind ↔ data = [] ∧ behind = [] := by
  cases data with
  | nil => simp [Op.Yields, finish_nil, eq_comm]
  | cons byte rest => simp [Op.Yields, finish_cons]

/-- Data that are left over are refused by how many they are. -/
theorem fails_finish {data : Bytes} {cause : KeyError} :
    finish.Fails data cause ↔ data ≠ [] ∧ cause = .format (.trailingData data.length) := by
  cases data with
  | nil => simp [Op.Fails, finish_nil]
  | cons byte rest => simp [Op.Fails, finish_cons, eq_comm]

/-! ## Data that go on, and data that end -/

/-- What was read stays the same where the data go on, and all that they go on with is left. -/
theorem yields_reads_append {count : Nat} {data behind : Bytes} {numbers : List Nat}
    (done : (reads count).Yields data numbers behind) (more : Bytes) :
    (reads count).Yields (data ++ more) numbers (behind ++ more) := by
  obtain ⟨magnitudes, enough, fits, rfl, values⟩ := yields_reads.1 done
  exact yields_reads.2 ⟨magnitudes, enough, fits, List.append_assoc _ _ _, values⟩

/-- Numbers are read in two goes as in one. -/
theorem reads_add (first later : Nat) :
    reads (first + later) = do
      let numbers ← reads first
      let rest ← reads later
      return numbers ++ rest := by
  induction first with
  | zero => simp [reads]
  | succ first inductionHypothesis =>
      simp [Nat.succ_add, reads, inductionHypothesis]

/-- The data end inside of a number. -/
def DataEnds (cause : KeyError) : Prop :=
  ∃ needed remaining, cause = .format (.dataEnds needed remaining)

theorem raises_read : Op.Raises DataEnds read := by
  intro data cause failed
  cases front data with
  | short few =>
      rw [Op.Fails, read_short few] at failed
      cases failed
      exact ⟨_, _, rfl⟩
  | cutOff whole few =>
      rw [Op.Fails, read_cutOff whole few] at failed
      cases failed
      exact ⟨_, _, rfl⟩
  | framed fits =>
      rw [Op.Fails, read_frame fits] at failed
      cases failed

/-- Numbers cannot be read only where the data end. -/
theorem raises_reads (count : Nat) : Op.Raises DataEnds (reads count) := by
  induction count with
  | zero => exact .pure []
  | succ count inductionHypothesis =>
      exact raises_read.bind fun n => inductionHypothesis.bind fun rest => .pure (n :: rest)

theorem fails_reads_nil (count : Nat) :
    (reads (count + 1)).Fails [] (.format (.dataEnds lengthFieldSize 0)) := by
  apply Op.fails_bind.2
  apply Or.inl
  rw [Op.Fails, read_short (by decide)]
  rfl

end Uint

end Keyring
