/-
Module: Keyring.Container
Purpose: Containers of keys.  A container is a sequence of records; a record is the length of its
  data in a 4-byte little-endian field, a type byte and the data.
Main exports: Record, Record.headerSize, Record.bytes, Record.join, Record.next?,
  Record.length_next
-/
import Keyring.LittleEndian
import Keyring.Error
import Keyring.Uint.Codec

namespace Keyring

/-- The type byte and the data of one key in a container. -/
structure Record where
  code : UInt8
  data : Bytes
deriving Repr, DecidableEq

namespace Record

/-- Length in bytes of a record header. -/
def headerSize : Nat := Uint.lengthFieldSize + 1

/-- A record as it stands in a container. -/
def bytes (record : Record) : Bytes :=
  LittleEndian.digits Uint.lengthFieldSize record.data.length ++ record.code :: record.data

/-- The container of some records. -/
def join (records : List Record) : Bytes :=
  records.flatMap bytes

/-- Cut the first record off a container, and answer what is behind it. -/
def next? (container : Bytes) : Except KeyError (Record × Bytes) :=
  if container.shorterThan headerSize then
    .error (.format (.headerEnds container.length))
  else
    match container.cut Uint.lengthFieldSize with
    | .error fault => .error (.fault fault)
    | .ok (_, []) => .error (.fault (.cut headerSize container.length))
    | .ok (field, code :: rest) =>
        let length := LittleEndian.ofBytes field
        if Bytes.shorterThan rest length then
          .error (.format (.dataEnds length rest.length))
        else
          match Bytes.cut rest length with
          | .error fault => .error (.fault fault)
          | .ok (data, behind) => .ok ({ code, data }, behind)

/-- What is behind a record is shorter than the container. -/
theorem length_next {container behind : Bytes} {record : Record}
    (found : next? container = .ok (record, behind)) : behind.length < container.length := by
  unfold next? at found
  simp only [Bytes.shorterThan_eq, decide_eq_true_eq] at found
  split at found
  · simp at found
  · next enough =>
      rw [Bytes.cut_eq_ok (by unfold headerSize at enough; omega)] at found
      split at found
      · simp at found
      · simp at found
      · next field code rest cut =>
          simp only [Except.ok.injEq, Prod.mk.injEq] at cut
          have shorter : rest.length < container.length := by
            have whole := congrArg List.length cut.2
            simp only [List.length_drop, List.length_cons] at whole
            omega
          split at found
          · simp at found
          · next room =>
              rw [Bytes.cut_eq_ok (by omega)] at found
              simp only [Except.ok.injEq, Prod.mk.injEq] at found
              rw [← found.2, List.length_drop]
              omega

end Record

end Keyring
