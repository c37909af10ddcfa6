/-
Module: Keyring.Uint.Codec
Purpose: One natural number as a field of a key: its length in a 4-byte little-endian field, then
  its magnitude, least significant byte first.  Zero has an empty magnitude.  Reading also takes
  magnitudes with high zero bytes; writing never makes them.
Main exports: lengthFieldSize, maxTotal, lengthOrMark, accumulate, bytes, decode, encodedLength,
  encodeInto, encode
-/
import Keyring.LittleEndian
import Keyring.Op

namespace Keyring.Uint

open LittleEndian

/-- Length in bytes of a length field. -/
def lengthFieldSize : Nat := 4

/-- The largest total length; the next number marks a failed export. -/
def maxTotal : Nat := UInt32.size - 2

/-- The length that a caller sees when an export has failed. -/
def failedLength : Nat := UInt32.size - 1

/-- The length that an export has answered, or the failure mark. -/
def lengthOrMark : Except KeyError Nat → Nat
  | .ok length => length
  | .error _ => failedLength

/-- The largest number of bytes that a buffer can hold. -/
def maxBuffer : Nat := UInt64.size / 2 - 1

/-- Add to a running length, as long as it stays below the failure mark. -/
def accumulate (total more : Nat) : Except KeyError Nat :=
  if total + more ≤ maxTotal then .ok (total + more) else .error .lengthOverflow

/-- How a number stands in a key. -/
def bytes (n : Nat) : Bytes :=
  digits lengthFieldSize (byteLength n) ++ magnitude n

/-- The number at the front of a byte string, and how many bytes it takes there. -/
def decode {σ : Type} (data : Bytes) : Op σ (Nat × Nat) :=
  if data.shorterThan lengthFieldSize then
    Op.reject (.dataEnds .integers) (.format (.dataEnds lengthFieldSize data.length))
  else do
    let (field, payload) ← Op.checked (data.cut lengthFieldSize)
    let length := ofBytes field
    if maxBuffer < length then
      Op.fail (.format (.lengthTooLarge length))
    else if Bytes.shorterThan payload length then
      Op.reject (.dataEnds .integers) (.format (.dataEnds length payload.length))
    else do
      let (magnitude, _) ← Op.checked (payload.cut length)
      return (ofBytes magnitude, lengthFieldSize + length)

/-- How many bytes a number takes. -/
def encodedLength (n : Nat) : Except KeyError Nat := do
  let field ← accumulate 0 lengthFieldSize
  accumulate field (magnitude n).length

/-- Write a number to the front of a buffer, and answer how many bytes it takes.  If only the
length field fits, that field is written before the failure. -/
def encodeInto (n : Nat) : Op Bytes Nat := do
  let length ← Op.ofExcept (encodedLength n)
  let out ← Op.get
  if Bytes.shorterThan out lengthFieldSize then
    Op.reject (.bufferEnds .integers) (.format (.bufferEnds lengthFieldSize out.length))
  else do
    let digitCount := (magnitude n).length
    let (field, room) ← Op.checked (out.cut lengthFieldSize)
    let count ← Op.checked (narrow32 digitCount)
    let field ← Op.checked (field.overwrite (digits lengthFieldSize count))
    Op.set (field ++ room)
    if Bytes.shorterThan room digitCount then
      Op.reject (.bufferEnds .integers) (.format (.bufferEnds digitCount room.length))
    else do
      let (target, behind) ← Op.checked (room.cut digitCount)
      let target ← Op.checked (target.overwrite (magnitude n))
      Op.set (field ++ (target ++ behind))
      return length

/-- The length of a number without a buffer, or the number written to the front of one. -/
def encode (n : Nat) : Op (Option Bytes) Nat := fun out =>
  match out with
  | none => Op.ofExcept (encodedLength n) none
  | some buffer =>
      let written := encodeInto n buffer
      ⟨written.result, some written.state, written.log⟩

end Keyring.Uint
