/-
Module: Keyring.Uint.Writer
Purpose: Numbers written one after the other.  Without a buffer a writer only adds up lengths.  A
  writer whose write has failed has lost its buffer: from then on it adds up lengths too, and the
  buffer keeps what it held at that moment.
Main exports: Sink, Writer, Writer.start, Writer.buffer, write, writeAll, serialize
-/
import Keyring.Uint.Codec

namespace Keyring.Uint

/-- Where a writer puts its bytes. -/
inductive Sink where
  /-- There is no buffer. -/
  | absent
  /-- A buffer, cut into what is written and what is still to be written. -/
  | filling (written ahead : Bytes)
  /-- A buffer that is no longer written to. -/
  | lost (contents : Bytes)
deriving Repr, DecidableEq

/-- A sink, and the length of what was written successfully. -/
structure Writer where
  sink : Sink
  total : Nat
deriving Repr, DecidableEq

namespace Writer

/-- A writer before its first number. -/
def start : Option Bytes → Writer
  | none => ⟨.absent, 0⟩
  | some buffer => ⟨.filling [] buffer, 0⟩

/-- The whole buffer, written part and rest. -/
def buffer (writer : Writer) : Option Bytes :=
  match writer.sink with
  | .absent => none
  | .filling written ahead => some (written ++ ahead)
  | .lost contents => some contents

end Writer

/-- Write a number into the buffer of a filling writer, and move on behind it. -/
def fill (n : Nat) (written ahead : Bytes) : Op Sink Nat := fun _ =>
  match encodeInto n ahead with
  | ⟨.error cause, after, log⟩ => ⟨.error cause, .lost (written ++ after), log⟩
  | ⟨.ok length, after, log⟩ =>
      match after.cut length with
      | .error fault => ⟨.error (.fault fault), .lost (written ++ after), log⟩
      | .ok (filled, ahead) => ⟨.ok length, .filling (written ++ filled) ahead, log⟩

/-- Put a number into a sink, and answer its length. -/
def put (n : Nat) : Op Sink Nat := do
  match ← Op.get with
  | .filling written ahead => fill n written ahead
  | _ => Op.ofExcept (encodedLength n)

/-- Write the next number. -/
def write (n : Nat) : Op Writer Unit := do
  let length ← Op.inside Writer.sink (fun sink writer => { writer with sink }) (put n)
  let writer ← Op.get
  let total ← Op.ofExcept (accumulate writer.total length)
  Op.set { writer with total }

/-- Write numbers up to the first failure. -/
def writeAll : List Nat → Op Writer Unit
  | [] => return ()
  | n :: rest => do
      write n
      writeAll rest

/-- Write numbers to the front of a buffer, or only add up their lengths if there is none, and
answer the total length. -/
def serialize (numbers : List Nat) : Op (Option Bytes) Nat := fun out =>
  match writeAll numbers (Writer.start out) with
  | ⟨.error cause, writer, log⟩ => ⟨.error cause, writer.buffer, log⟩
  | ⟨.ok (), writer, log⟩ => ⟨.ok writer.total, writer.buffer, log⟩

end Keyring.Uint
