/-
Module: Keyring.Bytes
Purpose: Byte strings, and the checked cuts, copies and narrowings made on them.  A cut past the
  end, a copy between stretches of different length and a number too wide for its field are not
  totalized away: they answer a `Fault`, so that "no input reaches one" can be stated and proved.
  The same goes for a difference below zero and a remainder by zero.
Main exports: Bytes, Fault, Bytes.shorterThan, Bytes.cut, Bytes.overwrite, narrow32, minus,
  remainder
-/

namespace Keyring

/-- A byte string, first byte first. -/
abbrev Bytes := List UInt8

/-- A slip of the program itself, which no input may bring about. -/
inductive Fault where
  /-- A cut at an offset behind the end of a byte string. -/
  | cut (offset length : Nat)
  /-- A copy between two stretches of different length. -/
  | copy (target source : Nat)
  /-- A number that does not fit into 32 bits. -/
  | narrow (value : Nat)
  /-- A number taken from a smaller one. -/
  | difference (number amount : Nat)
  /-- A remainder by zero. -/
  | remainder (number : Nat)
deriving Repr, DecidableEq, Inhabited

/-- The text of a fault, for the log of a program that runs into one. -/
def Fault.message : Fault → String
  | .cut offset length => s!"cut at {offset} in {length} bytes"
  | .copy target source => s!"copy of {source} bytes onto {target}"
  | .narrow value => s!"{value} does not fit into 32 bits"
  | .difference number amount => s!"{amount} taken from {number}"
  | .remainder number => s!"remainder of {number} by zero"

/-- Whether there are fewer than `count` bytes.  No more than these are looked at, so that a long
byte string is read in pieces without being measured at every piece. -/
def Bytes.shorterThan (bytes : Bytes) : Nat → Bool
  | 0 => false
  | count + 1 => (bytes.drop count).isEmpty

/-- The first `offset` bytes, and the rest. -/
def Bytes.cut (bytes : Bytes) (offset : Nat) : Except Fault (Bytes × Bytes) :=
  if bytes.shorterThan offset then
    .error (.cut offset bytes.length)
  else
    .ok (bytes.take offset, bytes.drop offset)

/-- Replace all of `target` by `source`, which has to be of the same length. -/
def Bytes.overwrite (target source : Bytes) : Except Fault Bytes :=
  if target.length = source.length then
    .ok source
  else
    .error (.copy target.length source.length)

/-- A number that is to go into a 32-bit field. -/
def narrow32 (value : Nat) : Except Fault Nat :=
  if value < UInt32.size then .ok value else .error (.narrow value)

/-- A number less another one, which must not be larger. -/
def minus (number amount : Nat) : Except Fault Nat :=
  if amount ≤ number then .ok (number - amount) else .error (.difference number amount)

/-- The remainder of a number by another one, which must not be zero. -/
def remainder (number modulus : Nat) : Except Fault Nat :=
  if modulus = 0 then .error (.remainder number) else .ok (number % modulus)

@[simp] theorem Bytes.shorterThan_eq (bytes : Bytes) (count : Nat) :
    bytes.shorterThan count = decide (bytes.length < count) := by
  cases count with
  | zero => simp [Bytes.shorterThan]
  | succ count =>
      rw [Bool.eq_iff_iff]
      simp only [Bytes.shorterThan, List.isEmpty_iff, List.drop_eq_nil_iff, decide_eq_true_eq]
      omega

theorem Bytes.cut_eq_ok {bytes : Bytes} {offset : Nat} (bound : offset ≤ bytes.length) :
    bytes.cut offset = .ok (bytes.take offset, bytes.drop offset) := by
  have enough : ¬ bytes.length < offset := by omega
  simp [Bytes.cut, enough]

theorem Bytes.overwrite_eq_ok {target source : Bytes} (same : target.length = source.length) :
    target.overwrite source = .ok source :=
  if_pos same

theorem narrow32_eq_ok {value : Nat} (bound : value < UInt32.size) : narrow32 value = .ok value :=
  if_pos bound

theorem minus_eq_ok {number amount : Nat} (bound : amount ≤ number) :
    minus number amount = .ok (number - amount) :=
  if_pos bound

theorem remainder_eq_ok {number modulus : Nat} (positive : modulus ≠ 0) :
    remainder number modulus = .ok (number % modulus) :=
  if_neg positive

end Keyring
