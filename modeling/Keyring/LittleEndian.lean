/-
Module: Keyring.LittleEndian
Purpose: Natural numbers as byte strings, least significant byte first.  `value` and `digits` are
  the plain definitions, one byte at a time; `valueByHalves` and `digitsByHalves` do the same by
  halving, so that a number of many thousand bytes is read and written quickly.
Main exports: value, digits, bitLength, byteLength, ofBytes, magnitude
-/
import Keyring.Bytes

namespace Keyring.LittleEndian

/-- The number that a byte string stands for. -/
def value : Bytes → Nat
  | [] => 0
  | byte :: rest => byte.toNat + 256 * value rest

/-- The `width` least significant base-256 digits of a number. -/
def digits : Nat → Nat → Bytes
  | 0, _ => []
  | width + 1, n => UInt8.ofNat n :: digits width (n / 256)

/-- How many binary digits a number has; zero has none. -/
def bitLength (n : Nat) : Nat :=
  if n = 0 then 0 else n.log2 + 1

/-- How many base-256 digits a number has; zero has none. -/
def byteLength (n : Nat) : Nat :=
  (bitLength n + 7) / 8

/-- How many bytes are read or written at a depth of halving: each depth has twice as many as the
one before it. -/
def halfWidth (depth : Nat) : Nat := 1 <<< depth

/-- How many bits those bytes have. -/
def halfBits (depth : Nat) : Nat := 8 * halfWidth depth

/-- The value of at most `halfWidth depth` bytes, from the values of its two halves. -/
def valueByHalves : Nat → Bytes → Nat
  | _, [] => 0
  | 0, byte :: _ => byte.toNat
  | depth + 1, byte :: rest =>
      valueByHalves depth ((byte :: rest).take (halfWidth depth)) +
        valueByHalves depth ((byte :: rest).drop (halfWidth depth)) <<< halfBits depth

/-- The `halfWidth depth` least significant digits of a number, in front of `behind`. -/
def digitsByHalves : Nat → Nat → Bytes → Bytes
  | 0, n, behind => UInt8.ofNat n :: behind
  | depth + 1, n, behind =>
      digitsByHalves depth (n % (1 <<< halfBits depth))
        (digitsByHalves depth (n >>> halfBits depth) behind)

/-- The number that a byte string stands for; high zero bytes do not change it. -/
def ofBytes (bytes : Bytes) : Nat :=
  valueByHalves (bitLength bytes.length) bytes

/-- The shortest byte string that stands for a number; that of zero is empty. -/
def magnitude (n : Nat) : Bytes :=
  (digitsByHalves (bitLength (byteLength n)) n []).take (byteLength n)

end Keyring.LittleEndian
