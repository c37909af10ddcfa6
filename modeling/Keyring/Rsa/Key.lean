/-
Module: Keyring.Rsa.Key
Purpose: RSA keys as plain integers.  A key holds a modulus and a public exponent and, if it is
  private, the six further integers of the two-prime form; nothing relates the integers to each
  other, since a key can be read from any well-formed blob.
Main exports: Half, RsaSecret, RsaKey, RsaKey.toPublic, RsaKey.hasStandardSize, RsaSummary
-/
import Keyring.LittleEndian

namespace Keyring

/-- The two halves of an RSA key pair. -/
inductive Half where
  | privateHalf
  | publicHalf
deriving Repr, DecidableEq, Inhabited

/-- The private integers of a two-prime key: the private exponent, the two primes, the exponent
modulo each prime less one, and the inverse of `q` modulo `p`. -/
structure RsaSecret where
  d : Nat
  p : Nat
  q : Nat
  dp : Nat
  dq : Nat
  qInv : Nat
deriving Repr, DecidableEq, Inhabited

/-- A modulus, a public exponent and, for a private key, its private integers. -/
structure RsaKey where
  n : Nat
  e : Nat
  secret : Option RsaSecret
deriving Repr, DecidableEq, Inhabited

/-- What may be said about an RSA key in a log: which half it is, and its size in bits. -/
structure RsaSummary where
  half : Half
  bits : Nat
deriving Repr, DecidableEq, Inhabited

/-- How each half is called in messages. -/
def Half.name : Half → String
  | .privateHalf => "private"
  | .publicHalf => "public"

/-- The other half of a pair. -/
def Half.partner : Half → Half
  | .privateHalf => .publicHalf
  | .publicHalf => .privateHalf

/-- The text of a summary; the private integers are named as withheld for both halves. -/
def RsaSummary.text (summary : RsaSummary) : String :=
  "RsaKey \x7b " ++ summary.half.name ++ s!", {summary.bits} bits, private: [REDACTED] " ++ "\x7d"

namespace RsaKey

/-- A key is private if it holds private integers. -/
def isPrivate (key : RsaKey) : Bool :=
  key.secret.isSome

/-- Which half of a pair the key is. -/
def half (key : RsaKey) : Half :=
  if key.isPrivate then .privateHalf else .publicHalf

/-- The number of bits of the modulus. -/
def modulusBits (key : RsaKey) : Nat :=
  LittleEndian.bitLength key.n

/-- The number of bytes that hold the modulus. -/
def modulusBytes (key : RsaKey) : Nat :=
  LittleEndian.byteLength key.n

/-- The public half of a key. -/
def toPublic (key : RsaKey) : RsaKey :=
  { key with secret := none }

/-- What may be said about the key in a log. -/
def summary (key : RsaKey) : RsaSummary :=
  { half := key.half, bits := key.modulusBits }

/-- Length in bytes of the modulus of a generated key. -/
def standardBytes : Nat := 256

/-- Length in bits of the modulus of a generated key. -/
def standardBits : Nat := 2048

/-- Whether the modulus has exactly the standard length, counted in bytes and in bits: a modulus
of 256 bytes with a small top byte has fewer than 2048 bits. -/
def hasStandardSize (key : RsaKey) : Bool :=
  key.modulusBytes == standardBytes && key.modulusBits == standardBits

@[simp] theorem toPublic_isPrivate (key : RsaKey) : key.toPublic.isPrivate = false := rfl

@[simp] theorem toPublic_modulusBits (key : RsaKey) :
    key.toPublic.modulusBits = key.modulusBits := rfl

@[simp] theorem toPublic_hasStandardSize (key : RsaKey) :
    key.toPublic.hasStandardSize = key.hasStandardSize := rfl

end RsaKey

end Keyring
