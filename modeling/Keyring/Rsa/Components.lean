/-
Module: Keyring.Rsa.Components
Purpose: The integers of an RSA key whose relations have been checked, and the way from a stored
  key to checked integers and back.  The exponents modulo the primes less one and the inverse of
  `q` modulo `p` are not taken over from a stored key: on the way back they are computed anew.
Main exports: inverse?, checkPublic, PublicComponents, PublicComponents.check, PrivateComponents,
  PrivateComponents.check, Library, publicComponents, Library.privateComponents,
  Library.ofComponents, Library.recomputed, privateComponents, ofComponents
-/
import Keyring.Error

namespace Keyring.Rsa

/-! ## Inverses -/

/-- Two integers `(x, y)` with `x * a + y * b = Nat.gcd a b`. -/
def bezout : Nat → Nat → Int × Int
  | _, 0 => (1, 0)
  | a, b + 1 =>
      let rest := bezout (b + 1) (a % (b + 1))
      (rest.2, rest.1 - (a / (b + 1) : Nat) * rest.2)
termination_by _ b => b
decreasing_by exact Nat.mod_lt a (Nat.succ_pos b)

/-- The inverse of a number modulo another, if they have no common factor. -/
def inverse? (a modulus : Nat) : Option Nat :=
  if Nat.gcd a modulus = 1 then
    some ((bezout (a % modulus) modulus).1 % modulus).toNat
  else
    none

/-! ## Public components -/

/-- The largest modulus, in bits, of a key that is used on its own as a public key. -/
def maxPublicBits : Nat := 4096

/-- The largest public exponent. -/
def maxExponent : Nat := 2 * UInt32.size - 1

/-- What a modulus and a public exponent have to satisfy; the first offence counts.  An exponent
that does not fit into a word of 64 bits is refused before anything else is looked at. -/
def checkPublic (n e : Nat) : Except ComponentError Unit :=
  if UInt64.size ≤ e then .error .exponentTooLarge
  else if n ≤ e ∨ n % 2 = 0 then .error .invalidModulus
  else if e % 2 = 0 then .error .invalidExponent
  else if e < 2 then .error .exponentTooSmall
  else if maxExponent < e then .error .exponentTooLarge
  else .ok ()

/-- A modulus and a public exponent that have been checked. -/
structure PublicComponents where
  n : Nat
  e : Nat
deriving Repr, DecidableEq

/-- Check a public key that is used on its own. -/
def PublicComponents.check (n e : Nat) : Except ComponentError PublicComponents := do
  if maxPublicBits < LittleEndian.bitLength n then
    .error .modulusTooLarge
  else do
    checkPublic n e
    return { n, e }

/-- The length of the modulus in bytes. -/
def PublicComponents.size (components : PublicComponents) : Nat :=
  LittleEndian.byteLength components.n

/-! ## Private components -/

/-- The integers of a private key that have been checked.  That the factors are prime is not
checked. -/
structure PrivateComponents where
  n : Nat
  e : Nat
  d : Nat
  factors : List Nat
deriving Repr, DecidableEq

/-- Check a private key: its public part, that no factor is less than two, that the factors make
up the modulus, and that the exponents undo each other modulo each factor less one. -/
def PrivateComponents.check (n e d : Nat) (factors : List Nat) :
    Except ComponentError PrivateComponents := do
  if factors.length < 2 then
    .error .tooFewFactors
  else do
    checkPublic n e
    if factors.any (fun factor => factor ≤ 1) then .error .invalidPrime
    else if factors.foldl (· * ·) 1 ≠ n then .error .invalidModulus
    else if factors.any (fun factor => (e * d) % (factor - 1) ≠ 1) then .error .invalidExponent
    else return { n, e, d, factors }

/-- The inverse of the second factor modulo the first one, if there is one. -/
def PrivateComponents.coefficient? (components : PrivateComponents) : Option Nat :=
  match components.factors with
  | p :: q :: _ => inverse? q p
  | _ => none

/-! ## Conversions -/

/-- What the conversions of private keys leave to a library: the check of the integers, and the
inverse of the second factor modulo the first one. -/
structure Library where
  check : (n e d : Nat) → (factors : List Nat) → Except ComponentError PrivateComponents
  coefficient? : PrivateComponents → Option Nat

/-- The library with the check and the inverse of this module. -/
def Library.standard : Library where
  check := PrivateComponents.check
  coefficient? := PrivateComponents.coefficient?

/-- The checked integers of a stored key, as a public key. -/
def publicComponents (key : RsaKey) : Except KeyError PublicComponents :=
  (PublicComponents.check key.n key.e).mapError (fun cause => .provider (.components cause))

/-- The checked integers of a stored key, as a private key. -/
def Library.privateComponents (library : Library) (key : RsaKey) :
    Except KeyError PrivateComponents :=
  match key.secret with
  | none => .error .notPrivate
  | some secret =>
      (library.check key.n key.e secret.d [secret.p, secret.q]).mapError
        (fun cause => .provider (.components cause))

/-- The private exponent modulo each of two factors less one. -/
def reducedExponents (d p q : Nat) : Except Fault (Nat × Nat) := do
  let pLess ← minus p 1
  let qLess ← minus q 1
  let dp ← remainder d pLess
  let dq ← remainder d qLess
  return (dp, dq)

/-- The stored form of checked integers, which have to be of the two-prime form. -/
def Library.ofComponents (library : Library) (components : PrivateComponents) :
    Except KeyError RsaKey :=
  match components.factors with
  | [p, q] =>
      match library.coefficient? components with
      | none => .error (.provider .noCoefficient)
      | some qInv =>
          match reducedExponents components.d p q with
          | .error fault => .error (.fault fault)
          | .ok (dp, dq) =>
              .ok {
                n := components.n
                e := components.e
                secret := some { d := components.d, p, q, dp, dq, qInv } }
  | factors => .error (.provider (.factorCount factors.length))

/-- A key with its integers checked and its derived integers computed anew. -/
def Library.recomputed (library : Library) (key : RsaKey) : Except KeyError RsaKey := do
  library.ofComponents (← library.privateComponents key)

/-- The checked integers of a stored key, by the standard library. -/
def privateComponents : RsaKey → Except KeyError PrivateComponents :=
  Library.standard.privateComponents

/-- The stored form of checked integers, by the standard library. -/
def ofComponents : PrivateComponents → Except KeyError RsaKey :=
  Library.standard.ofComponents

end Keyring.Rsa
