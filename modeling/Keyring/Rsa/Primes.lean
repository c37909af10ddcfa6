/-
Module: Keyring.Rsa.Primes
Purpose: Probable primes of a given length, found by a walk through all numbers of that length from
  a random start, and RSA keys made of two of them.
Main exports: powMod, isProbablePrime, findPrime, generateComponents, primeProvider
-/
import Keyring.Entropy
import Keyring.Rsa.Components
import Keyring.Rsa.Provider

namespace Keyring.Rsa

/-! ## Probable primes -/

/-- The factors less than 256 that are tried before anything else. -/
def smallPrimes : List Nat :=
  [2, 3, 5, 7, 11, 13, 17, 19, 23, 29, 31, 37, 41, 43, 47, 53, 59, 61, 67, 71, 73, 79, 83, 89,
    97, 101, 103, 107, 109, 113, 127, 131, 137, 139, 149, 151, 157, 163, 167, 173, 179, 181, 191,
    193, 197, 199, 211, 223, 227, 229, 233, 239, 241, 251]

/-- How many of the small primes serve as bases of the strong test. -/
def strongRounds : Nat := 40

/-- `found * base ^ exponent` modulo `modulus`. -/
def powModFrom (modulus found base exponent : Nat) : Nat :=
  if zero : exponent = 0 then
    found % modulus
  else
    powModFrom modulus (if exponent % 2 = 1 then found * base % modulus else found)
      (base * base % modulus) (exponent / 2)
termination_by exponent
decreasing_by exact Nat.div_lt_self (Nat.pos_of_ne_zero zero) (by decide)

/-- `base ^ exponent` modulo `modulus`. -/
def powMod (base exponent modulus : Nat) : Nat :=
  powModFrom modulus 1 (base % modulus) exponent

/-- Whether minus one is among the first `count` numbers of the chain in which every number is the
square of the one before it. -/
def reachesMinusOne (n : Nat) : Nat → Nat → Bool
  | 0, _ => false
  | count + 1, power => power == n - 1 || reachesMinusOne n count (power * power % n)

/-- How often two divides a number. -/
def twos (n : Nat) : Nat :=
  if even : n ≠ 0 ∧ n % 2 = 0 then twos (n / 2) + 1 else 0
termination_by n
decreasing_by exact Nat.div_lt_self (Nat.pos_of_ne_zero even.1) (by decide)

/-- Whether a number passes the strong test for one base. -/
def passesStrongTest (n base : Nat) : Bool :=
  let halvings := twos (n - 1)
  let power := powMod base ((n - 1) >>> halvings) n
  power == 1 || reachesMinusOne n halvings power

/-- Whether a number has no small factor other than itself and passes the strong test. -/
def isProbablePrime (n : Nat) : Bool :=
  if n < 2 then false
  else if smallPrimes.contains n then true
  else if smallPrimes.any (fun prime => n % prime == 0) then false
  else (smallPrimes.take strongRounds).all (passesStrongTest n)

/-! ## The walk -/

/-- The first accepted number among `left` odd ones, which follow each other from number `index`
on and begin again after number `count`. -/
def walk (accept : Nat → Bool) (least count : Nat) : Nat → Nat → Option Nat
  | 0, _ => none
  | left + 1, index =>
      let candidate := least + 2 * index
      if accept candidate then some candidate
      else walk accept least count left (if index + 1 = count then 0 else index + 1)

/-- A probable prime of `bits` bits, of which the two highest are set, that is accepted; the start
of the walk is drawn from the supply of random bytes. -/
def findPrime (accept : Nat → Bool) (bits : Nat) : Op Bytes (Option Nat) := do
  let ⟨drawn, _⟩ ← EntropySource.pool.fill (bits / 8 + 8)
  let count := 1 <<< (bits - 3)
  let least := (3 <<< (bits - 2)) + 1
  let start := LittleEndian.ofBytes drawn % count
  return walk (fun n => accept n && isProbablePrime n) least count count start

/-! ## Keys -/

/-- The fewest bits of a modulus for which there are enough primes. -/
def minBits : Nat := 12

/-- Fail with a cause why no key could be generated. -/
def refuse {σ α : Type} (cause : ComponentError) : Op σ α :=
  Op.fail (.provider (.generation cause))

/-- A prime less one that has no common factor with the public exponent. -/
def suits (exponent prime : Nat) : Bool :=
  Nat.gcd exponent (prime - 1) == 1

/-- Checked integers of a new private key: a modulus of two different primes of half its length
each, and the inverse of the public exponent. -/
def generateComponents (params : KeyParams) : Op Bytes PrivateComponents := do
  if params.bits < minBits then
    refuse .tooFewPrimes
  else if params.exponent % 2 = 0 then
    refuse .invalidExponent
  else do
    let e := params.exponent
    match ← findPrime (suits e) (params.bits / 2) with
    | none => refuse .tooFewPrimes
    | some p =>
        match ← findPrime (fun q => q != p && suits e q) (params.bits - params.bits / 2) with
        | none => refuse .tooFewPrimes
        | some q =>
            match inverse? e ((p - 1) * (q - 1)) with
            | none => refuse .invalidExponent
            | some d =>
                match PrivateComponents.check (p * q) e d [p, q] with
                | .error cause => refuse cause
                | .ok components => return components

/-- The provider that makes keys from a supply of random bytes. -/
def primeProvider : Provider Bytes where
  generate params := do
    Op.emit (.generatingRsa params.bits params.exponent)
    let components ← generateComponents params
    Op.ofExcept (ofComponents components)

end Keyring.Rsa
