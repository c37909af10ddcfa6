/-
Module: Keyring.Error
Purpose: The causes for which an operation on keys fails, and their wording.  Every wording stands
  here, and `causes` lists the wordings behind the first one, outermost first.
Main exports: FormatError, StoreError, ComponentError, ProviderError, KeyError, KeyError.message,
  KeyError.causes
-/
import Keyring.Hmac.Key
import Keyring.KeyMask

namespace Keyring

/-- What is wrong with bytes that were to be read, or with a buffer that was to be written. -/
inductive FormatError where
  /-- Fewer bytes are left than a field needs. -/
  | dataEnds (needed remaining : Nat)
  /-- A length field names more bytes than any buffer can hold. -/
  | lengthTooLarge (length : Nat)
  /-- Bytes are left over behind the last field. -/
  | trailingData (remaining : Nat)
  /-- The buffer has less room than the key needs. -/
  | bufferEnds (needed available : Nat)
  /-- An HMAC secret has the wrong length. -/
  | hmacLength (actual : Nat)
  /-- A container ends inside a record header. -/
  | headerEnds (remaining : Nat)
  /-- A record carries a type byte that belongs to no record. -/
  | unknownType (code : UInt8)
deriving Repr, DecidableEq

/-- What is wrong with a request to a store. -/
inductive StoreError where
  /-- The store does not hold the key. -/
  | notHeld (id : KeyId)
  /-- An RSA key was looked up as an HMAC key, or the other way round. -/
  | wrongKind (id : KeyId)
  /-- One half of a pair was asked for without the other. -/
  | unpaired (requested : Half)
  /-- The key can only be imported. -/
  | importOnly (id : KeyId)
  /-- The mask has bits that belong to no key. -/
  | unknownBits (mask : KeyMask)
  /-- A container did not get the length that was computed for it. -/
  | lengthMismatch (expected actual : Nat)
deriving DecidableEq

/-- What is wrong with the integers of an RSA key, or with the search for them. -/
inductive ComponentError where
  | invalidPrime
  | invalidModulus
  | invalidExponent
  | tooFewFactors
  | tooFewPrimes
  | modulusTooLarge
  | exponentTooSmall
  | exponentTooLarge
  | invalidCoefficient
  | internal
deriving Repr, DecidableEq

/-- How a provider of RSA keys fails. -/
inductive ProviderError where
  /-- The integers of a key do not fit together. -/
  | components (cause : ComponentError)
  /-- No key could be generated. -/
  | generation (cause : ComponentError)
  /-- A generated key has no private integers. -/
  | publicKeyGenerated
  /-- The modulus of a key is not the product of two primes. -/
  | factorCount (count : Nat)
  /-- One prime of a key has no inverse modulo the other. -/
  | noCoefficient
  /-- A failure that the provider words itself. -/
  | other (reason : String)
deriving Repr, DecidableEq

/-- Why an operation on keys fails. -/
inductive KeyError where
  | format (cause : FormatError)
  /-- A generated key has a modulus of the wrong size. -/
  | size (bytes bits : Nat)
  /-- A length does not fit below the failure sentinel. -/
  | lengthOverflow
  /-- The source of random bytes failed. -/
  | entropy (reason : String)
  | provider (cause : ProviderError)
  /-- There is no key to export. -/
  | missingKey
  /-- Private integers were asked of a public key. -/
  | notPrivate
  | store (cause : StoreError)
  /-- The program itself slipped. -/
  | fault (cause : Fault)
deriving DecidableEq

def FormatError.message : FormatError → String
  | .dataEnds needed remaining =>
      s!"Unexpected EOF of key data: needed {needed} bytes, {remaining} remaining"
  | .lengthTooLarge length => s!"Length field too large: {length}"
  | .trailingData remaining => s!"Unexpected trailing key data: {remaining} bytes"
  | .bufferEnds needed available =>
      s!"Unexpected end of key buffer: needed {needed} bytes, {available} available"
  | .hmacLength actual =>
      s!"Incorrect HMAC key size: expected {HmacKey.length}, got {actual}"
  | .headerEnds remaining => s!"Key container record header truncated: {remaining} bytes"
  | .unknownType code => s!"Unrecognized key type: {code}"

/-- The kind of key that was wanted where a key of the given id is not of that kind. -/
def KeyId.otherKind : KeyId → String
  | .rsa _ => "HMAC"
  | .hmac _ => "RSA"

def StoreError.message : StoreError → String
  | .notHeld id => s!"The {id.name} key is not available"
  | .wrongKind id => s!"Key {id.code} is not a {id.otherKind} key"
  | .unpaired requested =>
      s!"Cannot generate {requested.name} key without {requested.partner.name} key"
  | .importOnly id => s!"Key {id.code} cannot be exported or generated"
  | .unknownBits mask => s!"Unrecognized key types: {mask.hexText}"
  | .lengthMismatch expected actual =>
      s!"Incorrect key size: expected {expected}, got {actual}"

def ComponentError.message : ComponentError → String
  | .invalidPrime => "invalid prime value"
  | .invalidModulus => "invalid modulus"
  | .invalidExponent => "invalid exponent"
  | .tooFewFactors => "nprimes must be >= 2"
  | .tooFewPrimes => "too few primes of given length to generate an RSA key"
  | .modulusTooLarge => "modulus too large"
  | .exponentTooSmall => "public exponent too small"
  | .exponentTooLarge => "public exponent too large"
  | .invalidCoefficient => "invalid coefficient"
  | .internal => "internal error"

def ProviderError.message : ProviderError → String
  | .components cause => cause.message
  | .generation cause => s!"RSA key generation failed: {cause.message}"
  | .publicKeyGenerated => "key generation returned a public key"
  | .factorCount count => s!"expected 2 prime factors, got {count}"
  | .noCoefficient => "missing CRT coefficient"
  | .other reason => reason

namespace KeyError

def message : KeyError → String
  | .format cause => s!"Key data format error: {cause.message}"
  | .size bytes bits => s!"RSA key has invalid size: {bytes} bytes, {bits} bits"
  | .lengthOverflow => "Key length overflow"
  | .entropy reason => s!"Could not obtain sufficient entropy: {reason}"
  | .provider cause => s!"RSA library error: {cause.message}"
  | .missingKey => "Cannot export a key which we don't have"
  | .notPrivate => "RSA key has no private components"
  | .store cause => s!"Key cache error: {cause.message}"
  | .fault cause => s!"Internal error: {cause.message}"

/-- The wordings of the causes behind an error, without its own. -/
def causes : KeyError → List String
  | .format cause => [cause.message]
  | .store cause => [cause.message]
  | _ => []

end KeyError

end Keyring
