/-
Module: Keyring.Rsa.Provider
Purpose: Providers of new RSA keys, and what is asked of a key before it is used: that it is
  private and has the standard size.
Main exports: KeyParams, Provider, generate, generatePair, RsaPair, generateInto
-/
import Keyring.Slot

namespace Keyring.Rsa

/-- What a new key is to look like. -/
structure KeyParams where
  bits : Nat
  exponent : Nat
deriving Repr, DecidableEq

/-- The public exponent of generated keys. -/
def standardExponent : Nat := 65537

/-- What every generated key looks like. -/
def KeyParams.standard : KeyParams :=
  { bits := RsaKey.standardBits, exponent := standardExponent }

/-- A provider makes private keys and derives their public halves. -/
structure Provider (π : Type) where
  generate : KeyParams → Op π RsaKey
  derivePublic : RsaKey → Op π RsaKey := fun key => pure key.toPublic

variable {π : Type}

/-- A new private key of standard size. -/
def generate (provider : Provider π) : Op π RsaKey := do
  let key ← provider.generate .standard
  if !key.isPrivate then
    Op.fail (.provider .publicKeyGenerated)
  else if !key.hasStandardSize then
    Op.reject (.wrongSize key.modulusBytes key.modulusBits)
      (.size key.modulusBytes key.modulusBits)
  else do
    Op.emit (.generatedSize key.modulusBits)
    return key

/-- A new private key and the public half that its provider derives. -/
def generatePair (provider : Provider π) : Op π (RsaKey × RsaKey) := do
  let privateKey ← generate provider
  let publicKey ← provider.derivePublic privateKey
  Op.emit (.generatedPair publicKey.summary)
  return (privateKey, publicKey)

/-- The slots of the two halves of a pair. -/
structure RsaPair where
  privateSlot : Slot RsaKey
  publicSlot : Slot RsaKey
deriving Repr, DecidableEq

/-- Put a new pair into two slots, both of which keep their keys if anything fails. -/
def generateInto (provider : Provider π) : Op (RsaPair × π) Unit := do
  let (privateKey, publicKey) ← Op.onSecond (generatePair provider)
  Op.onFirst (Op.set { privateSlot := some privateKey, publicSlot := some publicKey })

end Keyring.Rsa
