/-
Module: Keyring.Store.Generate
Purpose: New keys for a mask.  The halves of a pair come together; the store changes only if every
  key could be made, while the provider and the source of random bytes move on in any case.
Main exports: Workshop, Store.generate
-/
import Keyring.Store.Basic
import Keyring.Hmac.Generate
import Keyring.Rsa.Provider

namespace Keyring.Store

/-- A store, with the states of the provider of RSA keys and of the source of random bytes. -/
structure Workshop (π ε : Type) where
  store : Store
  provider : π
  entropy : ε

/-- The two pairs: the private and the public half of each. -/
def rsaPairs : List (RsaKeyId × RsaKeyId) :=
  [(.signPrivate, .signPublic), (.encryptPrivate, .encryptPublic)]

/-- The HMAC keys that can be generated, in the order in which they are drawn. -/
def generatedHmacIds : List HmacKeyId :=
  [.file, .chunk, .name, .params, .authPut, .authGet, .authDelete]

variable {π ε : Type}

/-- Run an operation on the slots of a pair and on the provider. -/
def onPair {α : Type} (pair : RsaKeyId × RsaKeyId) (op : Op (Rsa.RsaPair × π) α) :
    Op (Workshop π ε) α :=
  Op.inside
    (fun shop => (⟨shop.store.rsa pair.1, shop.store.rsa pair.2⟩, shop.provider))
    (fun (slots, provider) shop =>
      { shop with
        store := (shop.store.setRsa pair.1 slots.privateSlot).setRsa pair.2 slots.publicSlot
        provider })
    op

/-- Run an operation on the slot of an HMAC key and on the source of random bytes. -/
def onHmacSource {α : Type} (id : HmacKeyId) (op : Op (Slot HmacKey × ε) α) :
    Op (Workshop π ε) α :=
  Op.inside
    (fun shop => (shop.store.hmac id, shop.entropy))
    (fun (slot, entropy) shop => { shop with store := shop.store.setHmac id slot, entropy })
    op

/-- Refuse one half of a pair without the other. -/
def refuseHalf {σ : Type} (requested : Half) : Op σ Unit :=
  Op.reject (.unpaired requested) (.store (.unpaired requested))

/-- Generate a pair if both halves are wanted, and refuse if one is. -/
def generatePair (provider : Rsa.Provider π) (wanted : KeyMask) (pair : RsaKeyId × RsaKeyId) :
    Op (Workshop π ε) Unit :=
  match wanted.has (.rsa pair.1), wanted.has (.rsa pair.2) with
  | true, true => onPair pair (Rsa.generateInto provider)
  | true, false => refuseHalf .privateHalf
  | false, true => refuseHalf .publicHalf
  | false, false => return ()

/-- Generate the wanted ones among the given pairs, and answer what is wanted besides. -/
def generatePairs (provider : Rsa.Provider π) :
    List (RsaKeyId × RsaKeyId) → KeyMask → Op (Workshop π ε) KeyMask
  | [], wanted => return wanted
  | pair :: rest, wanted => do
      generatePair provider wanted pair
      generatePairs provider rest (wanted \ KeyMask.ofIds [.rsa pair.1, .rsa pair.2])

/-- Generate the wanted ones among the given HMAC keys, and answer what is wanted besides. -/
def generateHmacs (source : EntropySource ε) :
    List HmacKeyId → KeyMask → Op (Workshop π ε) KeyMask
  | [], wanted => return wanted
  | id :: rest, wanted => do
      Op.when (wanted.has (.hmac id)) (onHmacSource id (Hmac.generateInto source))
      generateHmacs source rest (wanted \ KeyMask.single (.hmac id))

/-- Refuse keys that can only be imported. -/
def refuseImportOnly {σ : Type} (mask : KeyMask) : Op σ Unit :=
  match mask.ids.find? KeyId.isImportOnly with
  | some id => Op.fail (.store (.importOnly id))
  | none => return ()

/-- Generate the keys of a mask into the store of a workshop, whatever becomes of them. -/
def generateStaged (provider : Rsa.Provider π) (source : EntropySource ε) (mask : KeyMask) :
    Op (Workshop π ε) Unit := do
  refuseImportOnly mask
  let wanted ← generatePairs provider rsaPairs mask
  let wanted ← generateHmacs source generatedHmacIds wanted
  if wanted.isEmpty then
    Op.emit (.generatedKeys mask)
  else
    Op.reject (.unknownBits wanted) (.store (.unknownBits wanted))

/-- Generate the keys of a mask.  If one cannot be made the store stays as it was. -/
def generate (provider : Rsa.Provider π) (source : EntropySource ε) (mask : KeyMask) :
    Op (Workshop π ε) Unit :=
  Op.orElseUndo (fun before after => { after with store := before.store })
    (generateStaged provider source mask)

end Keyring.Store
