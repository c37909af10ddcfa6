/-
Module: Keyring.Store.Basic
Purpose: A store has one slot for every key of the system.  A slot is reached by the id of its key,
  and a write to one slot leaves all others alone.
Main exports: Store, Store.rsa, Store.hmac, Store.setRsa, Store.setHmac, Store.has, Store.missing?,
  Store.text
-/
import Keyring.Slot

namespace Keyring

/-- One slot for every key.  Nothing in the slot of an RSA key says which half it holds. -/
structure Store where
  signPrivate : Slot RsaKey
  signPublic : Slot RsaKey
  encryptPrivate : Slot RsaKey
  encryptPublic : Slot RsaKey
  rootPublic : Slot RsaKey
  hmacFile : Slot HmacKey
  hmacFileWrite : Slot HmacKey
  hmacChunk : Slot HmacKey
  hmacName : Slot HmacKey
  hmacParams : Slot HmacKey
  authPut : Slot HmacKey
  authGet : Slot HmacKey
  authDelete : Slot HmacKey
deriving DecidableEq

namespace Store

/-- The store without keys. -/
def empty : Store where
  signPrivate := none
  signPublic := none
  encryptPrivate := none
  encryptPublic := none
  rootPublic := none
  hmacFile := none
  hmacFileWrite := none
  hmacChunk := none
  hmacName := none
  hmacParams := none
  authPut := none
  authGet := none
  authDelete := none

/-- The slot of an RSA key. -/
def rsa (store : Store) : RsaKeyId → Slot RsaKey
  | .signPrivate => store.signPrivate
  | .signPublic => store.signPublic
  | .encryptPrivate => store.encryptPrivate
  | .encryptPublic => store.encryptPublic
  | .rootPublic => store.rootPublic

/-- The slot of an HMAC key. -/
def hmac (store : Store) : HmacKeyId → Slot HmacKey
  | .file => store.hmacFile
  | .chunk => store.hmacChunk
  | .name => store.hmacName
  | .params => store.hmacParams
  | .authPut => store.authPut
  | .authGet => store.authGet
  | .authDelete => store.authDelete
  | .fileWrite => store.hmacFileWrite

/-- The store with another slot for an RSA key. -/
def setRsa (store : Store) (id : RsaKeyId) (slot : Slot RsaKey) : Store :=
  match id with
  | .signPrivate => { store with signPrivate := slot }
  | .signPublic => { store with signPublic := slot }
  | .encryptPrivate => { store with encryptPrivate := slot }
  | .encryptPublic => { store with encryptPublic := slot }
  | .rootPublic => { store with rootPublic := slot }

/-- The store with another slot for an HMAC key. -/
def setHmac (store : Store) (id : HmacKeyId) (slot : Slot HmacKey) : Store :=
  match id with
  | .file => { store with hmacFile := slot }
  | .chunk => { store with hmacChunk := slot }
  | .name => { store with hmacName := slot }
  | .params => { store with hmacParams := slot }
  | .authPut => { store with authPut := slot }
  | .authGet => { store with authGet := slot }
  | .authDelete => { store with authDelete := slot }
  | .fileWrite => { store with hmacFileWrite := slot }

/-- Run an operation on the slot of an RSA key. -/
def onRsa {α : Type} (id : RsaKeyId) (op : Op (Slot RsaKey) α) : Op Store α :=
  Op.inside (fun store => store.rsa id) (fun slot store => store.setRsa id slot) op

/-- Run an operation on the slot of an HMAC key. -/
def onHmac {α : Type} (id : HmacKeyId) (op : Op (Slot HmacKey) α) : Op Store α :=
  Op.inside (fun store => store.hmac id) (fun slot store => store.setHmac id slot) op

/-- Whether the store holds a key. -/
def has (store : Store) : KeyId → Bool
  | .rsa id => (store.rsa id).isSome
  | .hmac id => (store.hmac id).isSome

/-- The first key of a mask, in ascending order, that the store does not hold. -/
def missing? (store : Store) (mask : KeyMask) : Option KeyId :=
  mask.ids.find? (fun id => !store.has id)

/-- The text of a store in messages, which shows no secret. -/
def text (store : Store) : String :=
  let rsa (label : String) (slot : Slot RsaKey) :=
    label ++ ": " ++ slot.textWith (fun key => key.summary.text)
  let hmac (label : String) (slot : Slot HmacKey) :=
    label ++ ": " ++ slot.textWith HmacKey.text
  let parts :=
    [rsa "sign_priv" store.signPrivate, rsa "sign_pub" store.signPublic,
      rsa "encr_priv" store.encryptPrivate, rsa "encr_pub" store.encryptPublic,
      rsa "root_pub" store.rootPublic, hmac "hmac_file" store.hmacFile,
      hmac "hmac_file_write" store.hmacFileWrite, hmac "hmac_chunk" store.hmacChunk,
      hmac "hmac_name" store.hmacName, hmac "hmac_cparams" store.hmacParams,
      hmac "auth_put" store.authPut, hmac "auth_get" store.authGet,
      hmac "auth_delete" store.authDelete]
  "KeyCache \x7b " ++ ", ".intercalate parts ++ " \x7d"

/-! ## One write, one slot -/

@[simp] theorem rsa_setRsa (store : Store) (id other : RsaKeyId) (slot : Slot RsaKey) :
    (store.setRsa id slot).rsa other = if other = id then slot else store.rsa other := by
  cases id <;> cases other <;> rfl

@[simp] theorem hmac_setHmac (store : Store) (id other : HmacKeyId) (slot : Slot HmacKey) :
    (store.setHmac id slot).hmac other = if other = id then slot else store.hmac other := by
  cases id <;> cases other <;> rfl

@[simp] theorem hmac_setRsa (store : Store) (id : RsaKeyId) (other : HmacKeyId)
    (slot : Slot RsaKey) : (store.setRsa id slot).hmac other = store.hmac other := by
  cases id <;> cases other <;> rfl

@[simp] theorem rsa_setHmac (store : Store) (id : HmacKeyId) (other : RsaKeyId)
    (slot : Slot HmacKey) : (store.setHmac id slot).rsa other = store.rsa other := by
  cases id <;> cases other <;> rfl

/-- Two stores with the same slots are the same. -/
theorem ext_slots {first second : Store} (sameRsa : ∀ id, first.rsa id = second.rsa id)
    (sameHmac : ∀ id, first.hmac id = second.hmac id) : first = second := by
  rcases first
  rcases second
  simp only [Store.mk.injEq]
  exact ⟨sameRsa .signPrivate, sameRsa .signPublic, sameRsa .encryptPrivate,
    sameRsa .encryptPublic, sameRsa .rootPublic, sameHmac .file, sameHmac .fileWrite,
    sameHmac .chunk, sameHmac .name, sameHmac .params, sameHmac .authPut, sameHmac .authGet,
    sameHmac .authDelete⟩

@[simp] theorem setRsa_rsa (store : Store) (id : RsaKeyId) :
    store.setRsa id (store.rsa id) = store := by
  cases id <;> rfl

@[simp] theorem setHmac_hmac (store : Store) (id : HmacKeyId) :
    store.setHmac id (store.hmac id) = store := by
  cases id <;> rfl

end Store

end Keyring
