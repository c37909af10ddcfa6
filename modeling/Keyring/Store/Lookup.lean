/-
Module: Keyring.Store.Lookup
Purpose: Keys looked up by their id.
Main exports: Store.lookupRsa, Store.lookupHmac
-/
import Keyring.Store.Basic

namespace Keyring.Store

/-- The key in a slot, or the failure that names its id. -/
def held {σ κ : Type} (id : KeyId) : Slot κ → Op σ κ
  | some key => return key
  | none => Op.fail (.store (.notHeld id))

/-- The RSA key of an id; the id of an HMAC key is the caller's mistake. -/
def lookupRsa {σ : Type} (store : Store) (id : KeyId) : Op σ RsaKey :=
  match id with
  | .rsa rsaId => held id (store.rsa rsaId)
  | .hmac _ => Op.reject (.wrongLookup id) (.store (.wrongKind id))

/-- The HMAC key of an id; the id of an RSA key is the caller's mistake. -/
def lookupHmac {σ : Type} (store : Store) (id : KeyId) : Op σ HmacKey :=
  match id with
  | .hmac hmacId => held id (store.hmac hmacId)
  | .rsa _ => Op.reject (.wrongLookup id) (.store (.wrongKind id))

end Keyring.Store
