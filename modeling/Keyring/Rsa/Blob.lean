/-
Module: Keyring.Rsa.Blob
Purpose: RSA keys as blobs.  A blob is the sequence of a key's numbers in one fixed order, `n` and
  `e` first, so the blob of a public half is the front part of that of its private half.
Main exports: readPublic, readPrivate, importPublic, importPrivate, fields, exportPublic,
  exportPrivate
-/
import Keyring.Slot
import Keyring.Uint.Reader
import Keyring.Uint.Writer

namespace Keyring.Rsa

/-- Read a public key, which has to take all bytes. -/
def readPublic : Op Bytes RsaKey := do
  let n ← Uint.read
  let e ← Uint.read
  Uint.finish
  return { n, e, secret := none }

/-- Read a private key, which has to take all bytes. -/
def readPrivate : Op Bytes RsaKey := do
  let n ← Uint.read
  let e ← Uint.read
  let d ← Uint.read
  let p ← Uint.read
  let q ← Uint.read
  let dp ← Uint.read
  let dq ← Uint.read
  let qInv ← Uint.read
  Uint.finish
  return { n, e, secret := some { d, p, q, dp, dq, qInv } }

/-- Read one half of a pair. -/
def readHalf : Half → Op Bytes RsaKey
  | .privateHalf => readPrivate
  | .publicHalf => readPublic

/-- Read one half of a pair from a blob into a slot, which keeps its key if the blob is bad. -/
def importHalf (half : Half) (blob : Bytes) : Op (Slot RsaKey) Unit := do
  let key ← Op.within blob (readHalf half)
  Op.emit (.importedRsa half key.summary)
  Op.set (some key)

/-- Read a private key from a blob into a slot. -/
def importPrivate : Bytes → Op (Slot RsaKey) Unit := importHalf .privateHalf

/-- Read a public key from a blob into a slot. -/
def importPublic : Bytes → Op (Slot RsaKey) Unit := importHalf .publicHalf

/-- The numbers of one half of a key, in the order of a blob. -/
def fields (half : Half) (key : RsaKey) : Except KeyError (List Nat) :=
  match half, key.secret with
  | .publicHalf, _ => .ok [key.n, key.e]
  | .privateHalf, none => .error .notPrivate
  | .privateHalf, some secret =>
      .ok [key.n, key.e, secret.d, secret.p, secret.q, secret.dp, secret.dq, secret.qInv]

/-- The numbers of one half of the key in a slot. -/
def slotFields (half : Half) : Slot RsaKey → Except KeyError (List Nat)
  | none => .error .missingKey
  | some key => fields half key

/-- Write one half of a key to the front of a buffer, or only answer its length if there is
none. -/
def exportHalf (half : Half) (slot : Slot RsaKey) : Op (Option Bytes) Nat := do
  let key ← slot.require
  let numbers ← Op.ofExcept (fields half key)
  let length ← Uint.serialize numbers
  Op.emit (.exportedRsa half length)
  return length

/-- Write a private key. -/
def exportPrivate : Slot RsaKey → Op (Option Bytes) Nat := exportHalf .privateHalf

/-- Write the public half of a key. -/
def exportPublic : Slot RsaKey → Op (Option Bytes) Nat := exportHalf .publicHalf

end Keyring.Rsa
