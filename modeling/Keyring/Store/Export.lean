/-
Module: Keyring.Store.Export
Purpose: Writing the keys of a mask as a container, in ascending order of their codes: first all
  lengths are added up, then a buffer of that length is filled.
Main exports: Store.exportableIds, Store.exportKey, Store.containerLength, Store.fillRecords,
  Store.exportContainer, Store.exportAuth
-/
import Keyring.Container
import Keyring.Store.Basic
import Keyring.Hmac.Blob
import Keyring.Rsa.Blob

namespace Keyring.Store

/-- The keys of a mask.  A key that can only be imported is refused, then any bit of no key. -/
def exportableIds {σ : Type} (mask : KeyMask) : Op σ (List KeyId) :=
  match mask.ids.find? KeyId.isImportOnly with
  | some id => Op.reject (.unknownType id.code) (.store (.importOnly id))
  | none =>
      if mask.unknown.isEmpty then
        return mask.ids
      else
        Op.reject (.unknownBits mask.unknown) (.store (.unknownBits mask.unknown))

/-- Write the key in a slot to the front of a buffer, or only answer its length. -/
def exportKey (store : Store) : KeyId → Op (Option Bytes) Nat
  | .rsa id => Rsa.exportHalf id.half (store.rsa id)
  | .hmac id => Hmac.exportKey (store.hmac id)

/-- Add the lengths of records for the given keys to a length. -/
def containerLength {σ : Type} (store : Store) : List KeyId → Nat → Op σ Nat
  | [], total => return total
  | id :: rest, total => do
      let length ← Op.within none (exportKey store id)
      let total ← Op.ofExcept (Uint.accumulate total Record.headerSize)
      let total ← Op.ofExcept (Uint.accumulate total length)
      containerLength store rest total

/-- Write a key to the front of a buffer, and answer its length and the buffer. -/
def exportOnto {σ : Type} (store : Store) (id : KeyId) (room : Bytes) : Op σ (Nat × Bytes) := do
  let (length, written) ← Op.withinKeeping (some room) (exportKey store id)
  return (length, written.getD [])

/-- Fill a buffer with records for the given keys.  The answer is the filled buffer and how far
into it the records reach. -/
def fillRecords {σ : Type} (store : Store) : List KeyId → Nat → Bytes → Op σ (Nat × Bytes)
  | [], position, ahead => return (position, ahead)
  | id :: rest, position, ahead =>
      if ahead.shorterThan Record.headerSize then
        Op.fail (.format (.bufferEnds Record.headerSize ahead.length))
      else do
        let (header, room) ← Op.checked (ahead.cut Record.headerSize)
        let (length, written) ← exportOnto store id room
        let count ← Op.checked (narrow32 length)
        let header ← Op.checked
          (header.overwrite (LittleEndian.digits Uint.lengthFieldSize count ++ [id.code]))
        let (data, ahead) ← Op.checked (written.cut length)
        let (position, behind) ←
          fillRecords store rest (position + (Record.headerSize + length)) ahead
        return (position, header ++ (data ++ behind))

/-- Write the keys of a mask as a container. -/
def exportContainer {σ : Type} (store : Store) (mask : KeyMask) : Op σ Bytes := do
  let ids ← exportableIds mask
  let total ← containerLength store ids 0
  let (position, container) ← fillRecords store ids 0 (List.replicate total 0)
  if position ≠ total then
    Op.fail (.store (.lengthMismatch total position))
  else do
    Op.emit (.exportedKeys ids.length total)
    return container

/-- The keys that authorize writing, reading and deleting. -/
def authIds : List HmacKeyId := [.authPut, .authGet, .authDelete]

/-- The length of the authorization keys together. -/
def authLength : Nat := 3 * HmacKey.length

/-- Write HMAC keys one after the other into a buffer, each into a stretch of the length of one
secret. -/
def fillAuth {σ : Type} (store : Store) : List HmacKeyId → Bytes → Op σ Bytes
  | [], room => return room
  | id :: rest, room => do
      let (chunk, behind) ← Op.checked (room.cut HmacKey.length)
      let (length, written) ← exportOnto store (.hmac id) chunk
      if length ≠ HmacKey.length then
        Op.reject (.wrongAuthLength length) (.store (.lengthMismatch HmacKey.length length))
      else do
        let filled ← fillAuth store rest behind
        return written ++ filled

/-- The authorization keys for writing, reading and deleting, in this order and without
headers. -/
def exportAuth {σ : Type} (store : Store) : Op σ Bytes :=
  fillAuth store authIds (List.replicate authLength 0)

end Keyring.Store
