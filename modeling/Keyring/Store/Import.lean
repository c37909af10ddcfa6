/-
Module: Keyring.Store.Import
Purpose: Reading a container into a store.  Every record is checked; those of keys in the mask are
  installed, a later record of a key in place of an earlier one.  The store changes only if the
  whole container is good.
Main exports: Store.importKey, Store.install, Store.importRecords, Store.importContainer
-/
import Keyring.Container
import Keyring.Store.Basic
import Keyring.Hmac.Blob
import Keyring.Rsa.Blob

namespace Keyring.Store

/-- Read a key from a blob into its slot. -/
def importKey (id : KeyId) (blob : Bytes) : Op Store Unit :=
  match id with
  | .rsa id => onRsa id (Rsa.importHalf id.half blob)
  | .hmac id => onHmac id (Hmac.importKey blob)

/-- Read a key, and report it. -/
def importReported (id : KeyId) (blob : Bytes) : Op Store Unit := do
  importKey id blob
  Op.emit (.importedKey id)

/-- Install the data of a record, if its key is in the mask.  The data of a file HMAC record is
also installed as the file write HMAC, if that is in the mask. -/
def install (mask : KeyMask) (id : KeyId) (data : Bytes) : Op Store Unit := do
  Op.when (mask.has id) (importReported id data)
  Op.when (id == .hmac .file && mask.has (.hmac .fileWrite))
    (importReported (.hmac .fileWrite) data)

/-- Read the records of a container one after the other, up to the first bad one. -/
def importRecords (mask : KeyMask) (container : Bytes) : Op Store Unit :=
  if container.isEmpty then
    return ()
  else
    match _cut : Record.next? container with
    | .error cause => Op.reject (.dataEnds .store) cause
    | .ok (record, behind) =>
        match KeyId.ofRecordType? record.code with
        | none =>
            Op.reject (.unknownType record.code) (.format (.unknownType record.code))
        | some id => do
            install mask id record.data
            importRecords mask behind
termination_by container.length
decreasing_by exact Record.length_next ‹_›

/-- Read the keys of a mask from a container. -/
def importContainer (container : Bytes) (mask : KeyMask) : Op Store Unit :=
  Op.allOrNothing (importRecords mask container)

end Keyring.Store
