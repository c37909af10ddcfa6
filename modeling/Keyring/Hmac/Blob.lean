/-
Module: Keyring.Hmac.Blob
Purpose: HMAC secrets as blobs, which are their bytes.
Main exports: importKey, exportKey
-/
import Keyring.Slot

namespace Keyring.Hmac

/-- Read a secret into a slot.  The slot keeps its key if the length is wrong. -/
def importKey (blob : Bytes) : Op (Slot HmacKey) Unit :=
  match HmacKey.ofBytes? blob with
  | none => Op.reject (.hmacLength blob.length) (.format (.hmacLength blob.length))
  | some key => do
      Op.emit .importedHmac
      Op.set (some key)

/-- Write a secret to the front of a buffer, or only answer its length if there is none. -/
def exportKey (slot : Slot HmacKey) : Op (Option Bytes) Nat := do
  let key ← slot.require
  match ← Op.get with
  | none => return HmacKey.length
  | some out =>
      if out.length < HmacKey.length then
        Op.reject (.bufferEnds .keyExport) (.format (.bufferEnds HmacKey.length out.length))
      else do
        let (target, behind) ← Op.checked (out.cut HmacKey.length)
        let target ← Op.checked (target.overwrite key.bytes)
        Op.set (some (target ++ behind))
        return HmacKey.length

end Keyring.Hmac
