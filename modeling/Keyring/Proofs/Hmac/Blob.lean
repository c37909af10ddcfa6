/-
Module: Keyring.Proofs.Hmac.Blob
Purpose: What becomes of a buffer when an HMAC secret is written to its front.
Main exports: HmacKey.length_bytes_le_maxTotal, exportKey_room, exportKey_enough,
  exportKey_short
-/
import Keyring.Hmac.Blob
import Keyring.Proofs.Uint.Reader

namespace Keyring

/-- A secret is never too long for a record. -/
theorem HmacKey.length_bytes_le_maxTotal (key : HmacKey) : key.bytes.length ≤ Uint.maxTotal := by
  have short : HmacKey.length ≤ Uint.maxTotal := by decide
  exact key.length_bytes.trans_le short

namespace Hmac

/-- The secret takes the place of as many bytes, and what is behind them stays. -/
theorem exportKey_room (key : HmacKey) {room : Bytes} (sized : room.length = key.bytes.length)
    (behind : Bytes) :
    exportKey (some key) (some (room ++ behind)) =
      ⟨.ok key.bytes.length, some (key.bytes ++ behind), []⟩ := by
  have enough : ¬ (room ++ behind).length < HmacKey.length := by
    simp [sized, key.length_bytes]
  rw [exportKey, Slot.require, pure_bind, Op.bind_ok (Op.get_apply _)]
  simp only [enough, if_false, Bytes.cut_append (sized.trans key.length_bytes), Op.checked_ok,
    pure_bind, Bytes.overwrite_eq_ok sized, key.length_bytes]
  rfl

theorem exportKey_enough (key : HmacKey) {out : Bytes} (enough : key.bytes.length ≤ out.length) :
    exportKey (some key) (some out) =
      ⟨.ok key.bytes.length, some (key.bytes ++ out.drop key.bytes.length), []⟩ := by
  have written := exportKey_room key (List.length_take_of_le enough) (out.drop key.bytes.length)
  rwa [List.take_append_drop] at written

/-- A buffer with less room is refused, and stays as it is. -/
theorem exportKey_short (key : HmacKey) {out : Bytes} (few : out.length < key.bytes.length) :
    exportKey (some key) (some out) =
      ⟨.error (.format (.bufferEnds HmacKey.length out.length)), some out,
        [.bufferEnds .keyExport]⟩ := by
  rw [key.length_bytes] at few
  rw [exportKey, Slot.require, pure_bind, Op.bind_ok (Op.get_apply _)]
  simp only [few, if_true]
  rfl

end Hmac

end Keyring
