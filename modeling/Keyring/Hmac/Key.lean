/-
Module: Keyring.Hmac.Key
Purpose: HMAC secrets, which are byte strings of one fixed length.
Main exports: HmacKey, HmacKey.length, HmacKey.ofBytes?
-/
import Keyring.Bytes

namespace Keyring

/-- The length in bytes of every HMAC secret. -/
def HmacKey.length : Nat := 32

/-- An HMAC secret. -/
structure HmacKey where
  bytes : Bytes
  length_bytes : bytes.length = HmacKey.length
deriving DecidableEq

/-- The secret made of the given bytes, if there are exactly as many as a secret has. -/
def HmacKey.ofBytes? (bytes : Bytes) : Option HmacKey :=
  if fits : bytes.length = HmacKey.length then some ⟨bytes, fits⟩ else none

/-- The text of a secret in messages. -/
def HmacKey.text (_ : HmacKey) : String := "HmacKey([REDACTED])"

theorem HmacKey.ofBytes?_eq_some {bytes : Bytes} {key : HmacKey} :
    HmacKey.ofBytes? bytes = some key ↔ key.bytes = bytes := by
  rcases key with ⟨held, fits⟩
  unfold HmacKey.ofBytes?
  split
  · simp [eq_comm]
  · next wrong =>
      simp only [reduceCtorEq, false_iff]
      rintro rfl
      exact wrong fits

@[simp] theorem HmacKey.ofBytes?_bytes (key : HmacKey) :
    HmacKey.ofBytes? key.bytes = some key :=
  HmacKey.ofBytes?_eq_some.2 rfl

end Keyring
