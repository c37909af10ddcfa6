/-
Module: Keyring.Hmac.Generate
Purpose: New HMAC secrets.
Main exports: generate, generateInto
-/
import Keyring.Entropy
import Keyring.Slot

namespace Keyring.Hmac

/-- A new secret, drawn in one piece from a source. -/
def generate {ε : Type} (source : EntropySource ε) : Op ε HmacKey := do
  let ⟨bytes, fits⟩ ← source.fill HmacKey.length
  Op.emit .generatedHmac
  return ⟨bytes, fits⟩

/-- Put a new secret into a slot, which keeps its key if the source fails. -/
def generateInto {ε : Type} (source : EntropySource ε) : Op (Slot HmacKey × ε) Unit := do
  let key ← Op.onSecond (generate source)
  Op.onFirst (Op.set (some key))

end Keyring.Hmac
