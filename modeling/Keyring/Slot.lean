/-
Module: Keyring.Slot
Purpose: A place for at most one key.
Main exports: Slot, Slot.require, Slot.free, Slot.textWith
-/
import Keyring.Op

namespace Keyring

/-- A place that is empty or holds one key. -/
abbrev Slot (κ : Type) : Type := Option κ

namespace Slot

/-- The key in a slot, for an export. -/
def require {σ κ : Type} : Slot κ → Op σ κ
  | some key => return key
  | none => Op.reject .missingKey .missingKey

/-- Drop the key in a slot, if there is one. -/
def free {κ : Type} : Op (Slot κ) Unit := Op.set none

/-- The text of a slot, given the text of its key. -/
def textWith {κ : Type} (keyText : κ → String) : Slot κ → String
  | some key => s!"KeySlot({keyText key})"
  | none => "KeySlot(absent)"

end Slot

end Keyring
