/-
Module: Keyring.Entropy
Purpose: Sources of random bytes.
Main exports: EntropySource, EntropySource.pool
-/
import Keyring.Op

namespace Keyring

/-- A source that delivers as many random bytes as are asked for, or fails. -/
structure EntropySource (ε : Type) where
  fill : (count : Nat) → Op ε { bytes : Bytes // bytes.length = count }

/-- The source that hands out a supply of bytes from the front, and fails when it holds too few. -/
def EntropySource.pool : EntropySource Bytes where
  fill count := fun supply =>
    if enough : count ≤ supply.length then
      ⟨.ok ⟨supply.take count, List.length_take_of_le enough⟩, supply.drop count, []⟩
    else
      ⟨.error (.entropy "the supply of random bytes is used up"), supply, []⟩

end Keyring
