/-
Module: Keyring.Uint.Reader
Purpose: Numbers read one after the other from a byte string.  The state is what is left to read; a
  failed read leaves it as it was.
Main exports: read, finish
-/
import Keyring.Uint.Codec

namespace Keyring.Uint

/-- Read the next number. -/
def read : Op Bytes Nat := do
  let data ← Op.get
  let (n, used) ← decode data
  let (_, rest) ← Op.checked (data.cut used)
  Op.set rest
  return n

/-- Fail if anything is left to read. -/
def finish : Op Bytes Unit := do
  let data ← Op.get
  if data.isEmpty then
    return ()
  else
    Op.reject (.trailingData data.length) (.format (.trailingData data.length))

end Keyring.Uint
