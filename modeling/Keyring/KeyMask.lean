/-
Module: Keyring.KeyMask
Purpose: Sets of keys as 32-bit masks.  Bits that belong to no key are kept, so that they can be
  reported; whether a key is in a mask is the bit at its code.
Main exports: KeyMask, KeyMask.has, KeyMask.single, KeyMask.ids, KeyMask.user, KeyMask.text
-/
import Keyring.KeyId
import Keyring.Text

namespace Keyring

/-- A set of keys, one bit per key id, and whatever other bits were given. -/
structure KeyMask where
  bits : BitVec 32
deriving DecidableEq, Inhabited

namespace KeyMask

def ofNat (n : Nat) : KeyMask := ⟨BitVec.ofNat 32 n⟩

def toNat (mask : KeyMask) : Nat := mask.bits.toNat

/-- Whether a key is in the mask. -/
def has (mask : KeyMask) (id : KeyId) : Bool :=
  mask.bits.getLsbD id.code.toNat

/-- The mask of no key. -/
def empty : KeyMask := ⟨0#32⟩

/-- The mask of one key. -/
def single (id : KeyId) : KeyMask :=
  ⟨BitVec.twoPow 32 id.code.toNat⟩

def union (first second : KeyMask) : KeyMask := ⟨first.bits ||| second.bits⟩

def inter (first second : KeyMask) : KeyMask := ⟨first.bits &&& second.bits⟩

/-- The bits of the first mask that are not in the second. -/
def remove (first second : KeyMask) : KeyMask := ⟨first.bits &&& ~~~second.bits⟩

/-- The bits that are in exactly one of two masks. -/
def toggle (first second : KeyMask) : KeyMask := ⟨first.bits ^^^ second.bits⟩

instance : Union KeyMask := ⟨union⟩
instance : Inter KeyMask := ⟨inter⟩
instance : SDiff KeyMask := ⟨remove⟩

/-- The mask of a list of keys. -/
def ofIds (ids : List KeyId) : KeyMask :=
  ids.foldr (fun id mask => single id ∪ mask) empty

/-- Both halves of the signing pair. -/
def sign : KeyMask := ofIds [.rsa .signPrivate, .rsa .signPublic]

/-- Both halves of the encryption pair. -/
def encrypt : KeyMask := ofIds [.rsa .encryptPrivate, .rsa .encryptPublic]

/-- The keys needed to read archives. -/
def read : KeyMask :=
  ofIds [.rsa .encryptPrivate, .rsa .signPublic, .hmac .file, .hmac .chunk, .hmac .name,
    .hmac .authGet]

/-- The keys needed to write archives. -/
def write : KeyMask :=
  ofIds [.rsa .signPrivate, .rsa .encryptPublic, .hmac .file, .hmac .chunk, .hmac .name,
    .hmac .params, .hmac .authPut]

/-- Every key that a user holds. -/
def user : KeyMask :=
  ofIds (KeyId.all.filter (fun id => !id.isImportOnly))

/-- Every key. -/
def all : KeyMask := ofIds KeyId.all

/-- The keys outside a mask; bits of no key are dropped. -/
def complement (mask : KeyMask) : KeyMask := all \ mask

/-- The mask without its bits of no key. -/
def truncate (mask : KeyMask) : KeyMask := mask ∩ all

def isEmpty (mask : KeyMask) : Bool := mask == empty

/-- Whether every bit of the second mask is in the first. -/
def contains (first second : KeyMask) : Bool := first ∩ second == second

/-- Whether two masks share a bit. -/
def intersects (first second : KeyMask) : Bool := !(first ∩ second).isEmpty

/-- The mask of given bits, provided that each of them belongs to a key. -/
def ofKnownBits? (mask : KeyMask) : Option KeyMask :=
  if all.contains mask then some mask else none

/-- The keys in the mask, in ascending order of their codes. -/
def ids (mask : KeyMask) : List KeyId :=
  KeyId.all.filter mask.has

/-- The bits of the mask that belong to no key. -/
def unknown (mask : KeyMask) : KeyMask := mask \ all

/-- The mask as eight hexadecimal digits. -/
def hexText (mask : KeyMask) : String :=
  Text.padLeft '0' 8 (Text.hex mask.toNat)

/-- The names of the keys in the mask, then its bits of no key as one number. -/
def text (mask : KeyMask) : String :=
  let names := mask.ids.map KeyId.flag
  let number := "0x" ++ Text.hex mask.unknown.toNat
  let parts := if mask.unknown.isEmpty && !mask.isEmpty then names else names ++ [number]
  "KeyMask(" ++ " | ".intercalate parts ++ ")"

@[simp] theorem has_union (first second : KeyMask) (id : KeyId) :
    (first ∪ second).has id = (first.has id || second.has id) :=
  BitVec.getLsbD_or ..

@[simp] theorem has_inter (first second : KeyMask) (id : KeyId) :
    (first ∩ second).has id = (first.has id && second.has id) :=
  BitVec.getLsbD_and ..

@[simp] theorem has_remove (first second : KeyMask) (id : KeyId) :
    (first \ second).has id = (first.has id && !second.has id) := by
  have known := id.code_lt
  change (first.bits &&& ~~~second.bits).getLsbD _ = _
  simp [has, known]

@[simp] theorem has_single (held id : KeyId) : (single held).has id = (held == id) := by
  have known := id.code_lt
  by_cases same : held = id
  · simp [same, has, single, known]
  · have apart : held.code.toNat ≠ id.code.toNat :=
      fun eq => same (KeyId.code_injective (UInt8.toNat_inj.1 eq))
    simp [has, single, known, Ne.symm apart, beq_eq_false_iff_ne.2 same]

@[simp] theorem has_empty (id : KeyId) : empty.has id = false := by
  simp [has, empty]

theorem has_ofIds (ids : List KeyId) (id : KeyId) : (ofIds ids).has id = decide (id ∈ ids) := by
  induction ids with
  | nil => simp [ofIds]
  | cons first rest ih =>
      change (single first ∪ ofIds rest).has id = _
      rw [has_union, has_single, ih]
      by_cases same : id = first
      · simp [same]
      · have other : first ≠ id := fun eq => same eq.symm
        simp [same, other]

theorem mem_ids {mask : KeyMask} {id : KeyId} : id ∈ mask.ids ↔ mask.has id = true := by
  simp [ids, KeyId.mem_all]

end KeyMask

end Keyring
