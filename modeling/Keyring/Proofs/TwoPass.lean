/-
Module: Keyring.Proofs.TwoPass
Purpose: Exports of one key in two passes.  Without a buffer an export answers a length, and it fills
  any buffer that has as much room with the same bytes; a buffer with less room is refused, and what
  cannot be exported at all is refused with and without a buffer in the same way.
Main exports: Uint.withinTotal, Rsa.encoded, Rsa.encoded_eq_ok, Rsa.encoded_eq_overflow,
  Hmac.encoded, Hmac.encoded_eq_ok, TwoPass, TwoPass.of_blob, TwoPass.of_refuses, TwoPass.congr,
  twoPass_encode, twoPass_serialize, twoPass_exportHalf, twoPass_exportHmac, exports_twoPass
-/
import Keyring.Proofs.Hmac.Blob
import Keyring.Proofs.Rsa.Blob
import Keyring.Proofs.Uint.Room

namespace Keyring

/-- Bytes that are to be written, or the refusal of bytes whose length would reach the failure
mark. -/
def Uint.withinTotal (blob : Bytes) : Except KeyError Bytes :=
  if blob.length ≤ maxTotal then .ok blob else .error .lengthOverflow

namespace Uint

variable {blob content : Bytes} {cause : KeyError}

theorem withinTotal_eq_ok :
    withinTotal blob = .ok content ↔ content = blob ∧ blob.length ≤ maxTotal := by
  unfold withinTotal
  split
  · next bound => simp [bound, eq_comm]
  · next exceeds => simp [exceeds]

theorem withinTotal_eq_error :
    withinTotal blob = .error cause ↔ cause = .lengthOverflow ∧ maxTotal < blob.length := by
  unfold withinTotal
  split
  · next bound => simp [Nat.not_lt_of_le bound]
  · next exceeds => simp [Nat.lt_of_not_le exceeds, eq_comm]

end Uint

/-- What is to be written for one half of the RSA key in a slot, or why nothing can be. -/
def Rsa.encoded (half : Half) (slot : Slot RsaKey) : Except KeyError Bytes := do
  let numbers ← slotFields half slot
  Uint.withinTotal (Uint.join numbers)

namespace Rsa

variable {half : Half} {slot : Slot RsaKey} {key : RsaKey} {numbers : List Nat} {blob : Bytes}
  {cause : KeyError}

theorem encoded_of_fields (listed : fields half key = .ok numbers) :
    encoded half (some key) = Uint.withinTotal (Uint.join numbers) := by
  rw [encoded, slotFields, listed]
  rfl

/-- Only the private half of a key can be without numbers. -/
theorem encoded_of_fields_error (without : fields half key = .error cause) :
    encoded half (some key) = .error cause ∧ cause = .notPrivate := by
  constructor
  · rw [encoded, slotFields, without]
    rfl
  · unfold fields at without
    split at without <;> cases without
    rfl

/-- What is written for a half is what its numbers make, as long as it stays below the failure
mark. -/
theorem encoded_eq_ok :
    encoded half slot = .ok blob ↔
      ∃ key numbers, slot = some key ∧ fields half key = .ok numbers ∧
        blob = Uint.join numbers ∧ blob.length ≤ Uint.maxTotal := by
  constructor
  · intro made
    cases slot with
    | none => cases made
    | some key =>
        cases listed : fields half key with
        | error cause => cases made.symm.trans (encoded_of_fields_error listed).1
        | ok numbers =>
            rw [encoded_of_fields listed] at made
            obtain ⟨rfl, bound⟩ := Uint.withinTotal_eq_ok.1 made
            exact ⟨key, numbers, rfl, listed, rfl, bound⟩
  · rintro ⟨key, numbers, rfl, listed, rfl, bound⟩
    rw [encoded_of_fields listed]
    exact Uint.withinTotal_eq_ok.2 ⟨rfl, bound⟩

theorem encoded_eq_overflow :
    encoded half slot = .error .lengthOverflow ↔
      ∃ key numbers, slot = some key ∧ fields half key = .ok numbers ∧
        Uint.maxTotal < (Uint.join numbers).length := by
  constructor
  · intro refused
    cases slot with
    | none => cases refused
    | some key =>
        cases listed : fields half key with
        | error cause =>
            obtain ⟨same, rfl⟩ := encoded_of_fields_error listed
            cases refused.symm.trans same
        | ok numbers =>
            rw [encoded_of_fields listed] at refused
            exact ⟨key, numbers, rfl, listed, (Uint.withinTotal_eq_error.1 refused).2⟩
  · rintro ⟨key, numbers, rfl, listed, exceeds⟩
    rw [encoded_of_fields listed]
    exact Uint.withinTotal_eq_error.2 ⟨rfl, exceeds⟩

end Rsa

/-- What is to be written for the HMAC key in a slot. -/
def Hmac.encoded : Slot HmacKey → Except KeyError Bytes
  | some key => .ok key.bytes
  | none => .error .missingKey

theorem Hmac.encoded_eq_ok {slot : Slot HmacKey} {blob : Bytes} :
    encoded slot = .ok blob ↔ ∃ key, slot = some key ∧ blob = key.bytes := by
  cases slot with
  | none => simp [encoded]
  | some key => simp [encoded, eq_comm]

/-- An operation that writes the content to the front of a buffer, or answers its length if there is
none, and that treats every buffer alike. -/
structure TwoPass (op : Op (Option Bytes) Nat) (content : Except KeyError Bytes) : Prop where
  /-- Without a buffer the length of the content is answered, or why there is none. -/
  sized : (op none).result = content.map List.length
  /-- A length is answered with a buffer exactly if it is answered without one and the buffer has as
  much room. -/
  answered : ∀ (out : Bytes) (length : Nat), (op (some out)).result = .ok length ↔
    (op none).result = .ok length ∧ length ≤ out.length
  /-- Then the content is in the buffer, whatever was there, and what is behind it stays. -/
  filled : ∀ (out blob : Bytes), content = .ok blob → blob.length ≤ out.length →
    (op (some out)).state = some (blob ++ out.drop blob.length)
  /-- A buffer with less room is refused as too short. -/
  short : ∀ (out : Bytes) (length : Nat), (op none).result = .ok length → out.length < length →
    ∃ needed available, op.Fails (some out) (.format (.bufferEnds needed available))
  /-- Where there is no key, or no such half of it, a buffer stays as it is. -/
  refused : ∀ cause, cause = .missingKey ∨ cause = .notPrivate → (op none).result = .error cause →
    ∀ out, op.Refuses (some out) cause

namespace TwoPass

variable {op other : Op (Option Bytes) Nat} {content : Except KeyError Bytes} {cause : KeyError}

/-- Content goes in two passes if its length is answered without a buffer, a buffer with room for
it is filled, and a buffer without is too short. -/
theorem of_blob {blob : Bytes} (without : (op none).result = .ok blob.length)
    (whole : ∀ room behind : Bytes, room.length = blob.length →
      op.Yields (some (room ++ behind)) blob.length (some (blob ++ behind)))
    (short : ∀ out : Bytes, out.length < blob.length →
      ∃ needed available, op.Fails (some out) (.format (.bufferEnds needed available))) :
    TwoPass op (.ok blob) := by
  have filled {out : Bytes} (enough : blob.length ≤ out.length) :
      op.Yields (some out) blob.length (some (blob ++ out.drop blob.length)) := by
    have written := whole _ (out.drop blob.length) (List.length_take_of_le enough)
    rwa [List.take_append_drop] at written
  refine ⟨without, ?_, ?_, ?_, ?_⟩
  · intro out length
    by_cases enough : blob.length ≤ out.length
    · rw [(filled enough).1, without]
      constructor
      · rintro ⟨⟩
        exact ⟨rfl, enough⟩
      · exact And.left
    · obtain ⟨needed, available, failed⟩ := short out (Nat.lt_of_not_le enough)
      constructor
      · intro done
        cases done.symm.trans failed
      · rintro ⟨sized, fits⟩
        cases sized.symm.trans without
        exact absurd fits enough
  · rintro out _ ⟨⟩ enough
    exact (filled enough).2
  · intro out length done few
    cases done.symm.trans without
    exact short out few
  · intro cause _ failed
    cases failed.symm.trans without

/-- Content that is too long goes in neither pass. -/
theorem of_overflow (without : (op none).result = .error .lengthOverflow)
    (never : ∀ out length, (op (some out)).result ≠ .ok length) :
    TwoPass op (.error .lengthOverflow) where
  sized := without
  answered out length := by simp [never out length, without]
  filled out blob impossible := by cases impossible
  short out length done := by cases done.symm.trans without
  refused cause which failed := by
    cases failed.symm.trans without
    rcases which with impossible | impossible <;> cases impossible

/-- Nothing is written in either pass where every call is refused. -/
theorem of_refuses (refuses : ∀ out, op.Refuses out cause) : TwoPass op (.error cause) where
  sized := (refuses none).1
  answered out length := by
    have withBuffer := (refuses (some out)).1
    have without := (refuses none).1
    rw [Op.Fails] at withBuffer without
    simp [withBuffer, without]
  filled out blob impossible := by cases impossible
  short out length done := by
    cases done.symm.trans (refuses none).1
  refused found _ failed out := by
    cases failed.symm.trans (refuses none).1
    exact refuses (some out)

/-- What an operation reports does not matter. -/
theorem congr (twoPass : TwoPass other content)
    (same : ∀ out, (op out).result = (other out).result ∧ (op out).state = (other out).state) :
    TwoPass op content where
  sized := (same none).1.trans twoPass.sized
  answered out length := by
    rw [(same (some out)).1, (same none).1]
    exact twoPass.answered out length
  filled out blob made enough := (same (some out)).2.trans (twoPass.filled out blob made enough)
  short out length done few := by
    obtain ⟨needed, available, failed⟩ :=
      twoPass.short out length ((same none).1.symm.trans done) few
    exact ⟨needed, available, (same (some out)).1.trans failed⟩
  refused cause which failed out := by
    rw [Op.Refuses, Op.Fails, (same (some out)).1, (same (some out)).2]
    exact twoPass.refused cause which ((same none).1.symm.trans failed) out

end TwoPass

/-- A number is written in two passes as long as it stays below the failure mark. -/
theorem twoPass_encode (n : Nat) :
    TwoPass (Uint.encode n) (Uint.withinTotal (Uint.bytes n)) := by
  unfold Uint.withinTotal
  split
  · next bound =>
      apply TwoPass.of_blob
      · rw [Uint.encode, Uint.encodedLength_of_le bound]
        rfl
      · intro room behind sized
        rw [Op.Yields, Uint.encode, Uint.encodeInto_room bound sized]
        exact ⟨rfl, rfl⟩
      · intro out few
        exact Uint.encodeInto_noRoom bound few
  · next exceeds =>
      apply TwoPass.of_overflow
      · rw [Uint.encode, Uint.encodedLength_of_lt (Nat.lt_of_not_le exceeds)]
        rfl
      · intro out length
        rw [Uint.encode, Uint.encodeInto_overflow (Nat.lt_of_not_le exceeds)]
        rintro ⟨⟩

/-- Numbers are written in two passes as long as they stay below the failure mark together. -/
theorem twoPass_serialize (numbers : List Nat) :
    TwoPass (Uint.serialize numbers) (Uint.withinTotal (Uint.join numbers)) := by
  unfold Uint.withinTotal
  split
  · next bound =>
      apply TwoPass.of_blob
      · rw [Uint.serialize_none bound]
      · intro room behind sized
        rw [Op.Yields, Uint.serialize_room bound sized]
        exact ⟨rfl, rfl⟩
      · intro out few
        exact Uint.serialize_short bound few
  · next exceeds =>
      apply TwoPass.of_overflow
      · rw [Uint.serialize_overflow (Nat.lt_of_not_le exceeds)]
      · exact Uint.serialize_some_overflow (Nat.lt_of_not_le exceeds)

theorem twoPass_exportHalf (half : Half) (slot : Slot RsaKey) :
    TwoPass (Rsa.exportHalf half slot) (Rsa.encoded half slot) := by
  cases slot with
  | none => exact .of_refuses fun out => ⟨rfl, rfl⟩
  | some key =>
      cases listed : Rsa.fields half key with
      | error cause =>
          rw [(Rsa.encoded_of_fields_error listed).1]
          apply TwoPass.of_refuses
          intro out
          rw [Op.Refuses, Op.Fails, Rsa.exportHalf_refused listed]
          exact ⟨rfl, rfl⟩
      | ok numbers =>
          rw [Rsa.encoded_of_fields listed, Rsa.exportHalf_eq listed]
          exact (twoPass_serialize numbers).congr (Op.report_apply _ _)

theorem twoPass_exportHmac (slot : Slot HmacKey) :
    TwoPass (Hmac.exportKey slot) (Hmac.encoded slot) := by
  cases slot with
  | none => exact .of_refuses fun out => ⟨rfl, rfl⟩
  | some key =>
      apply TwoPass.of_blob
      · rw [key.length_bytes]
        rfl
      · intro room behind sized
        rw [Op.Yields, Hmac.exportKey_room key sized]
        exact ⟨rfl, rfl⟩
      · intro out few
        exact ⟨_, _, by rw [Op.Fails, Hmac.exportKey_short key few]⟩

/-- The exports of a private half, of a public half and of an HMAC key, from any slot.  A buffer is
filled exactly if a length is answered without one and it has as much room: then as many bytes at
its front become the content of the key, and no other byte changes. -/
theorem exports_twoPass (rsa : Slot RsaKey) (hmac : Slot HmacKey) :
    TwoPass (Rsa.exportPrivate rsa) (Rsa.encoded .privateHalf rsa) ∧
      TwoPass (Rsa.exportPublic rsa) (Rsa.encoded .publicHalf rsa) ∧
      TwoPass (Hmac.exportKey hmac) (Hmac.encoded hmac) :=
  ⟨twoPass_exportHalf .privateHalf rsa, twoPass_exportHalf .publicHalf rsa,
    twoPass_exportHmac hmac⟩

end Keyring
