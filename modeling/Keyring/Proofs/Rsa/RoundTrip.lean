/-
Module: Keyring.Proofs.Rsa.RoundTrip
Purpose: RSA keys written as blobs and read back.  What is written for one half of a key is read as
  that half with every number in its place, whatever the numbers are, and the blob of the public
  half is the front of that of the private half.
Main exports: Carries, carries_join, length_of_sized, importPrivate_exportPrivate
-/
import Keyring.Proofs.Rsa.Blob

namespace Keyring.Rsa

variable {half : Half} {key read : RsaKey} {numbers : List Nat} {length : Nat}

/-- The blob takes one half of a key out of its slot and into another: its length is what is
answered without a buffer, a buffer of this length is filled with it, and every slot that reads it
holds the key that was sent. -/
structure Carries (half : Half) (key : RsaKey) (blob : Bytes) (sent : RsaKey) : Prop where
  sized : (exportHalf half (some key) none).result = .ok blob.length
  filled : ∀ room : Bytes, room.length = blob.length →
    (exportHalf half (some key)).Yields (some room) blob.length (some blob)
  taken : ∀ slot, (importHalf half blob).Yields slot () (some sent)

/-- The numbers of one half, written one after the other, carry the key that they stand for. -/
theorem carries_join (listed : fields half key = .ok numbers)
    (made : keyOfNumbers? half numbers = some read)
    (bound : (Uint.join numbers).length ≤ Uint.maxTotal) :
    Carries half key (Uint.join numbers) read where
  sized := by rw [exportHalf_of_serialize listed (Uint.serialize_none bound)]
  filled room fits := by
    have written := Uint.serialize_room bound fits []
    rw [List.append_nil, List.append_nil] at written
    rw [Op.Yields, exportHalf_of_serialize listed written]
    exact ⟨rfl, rfl⟩
  taken slot := by
    obtain ⟨same, readListed⟩ := keyOfNumbers?_eq_some.1 made
    rw [Op.Yields, importHalf_of_isBlob (isBlob_join same readListed bound)]
    exact ⟨rfl, rfl⟩

/-- What is answered without a buffer is the length of the numbers, which stays below the failure
mark. -/
theorem length_of_sized (listed : fields half key = .ok numbers)
    (sized : (exportHalf half (some key) none).result = .ok length) :
    (Uint.join numbers).length ≤ Uint.maxTotal ∧ length = (Uint.join numbers).length := by
  by_cases bound : (Uint.join numbers).length ≤ Uint.maxTotal
  · rw [exportHalf_of_serialize listed (Uint.serialize_none bound)] at sized
    exact ⟨bound, (Except.ok.inj sized).symm⟩
  · rw [exportHalf_overflow listed (Nat.lt_of_not_le bound)] at sized
    cases sized

/-- Nothing is answered for the private half of a key without private numbers. -/
theorem exists_secret_of_sized (sized : (exportPrivate (some key) none).result = .ok length) :
    ∃ secret, key.secret = some secret := by
  rcases key with ⟨n, e, _ | secret⟩
  · cases sized
  · exact ⟨secret, rfl⟩

/-- A private key whose length can be answered goes through a blob of this length into any slot as
it is.  The front of the blob, as far as the modulus and the public exponent reach, is what is
written for the public half, of the key itself and of its public half alike, and it goes into any
slot as that public half. -/
theorem importPrivate_exportPrivate
    (sized : (exportPrivate (some key) none).result = .ok length) :
    ∃ secret blob front, key.secret = some secret ∧ blob.length = length ∧
      front = Uint.join [key.n, key.e] ∧
      blob = front ++ Uint.join
        [secret.d, secret.p, secret.q, secret.dp, secret.dq, secret.qInv] ∧
      Carries .privateHalf key blob key ∧
      exportPublic (some key) = exportPublic (some key.toPublic) ∧
      Carries .publicHalf key front key.toPublic := by
  obtain ⟨secret, isPrivate⟩ := exists_secret_of_sized sized
  obtain ⟨n, e, _⟩ := key
  cases isPrivate
  obtain ⟨bound, rfl⟩ := length_of_sized rfl sized
  have split := Uint.join_append [n, e]
    [secret.d, secret.p, secret.q, secret.dp, secret.dq, secret.qInv]
  have frontBound : (Uint.join [n, e]).length ≤ Uint.maxTotal :=
    Nat.le_trans (List.IsPrefix.length_le ⟨_, split.symm⟩) bound
  exact ⟨secret, _, _, rfl, rfl, rfl, split, carries_join rfl rfl bound, rfl,
    carries_join rfl rfl frontBound⟩

/-- A key with small numbers, one of them zero. -/
def smallKey : RsaKey where
  n := 15
  e := 3
  secret := some { d := 3, p := 5, q := 3, dp := 0, dq := 1, qInv := 2 }

/-- Seven of its numbers take five bytes each, and zero takes four. -/
theorem smallKey_carried :
    (exportPrivate (some smallKey) none).result = .ok 39 ∧
      ∃ blob, Carries .privateHalf smallKey blob smallKey ∧ blob.length = 39 ∧
        Carries .publicHalf smallKey (Uint.join [15, 3]) smallKey.toPublic := by
  have sized : (exportPrivate (some smallKey) none).result = .ok 39 := by rfl
  obtain ⟨_, blob, _, _, length, rfl, _, whole, _, part⟩ := importPrivate_exportPrivate sized
  exact ⟨sized, blob, whole, length, part⟩

end Keyring.Rsa
