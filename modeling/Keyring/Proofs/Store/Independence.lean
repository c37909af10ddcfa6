/-
Module: Keyring.Proofs.Store.Independence
Purpose: What imports and exports depend on.  An import depends on the data of selected records
  only, and an export on the integers and bytes that it writes.
Main exports: Record.AlikeOn, AlikeOn.importContainer_eq, Store.AgreeOn, Rsa.exportPublic_congr,
  Store.exportContainer_congr
-/
import Keyring.Proofs.Store.Alike

namespace Keyring

variable {mask : KeyMask} {first second : Bytes} {one two : Store}

/-! ## Imports -/

namespace Record

/-- Containers that differ only in the data of records that the mask does not select. -/
def AlikeOn (mask : KeyMask) (first second : Bytes) : Prop :=
  Alike mask (fun _ data other => data = other) first second

theorem AlikeOn.importContainer_eq (alike : AlikeOn mask first second) :
    Store.importContainer first mask = Store.importContainer second mask := by
  funext store
  have imported : Outcome.Alike (fun _ after _ last => after = last)
      (Store.importRecords mask first store) (Store.importRecords mask second store) := by
    refine alike.importRecords ?_ rfl
    rintro id data _ - - rfl before _ rfl
    exact (Outcome.Alike.refl _).mono fun _ _ _ _ both => both.2
  exact imported.allOrNothing_eq

end Record

/-! ## Exports -/

namespace Store

/-- For each key of a mask the stores hold what an export of it writes: of a private slot all
integers, of a public slot the modulus and the public exponent, of an HMAC key its bytes. -/
structure AgreeOn (mask : KeyMask) (one two : Store) : Prop where
  privateSlots : ∀ id, mask.has (.rsa id) = true → id.half = .privateHalf → one.rsa id = two.rsa id
  publicSlots : ∀ id, mask.has (.rsa id) = true → id.half = .publicHalf →
    (one.rsa id).map (fun key => (key.n, key.e)) = (two.rsa id).map (fun key => (key.n, key.e))
  secrets : ∀ id, mask.has (.hmac id) = true → one.hmac id = two.hmac id

end Store

/-- No private integer is looked at when a public half is written. -/
theorem Rsa.exportPublic_congr {slot other : Slot RsaKey}
    (same : slot.map (fun key => (key.n, key.e)) = other.map (fun key => (key.n, key.e))) :
    exportPublic slot = exportPublic other := by
  cases slot with
  | none =>
      cases other with
      | none => rfl
      | some key => cases same
  | some key =>
      cases other with
      | none => cases same
      | some held =>
          obtain ⟨modulus, exponent⟩ := Prod.mk.inj (Option.some.inj same)
          have listed : fields .publicHalf held = .ok [key.n, key.e] := by
            rw [modulus, exponent]
            rfl
          rw [exportPublic, exportHalf_eq listed]
          exact exportHalf_eq rfl

namespace Store

theorem AgreeOn.exportKey_eq (agree : AgreeOn mask one two) {id : KeyId}
    (asked : mask.has id = true) : one.exportKey id = two.exportKey id := by
  rcases id with id | id
  · cases half : id.half with
    | privateHalf => rw [exportKey, exportKey, agree.privateSlots id asked half]
    | publicHalf =>
        rw [exportKey, exportKey, half]
        exact Rsa.exportPublic_congr (agree.publicSlots id asked half)
  · rw [exportKey, exportKey, agree.secrets id asked]

section Passes

variable {σ : Type} {ids : List KeyId}

theorem containerLength_congr (same : ∀ id ∈ ids, one.exportKey id = two.exportKey id)
    (total : Nat) : (containerLength one ids total : Op σ Nat) = containerLength two ids total := by
  induction ids generalizing total with
  | nil => rfl
  | cons id rest inductionHypothesis =>
      rw [List.forall_mem_cons] at same
      simp only [containerLength, same.1, inductionHypothesis same.2]

theorem fillRecords_congr (same : ∀ id ∈ ids, one.exportKey id = two.exportKey id)
    (position : Nat) (ahead : Bytes) :
    (fillRecords one ids position ahead : Op σ (Nat × Bytes)) =
      fillRecords two ids position ahead := by
  induction ids generalizing position ahead with
  | nil => rfl
  | cons id rest inductionHypothesis =>
      rw [List.forall_mem_cons] at same
      simp only [fillRecords, exportOnto, same.1, inductionHypothesis same.2]

/-- Only the keys of a mask are ever exported. -/
theorem exportableIds_eq (mask : KeyMask) :
    (∃ event cause, (exportableIds mask : Op σ (List KeyId)) = Op.reject event cause) ∨
      (exportableIds mask : Op σ (List KeyId)) = pure mask.ids := by
  unfold exportableIds
  split
  · exact .inl ⟨_, _, rfl⟩
  · split
    · exact .inr rfl
    · exact .inl ⟨_, _, rfl⟩

end Passes

theorem exportContainer_congr {σ : Type} (agree : AgreeOn mask one two) :
    (exportContainer one mask : Op σ Bytes) = exportContainer two mask := by
  have same : ∀ id ∈ mask.ids, one.exportKey id = two.exportKey id :=
    fun id listed => agree.exportKey_eq (KeyMask.mem_ids.1 listed)
  unfold exportContainer
  rcases exportableIds_eq (σ := σ) mask with ⟨event, cause, refused⟩ | allowed
  · rw [refused]
    rfl
  · rw [allowed, pure_bind, pure_bind, containerLength_congr same]
    simp only [fillRecords_congr same]

end Store

end Keyring
