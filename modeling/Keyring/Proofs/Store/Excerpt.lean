/-
Module: Keyring.Proofs.Store.Excerpt
Purpose: Excerpts of excerpts.  What was written for some keys of a list of records is a container
  in its own right: every import accepts it, and for each of its keys it provides what the list
  provided.  So fewer keys can be taken from it or from the list, with the same outcome.
Main exports: Record.Provides.iff_eq, Excerpt.narrow, Excerpt.congr, Excerpt.exists_records
-/
import Keyring.Proofs.Store.Canonical

namespace Keyring

theorem Record.Provides.iff_eq {list : List Record} {id : KeyId} {written : Bytes}
    (provides : Provides list id written) (data : Bytes) :
    Provides list id data ↔ data = written := by
  constructor
  · exact fun other => other.unique provides
  · rintro rfl
    exact provides

/-- A record that was written for a key provides the data that it was written with. -/
theorem Record.Provides.again {list : List Record} {ids : List KeyId} {blob : KeyId → Bytes}
    {id : KeyId} (provides : Provides list id (blob id)) (listed : id ∈ ids) :
    Provides (Store.records ids blob) id (blob id) := by
  obtain ⟨record, -, canonical⟩ := provides
  refine ⟨⟨id.code, blob id⟩, ?_, canonical.again⟩
  rw [Store.last?_records, if_pos listed]

namespace Store

variable {part whole : KeyMask} {first second list : List Record} {container : Bytes}

theorem ids_subset (sub : ∀ id, part.has id = true → whole.has id = true) :
    part.ids ⊆ whole.ids :=
  fun id listed => KeyMask.mem_ids.2 (sub id (KeyMask.mem_ids.1 listed))

namespace Excerpt

/-- If there is something to write for a mask, there is for every part of it, and it is not
longer. -/
theorem narrow (excerpt : Excerpt whole list container)
    (sub : ∀ id, part.has id = true → whole.has id = true) :
    ∃ less, Excerpt part list less ∧ less.length ≤ container.length := by
  obtain ⟨blob, provided, rfl⟩ := excerpt
  refine ⟨_, ⟨blob, fun id listed => provided id (ids_subset sub listed), rfl⟩, ?_⟩
  apply Record.length_join_le_of_subset
  · exact (ascending_records part blob).nodup_codes.of_map
  · exact List.map_subset _ (ids_subset sub)

/-- What is written depends only on what the records provide for the keys of the mask. -/
theorem congr (excerpt : Excerpt part first container)
    (same : ∀ id, part.has id = true → ∀ data,
      Record.Provides second id data ↔ Record.Provides first id data) :
    Excerpt part second container := by
  obtain ⟨blob, provided, rfl⟩ := excerpt
  exact ⟨blob, fun id listed => (same id (KeyMask.mem_ids.1 listed) _).2 (provided id listed), rfl⟩

/-- What was written is made of records that every import accepts and that provide for the keys of
the mask what the list provided. -/
theorem exists_records (excerpt : Excerpt whole list container)
    (bound : container.length ≤ Uint.maxTotal)
    (users : ∀ id, whole.has id = true → id.isImportOnly = false) :
    ∃ written, Record.MadeOf container written ∧
      (∀ mask, ∀ record ∈ written, record.Accepted mask) ∧
      ∀ id, whole.has id = true → ∀ data,
        Record.Provides written id data ↔ Record.Provides list id data := by
  obtain ⟨blob, provided, rfl⟩ := excerpt
  refine ⟨records whole.ids blob, madeOf_records ?_, accepted_records ?_ ?_, ?_⟩
  · intro id listed
    exact Uint.fits_of_le_maxTotal ((length_blob_le listed blob).trans bound)
  · intro id listed
    obtain ⟨_, -, canonical⟩ := provided id listed
    exact canonical.admits
  · intro id listed
    exact KeyId.ne_fileWrite (users id (KeyMask.mem_ids.1 listed))
  · intro id held data
    have listed := KeyMask.mem_ids.2 held
    rw [(provided id listed).iff_eq, ((provided id listed).again listed).iff_eq]

end Excerpt

end Store

end Keyring
