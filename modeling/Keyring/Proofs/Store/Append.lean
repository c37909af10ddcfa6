/-
Module: Keyring.Proofs.Store.Append
Purpose: Containers that stand one behind the other.  Behind whole records the rest of a container
  is read as if it stood alone, from the store that the records have made; so containers in a row
  are read like files one after the other, apart from what a failure leaves: it undoes all of them.
Main exports: Store.importRecords_append, Store.importContainer_append
-/
import Keyring.Proofs.Store.Canonical

namespace Keyring.Store

variable {mask : KeyMask} {store between after : Store} {first : Bytes}

/-- Records are read before what follows them, and what follows them is read as a container. -/
theorem importRecords_append (mask : KeyMask) {records : List Record}
    (fits : ∀ record ∈ records, record.data.Fits) (behind : Bytes) :
    importRecords mask (Record.join records ++ behind) =
      importRecords mask (Record.join records) >>= fun _ => importRecords mask behind := by
  induction records with
  | nil => rw [Record.join_nil, List.nil_append, importRecords_nil, pure_bind]
  | cons record rest inductionHypothesis =>
      rw [List.forall_mem_cons] at fits
      rw [Record.join_cons, List.append_assoc, importRecords_bytes mask fits.1,
        importRecords_bytes mask fits.1]
      cases KeyId.ofRecordType? record.code with
      | none => rfl
      | some id =>
          dsimp only
          rw [inductionHypothesis fits.2, bind_assoc]

/-- A container that is read to its end ends with a record, so nothing of it is left over for what
stands behind it. -/
theorem importRecords_behind (read : (importRecords mask first).Yields store () between)
    (second : Bytes) :
    importRecords mask (first ++ second) =
      importRecords mask first >>= fun _ => importRecords mask second := by
  obtain ⟨records, ⟨fits, rfl⟩, -⟩ := exists_madeOf_of_yields read
  exact importRecords_append mask fits second

theorem yields_importContainer_behind
    (done : (importContainer first mask).Yields store () between) (second : Bytes) :
    (importContainer (first ++ second) mask).Yields store () after ↔
      (importContainer second mask).Yields between () after := by
  have read := Op.yields_allOrNothing.1 done
  calc
    (importContainer (first ++ second) mask).Yields store () after
      ↔ (importRecords mask (first ++ second)).Yields store () after := Op.yields_allOrNothing
    _ ↔ (importRecords mask second).Yields between () after := by
        rw [importRecords_behind read, Op.yields_bind_of_yields read]
    _ ↔ (importContainer second mask).Yields between () after := Op.yields_allOrNothing.symm

theorem fails_importContainer_behind {cause : KeyError}
    (done : (importContainer first mask).Yields store () between) (second : Bytes) :
    (importContainer (first ++ second) mask).Fails store cause ↔
      (importContainer second mask).Fails between cause := by
  have read := Op.yields_allOrNothing.1 done
  calc
    (importContainer (first ++ second) mask).Fails store cause
      ↔ (importRecords mask (first ++ second)).Fails store cause := Op.fails_orElseUndo
    _ ↔ (importRecords mask second).Fails between cause := by
        rw [importRecords_behind read, Op.fails_bind_of_yields read]
    _ ↔ (importContainer second mask).Fails between cause := Op.fails_orElseUndo.symm

/-- Behind a container that can be imported, any bytes are imported as they are on their own from
the store that it leaves: with the same store in the end, or for the same cause not at all; and then
nothing of the first container is imported either. -/
theorem importContainer_append (done : (importContainer first mask).Yields store () between)
    (second : Bytes) :
    (∀ after, (importContainer (first ++ second) mask).Yields store () after ↔
      (importContainer second mask).Yields between () after) ∧
    ∀ cause,
      ((importContainer (first ++ second) mask).Fails store cause ↔
        (importContainer second mask).Fails between cause) ∧
      ((importContainer (first ++ second) mask).Fails store cause →
        (importContainer (first ++ second) mask store).state = store) :=
  ⟨fun _ => yields_importContainer_behind done second,
    fun _ => ⟨fails_importContainer_behind done second, Op.allOrNothing_state_of_error⟩⟩

/-- A record of `falling` is imported behind every container that is. -/
theorem falling_record {record : Record} (member : record ∈ falling) (store : Store) :
    ∃ after, (importContainer record.bytes .user).Yields store () after := by
  have madeOf : Record.MadeOf record.bytes [record] :=
    ⟨List.forall_mem_singleton.2 (falling_madeOf.1 record member), (List.append_nil _).symm⟩
  obtain ⟨after, done, -⟩ := importContainer_of_madeOf madeOf
    (List.forall_mem_singleton.2 (falling_accepted record member)) store
  exact ⟨after, done⟩

/-- The two records of `falling` are imported one behind the other; with a single byte in place of
the second one, the first one is not imported either. -/
theorem falling_append :
    ∃ first second, Record.join falling = first ++ second ∧
      ∃ between, (importContainer first .user).Yields .empty () between ∧
        (∃ after, (importContainer second .user).Yields between () after ∧
          (importContainer (Record.join falling) .user).Yields .empty () after) ∧
        (importContainer (first ++ [0]) .user).Refuses .empty (.format (.headerEnds 1)) := by
  obtain ⟨between, one⟩ := falling_record (List.mem_cons_self ..) .empty
  obtain ⟨after, two⟩ := falling_record (List.mem_cons_of_mem _ (List.mem_singleton_self _)) between
  have broken : (importContainer [0] .user).Fails between (.format (.headerEnds 1)) := by
    apply Op.fails_orElseUndo.2
    rw [importRecords_broken .user (by simp) (Record.next?_short (by decide))]
    rfl
  have refused := (importContainer_append one [0]).2 (.format (.headerEnds 1))
  refine ⟨_, _, ?_, between, one, ⟨after, two, ?_⟩, refused.1.2 broken,
    refused.2 (refused.1.2 broken)⟩
  · rfl
  · exact ((importContainer_append one _).1 after).2 two

end Keyring.Store
