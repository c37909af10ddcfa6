/-
Module: Keyring.Proofs.Store.Union
Purpose: Imports of one container under several masks.  What a mask asks of a record is what its
  keys ask one by one, so an import for the keys of two masks is an import for those of the first
  and then for those of the second, and it fails where the first of these two fails.
Main exports: Store.importContainer_congr, Store.yields_importContainer_union, Store.Offends.mono,
  Store.Offends.of_union, Store.Stops, Store.fails_iff_stops, Store.Stops.unique,
  Store.stops_union, Store.importContainer_union
-/
import Keyring.Proofs.Store.Offence

namespace Keyring.Store

variable {first second part whole mask : KeyMask} {container : Bytes}

/-! ## Masks with the same keys -/

theorem install_congr (same : ∀ id, first.has id = second.has id) (id : KeyId) (data : Bytes) :
    install first id data = install second id data := by
  rw [install_eq, install_eq, isCopied, isCopied, same, same]

theorem importRecords_congr (same : ∀ id, first.has id = second.has id) (container : Bytes) :
    importRecords first container = importRecords second container := by
  induction container using Record.container_induction with
  | nil => rw [importRecords_nil, importRecords_nil]
  | broken container cause more broken =>
      rw [importRecords_broken first more broken, importRecords_broken second more broken]
  | record record behind fits inductionHypothesis =>
      rw [importRecords_bytes first fits, importRecords_bytes second fits]
      cases KeyId.ofRecordType? record.code with
      | none => rfl
      | some id =>
          dsimp only
          rw [install_congr same, inductionHypothesis]

/-- Bits of no key make no difference to an import. -/
theorem importContainer_congr (same : ∀ id, first.has id = second.has id) (container : Bytes) :
    importContainer container first = importContainer container second := by
  rw [importContainer, importContainer, importRecords_congr same]

/-! ## Runs that succeed -/

theorem importContainer_union_eq_ok {store : Store} :
    (importContainer container (first ∪ second) store).result = .ok () ↔
      (importContainer container first store).result = .ok () ∧
        (importContainer container second store).result = .ok () := by
  simp only [importContainer_eq_ok, Record.accepted_union, forall_and]
  constructor
  · rintro ⟨records, madeOf, one, two⟩
    exact ⟨⟨records, madeOf, one⟩, ⟨records, madeOf, two⟩⟩
  · rintro ⟨⟨records, madeOf, one⟩, ⟨others, otherMadeOf, two⟩⟩
    obtain rfl := madeOf.unique otherMadeOf
    exact ⟨records, madeOf, one, two⟩

/-- For the keys of two masks a container can be imported at once or in two goes. -/
theorem yields_importContainer_union {store after : Store} :
    (importContainer container (first ∪ second)).Yields store () after ↔
      (importContainer container first >>= fun _ => importContainer container second).Yields
        store () after := by
  -- One list of records decides all three runs.
  have goes {records : List Record} (madeOf : Record.MadeOf container records)
      (one : ∀ record ∈ records, record.Accepted first)
      (two : ∀ record ∈ records, record.Accepted second) :
      ∃ last, (importContainer container (first ∪ second)).Yields store () last ∧
        (importContainer container first >>= fun _ => importContainer container second).Yields
          store () last := by
    obtain ⟨last, atOnce, installed⟩ := importContainer_of_madeOf madeOf
      (fun record member => Record.accepted_union.2 ⟨one record member, two record member⟩) store
    obtain ⟨between, ran, installedOne⟩ := importContainer_of_madeOf madeOf one store
    obtain ⟨other, again, installedTwo⟩ := importContainer_of_madeOf madeOf two between
    obtain rfl := installed.unique (installedOne.union installedTwo)
    exact ⟨last, atOnce, Op.yields_bind.2 ⟨(), between, ran, again⟩⟩
  constructor
  · intro atOnce
    obtain ⟨records, madeOf, accepted⟩ := importContainer_eq_ok.1 atOnce.1
    simp only [Record.accepted_union, forall_and] at accepted
    obtain ⟨last, same, run⟩ := goes madeOf accepted.1 accepted.2
    rwa [← atOnce.2, same.2]
  · intro run
    obtain ⟨_, between, ran, again⟩ := Op.yields_bind.1 run
    obtain ⟨records, madeOf, one⟩ := importContainer_eq_ok.1 ran.1
    obtain ⟨others, otherMadeOf, two⟩ := importContainer_eq_ok.1 again.1
    obtain rfl := madeOf.unique otherMadeOf
    obtain ⟨last, atOnce, same⟩ := goes madeOf one two
    rwa [← run.2, same.2]

/-! ## Runs that fail -/

namespace Offends

variable {rest : Bytes} {cause : KeyError}

theorem mono (offends : Offends part rest cause)
    (sub : ∀ id, part.has id = true → whole.has id = true) : Offends whole rest cause := by
  cases offends with
  | headerEnds more few => exact .headerEnds more few
  | dataEnds code full few => exact .dataEnds code full few
  | unknownType fits unknown => exact .unknownType fits unknown
  | badData fits typed selected refused =>
      exact .badData fits typed (KeyMask.selects_mono sub selected) refused

theorem of_union (offends : Offends (first ∪ second) rest cause) :
    Offends first rest cause ∨ Offends second rest cause := by
  cases offends with
  | headerEnds more few => exact .inl (.headerEnds more few)
  | dataEnds code full few => exact .inl (.dataEnds code full few)
  | unknownType fits unknown => exact .inl (.unknownType fits unknown)
  | badData fits typed selected refused =>
      rw [KeyMask.selects_union, Bool.or_eq_true] at selected
      exact selected.imp (fun one => .badData fits typed one refused)
        fun two => .badData fits typed two refused

theorem union_left (offends : Offends first rest cause) : Offends (first ∪ second) rest cause :=
  offends.mono fun _ held => KeyMask.has_union_left held second

/-- A record that the mask admits does not offend. -/
theorem not_accepted {record : Record} {behind : Bytes}
    (offends : Offends mask (record.bytes ++ behind) cause) (fits : record.data.Fits) :
    ¬ record.Accepted mask := by
  rintro ⟨id, typed, admitted⟩
  generalize whole : record.bytes ++ behind = rest at offends
  have cut := Record.next?_bytes fits behind
  rw [whole] at cut
  cases offends with
  | headerEnds more few =>
      rw [Record.next?_short few] at cut
      cases cut
  | dataEnds code full few =>
      rw [Record.next?_header code full, if_pos few] at cut
      cases cut
  | unknownType otherFits unknown =>
      obtain ⟨rfl, -⟩ := Record.bytes_append_inj fits otherFits whole
      exact unknown (KeyId.exists_ofRecordType?_iff.1 ⟨id, typed⟩)
  | badData otherFits otherTyped selected refused =>
      obtain ⟨rfl, -⟩ := Record.bytes_append_inj fits otherFits whole
      obtain rfl := Option.some.inj (typed.symm.trans otherTyped)
      exact exists_refuses_iff.1 ⟨cause, refused⟩ (admitted selected)

end Offends

/-- A record that the mask does not admit offends, whatever stands behind it. -/
theorem exists_offends {record : Record} (fits : record.data.Fits)
    (refused : ¬ record.Accepted mask) (behind : Bytes) :
    ∃ cause, Offends mask (record.bytes ++ behind) cause := by
  cases typed : KeyId.ofRecordType? record.code with
  | none =>
      refine ⟨_, .unknownType fits ?_⟩
      rw [← KeyId.exists_ofRecordType?_iff, typed]
      simp
  | some id =>
      have bad : mask.selects id = true ∧ ¬ id.kind.Admits record.data := by
        by_contra good
        exact refused ⟨id, typed, fun selected => by_contra fun bad => good ⟨selected, bad⟩⟩
      obtain ⟨cause, refuses⟩ := exists_refuses_iff.2 bad.2
      exact ⟨cause, .badData fits typed bad.1 refuses⟩

/-- An import under the mask passes so many records and fails for the cause at what stands behind
them. -/
def Stops (mask : KeyMask) (passed : Nat) (container : Bytes) (cause : KeyError) : Prop :=
  ∃ records rest, records.length = passed ∧ container = Record.join records ++ rest ∧
    (∀ record ∈ records, record.data.Fits ∧ record.Accepted mask) ∧ Offends mask rest cause

theorem fails_iff_stops {store : Store} {cause : KeyError} :
    (importContainer container mask).Fails store cause ↔
      ∃ passed, Stops mask passed container cause := by
  rw [importContainer, Op.allOrNothing, Op.fails_orElseUndo]
  constructor
  · intro failed
    obtain ⟨records, rest, whole, accepted, offends⟩ := exists_offends_of_fails failed
    exact ⟨records.length, records, rest, rfl, whole, accepted, offends⟩
  · rintro ⟨_, records, rest, -, rfl, accepted, offends⟩
    exact importRecords_of_offends accepted offends store

theorem Stops.cons {record : Record} {passed : Nat} {cause : KeyError}
    (stops : Stops mask passed container cause)
    (admitted : record.data.Fits ∧ record.Accepted mask) :
    Stops mask (passed + 1) (record.bytes ++ container) cause := by
  obtain ⟨records, rest, rfl, rfl, accepted, offends⟩ := stops
  exact ⟨record :: records, rest, rfl, (List.append_assoc ..).symm,
    List.forall_mem_cons.2 ⟨admitted, accepted⟩, offends⟩

/-- An import passes the records at the front of a container, or it stops before their end. -/
theorem accepted_or_stops {records : List Record} (fits : ∀ record ∈ records, record.data.Fits)
    (rest : Bytes) :
    (∀ record ∈ records, record.Accepted mask) ∨
      ∃ passed < records.length, ∃ cause, Stops mask passed (Record.join records ++ rest) cause := by
  induction records with
  | nil => exact .inl (by simp)
  | cons record later inductionHypothesis =>
      rw [List.forall_mem_cons] at fits
      rw [Record.join_cons, List.append_assoc]
      by_cases accepted : record.Accepted mask
      · rcases inductionHypothesis fits.2 with all | ⟨passed, before, cause, stops⟩
        · exact .inl (List.forall_mem_cons.2 ⟨accepted, all⟩)
        · exact .inr ⟨passed + 1, Nat.succ_lt_succ before, cause, stops.cons ⟨fits.1, accepted⟩⟩
      · obtain ⟨cause, offends⟩ := exists_offends fits.1 accepted (Record.join later ++ rest)
        exact .inr ⟨0, Nat.succ_pos _, cause, [], _, rfl, rfl, by simp, offends⟩

namespace Stops

variable {passed before : Nat} {cause other : KeyError}

/-- An import for fewer keys does not stop earlier. -/
theorem le_of_sub (stops : Stops part before container other)
    (sub : ∀ id, part.has id = true → whole.has id = true)
    (stopsWhole : Stops whole passed container cause) : passed ≤ before := by
  obtain ⟨records, rest, rfl, rfl, accepted, -⟩ := stopsWhole
  obtain ⟨own, ownRest, rfl, same, ownAccepted, offends⟩ := stops
  by_contra less
  obtain ⟨between, rfl, rfl⟩ := Record.exists_append_of_join (fun record member =>
    (ownAccepted record member).1) (fun record member => (accepted record member).1) same.symm
    (Nat.le_of_not_le less)
  cases between with
  | nil => simp at less
  | cons record later =>
      obtain ⟨fits, admitted⟩ := accepted record (by simp)
      rw [Record.join_cons, List.append_assoc] at offends
      exact offends.not_accepted fits (admitted.mono sub)

/-- An import stops at one place for one cause. -/
theorem unique (one : Stops mask passed container cause)
    (two : Stops mask before container other) : passed = before ∧ cause = other := by
  constructor
  · exact Nat.le_antisymm (two.le_of_sub (fun _ => id) one) (one.le_of_sub (fun _ => id) two)
  · have failed : (importContainer container mask).Fails .empty cause :=
      fails_iff_stops.2 ⟨_, one⟩
    rw [Op.Fails, fails_iff_stops.2 ⟨_, two⟩] at failed
    exact (Except.error.inj failed).symm

/-- If an import for other keys does not stop earlier, neither does one for all of them. -/
theorem union (stops : Stops first passed container cause)
    (later : ∀ earlier < passed, ∀ other, ¬ Stops second earlier container other) :
    Stops (first ∪ second) passed container cause := by
  obtain ⟨records, rest, rfl, rfl, accepted, offends⟩ := stops
  rcases accepted_or_stops (fun record member => (accepted record member).1) rest with
    all | ⟨earlier, before, other, stopsBefore⟩
  · refine ⟨records, rest, rfl, rfl, fun record member => ?_, offends.union_left⟩
    obtain ⟨fits, one⟩ := accepted record member
    exact ⟨fits, Record.accepted_union.2 ⟨one, all record member⟩⟩
  · exact absurd stopsBefore (later earlier before other)

/-- Where two imports stop at the same record, they stop for the same cause. -/
theorem cause_eq (one : Stops first passed container cause)
    (two : Stops second passed container other) : cause = other := by
  have atOnce := one.union fun earlier before _ stops => by
    rw [(stops.unique two).1] at before
    exact before.false
  have turned := two.union fun earlier before _ stops => by
    rw [(stops.unique one).1] at before
    exact before.false
  rw [KeyMask.union_comm] at turned
  exact (atOnce.unique turned).2

end Stops

/-- Of the imports for the keys of two masks the one that stops first says where an import for all
of them stops. -/
theorem stops_union {passed : Nat} {cause : KeyError} :
    Stops (first ∪ second) passed container cause ↔
      (Stops first passed container cause ∧
        ∀ earlier < passed, ∀ other, ¬ Stops second earlier container other) ∨
      (Stops second passed container cause ∧
        ∀ earlier < passed, ∀ other, ¬ Stops first earlier container other) := by
  constructor
  · intro atOnce
    -- Neither of the two stops earlier than the import for both.
    have later (one : KeyMask) (sub : ∀ id, one.has id = true → (first ∪ second).has id = true)
        (earlier : Nat) (before : earlier < passed) (other : KeyError) :
        ¬ Stops one earlier container other :=
      fun stops => Nat.not_le_of_lt before (stops.le_of_sub sub atOnce)
    have laterFirst := later first fun _ held => KeyMask.has_union_left held second
    have laterSecond := later second fun _ held => KeyMask.has_union_right held first
    obtain ⟨records, rest, length, whole, accepted, offends⟩ := atOnce
    have both (record : Record) (member : record ∈ records) :=
      Record.accepted_union.1 (accepted record member).2
    rcases offends.of_union with one | two
    · refine .inl ⟨⟨records, rest, length, whole, fun record member => ?_, one⟩, laterSecond⟩
      exact ⟨(accepted record member).1, (both record member).1⟩
    · refine .inr ⟨⟨records, rest, length, whole, fun record member => ?_, two⟩, laterFirst⟩
      exact ⟨(accepted record member).1, (both record member).2⟩
  · rintro (⟨one, later⟩ | ⟨two, later⟩)
    · exact one.union later
    · rw [KeyMask.union_comm]
      exact two.union later

/-- An import for the keys of two masks succeeds if those for the keys of each do, and leaves the
store that these leave one after the other.  It fails at the record and for the cause of that one
of the two that fails earlier; where both fail at the same record, they fail for the same cause.
So what can be imported for some keys can be imported for fewer of them, and bits of no key make no
difference. -/
theorem importContainer_union (container : Bytes) (first second : KeyMask) (store : Store) :
    ((importContainer container (first ∪ second) store).result = .ok () ↔
      (importContainer container first store).result = .ok () ∧
        (importContainer container second store).result = .ok ()) ∧
    (∀ after, (importContainer container (first ∪ second)).Yields store () after ↔
      (importContainer container first >>= fun _ => importContainer container second).Yields
        store () after) ∧
    (∀ mask cause, (importContainer container mask store).result = .error cause ↔
      ∃ passed, Stops mask passed container cause) ∧
    (∀ passed cause, Stops (first ∪ second) passed container cause ↔
      (Stops first passed container cause ∧
        ∀ earlier < passed, ∀ other, ¬ Stops second earlier container other) ∨
      (Stops second passed container cause ∧
        ∀ earlier < passed, ∀ other, ¬ Stops first earlier container other)) ∧
    (∀ passed cause other, Stops first passed container cause →
      Stops second passed container other → cause = other) ∧
    (∀ part, first.contains part = true → (importContainer container first store).result = .ok () →
      (importContainer container part store).result = .ok ()) ∧
    ∀ other, (∀ id, other.has id = first.has id) →
      importContainer container other = importContainer container first := by
  refine ⟨importContainer_union_eq_ok, fun _ => yields_importContainer_union,
    fun _ _ => fails_iff_stops, fun _ _ => stops_union, fun _ _ _ one two => one.cause_eq two, ?_,
    fun other same => importContainer_congr same container⟩
  intro part within done
  obtain ⟨records, madeOf, accepted⟩ := importContainer_eq_ok.1 done
  refine importContainer_eq_ok.2 ⟨records, madeOf, fun record member => ?_⟩
  exact (accepted record member).mono fun id => KeyMask.has_of_contains within

end Keyring.Store
