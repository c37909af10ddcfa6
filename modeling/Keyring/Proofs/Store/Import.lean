/-
Module: Keyring.Proofs.Store.Import
Purpose: What an import accepts and what it leaves behind.  A container is accepted if it is made of
  records that the mask admits; then every slot that the mask asks for holds the key of the last
  record that fills it, and all other slots are as before.
Main exports: Record.Accepted, Record.accepted_union, Store.Installed, Store.install_of_isData,
  Store.Installed.union, Store.importRecords_join, Store.exists_madeOf_of_yields,
  Store.importContainer_of_madeOf, Store.importContainer_eq_ok, Store.importContainer_iff
-/
import Keyring.Proofs.Container
import Keyring.Proofs.KeyMask
import Keyring.Proofs.Store.Keys

namespace Keyring

/-- The record may stand in a container that is read under the mask: its type byte belongs to a
record, and its data are those of a key if the mask selects it. -/
def Record.Accepted (mask : KeyMask) (record : Record) : Prop :=
  ∃ id, KeyId.ofRecordType? record.code = some id ∧
    (mask.selects id = true → id.kind.Admits record.data)

/-- Accepted records by their type bytes and their data. -/
theorem Record.accepted_iff {mask : KeyMask} {record : Record} :
    record.Accepted mask ↔
      (record.code ≤ 7 ∨ 9 ≤ record.code ∧ record.code ≤ 12) ∧
        ∀ id : KeyId, id.code = record.code → mask.selects id = true →
          id.kind.Admits record.data := by
  constructor
  · rintro ⟨id, typed, admitted⟩
    refine ⟨KeyId.exists_ofRecordType?_iff.1 ⟨id, typed⟩, ?_⟩
    intro other same
    have own := (KeyId.ofRecordType?_eq_some.1 typed).1
    rw [KeyId.code_injective (same.trans own.symm)]
    exact admitted
  · rintro ⟨range, admitted⟩
    obtain ⟨id, typed⟩ := KeyId.exists_ofRecordType?_iff.2 range
    exact ⟨id, typed, admitted id (KeyId.ofRecordType?_eq_some.1 typed).1⟩

/-- A record that may stand in a container for some keys may stand in it for fewer. -/
theorem Record.Accepted.mono {part whole : KeyMask} {record : Record}
    (accepted : record.Accepted whole)
    (sub : ∀ id, part.has id = true → whole.has id = true) : record.Accepted part := by
  obtain ⟨id, typed, admitted⟩ := accepted
  exact ⟨id, typed, fun selected => admitted (KeyMask.selects_mono sub selected)⟩

/-- What a record has to be for the keys of two masks, it has to be for those of each. -/
theorem Record.accepted_union {first second : KeyMask} {record : Record} :
    record.Accepted (first ∪ second) ↔ record.Accepted first ∧ record.Accepted second := by
  constructor
  · intro both
    exact ⟨both.mono fun _ held => KeyMask.has_union_left held second,
      both.mono fun _ held => KeyMask.has_union_right held first⟩
  · rintro ⟨⟨id, typed, one⟩, other, sameTyped, two⟩
    obtain rfl : id = other := Option.some.inj (typed.symm.trans sameTyped)
    refine ⟨id, typed, fun selected => ?_⟩
    rw [KeyMask.selects_union, Bool.or_eq_true] at selected
    exact selected.elim one two

namespace Store

/-- What the records of a container make of a store under a mask. -/
structure Installed (mask : KeyMask) (records : List Record) (before after : Store) : Prop where
  /-- A slot that is asked for holds the key of the last record that fills it. -/
  read : ∀ id record, mask.has id = true →
    Record.last? id.source.code records = some record →
      ∃ key, Key.IsData id.source record.data key ∧ after.key? id = some key
  /-- A slot that is not asked for, or that no record fills, is as before. -/
  kept : ∀ id, (mask.has id = true → Record.last? id.source.code records = none) →
    after.key? id = before.key? id

variable {mask : KeyMask} {id : KeyId} {data : Bytes} {key : Key}

/-! ## One record -/

theorem importReported_of_isData (isData : Key.IsData id data key) (store : Store) :
    importReported id data store =
      ⟨.ok (), store.put id key, key.imported ++ [.importedKey id]⟩ := by
  rw [importReported, Op.bind_ok (importKey_of_isData isData store)]
  rfl

theorem importReported_refused (bad : ¬ ∃ key, Key.IsData id data key) (store : Store) :
    ∃ cause, (importReported id data).Fails store cause := by
  obtain ⟨cause, log, refused⟩ := importKey_refused bad
  refine ⟨cause, ?_⟩
  rw [Op.Fails, importReported, Op.bind_error (refused store)]

/-- Whether the data of a record also go into the slot of the file write HMAC. -/
def isCopied (mask : KeyMask) (id : KeyId) : Bool :=
  id == .hmac .file && mask.has (.hmac .fileWrite)

theorem isCopied_eq_true :
    isCopied mask id = true ↔ id = .hmac .file ∧ mask.has (.hmac .fileWrite) = true := by
  simp [isCopied]

theorem selects_eq (mask : KeyMask) (id : KeyId) :
    mask.selects id = (mask.has id || isCopied mask id) := rfl

theorem install_eq (mask : KeyMask) (id : KeyId) (data : Bytes) :
    install mask id data =
      Op.when (mask.has id) (importReported id data) >>= fun _ =>
        Op.when (isCopied mask id) (importReported (.hmac .fileWrite) data) := rfl

/-- The store with the key of a record put into the slots that the mask asks for. -/
def fill (store : Store) (mask : KeyMask) (id : KeyId) (key : Key) : Store :=
  let own := if mask.has id then store.put id key else store
  if isCopied mask id then own.put (.hmac .fileWrite) key else own

/-- What the installation of a record reports. -/
def filled (mask : KeyMask) (id : KeyId) (key : Key) : List Event :=
  (if mask.has id then key.imported ++ [.importedKey id] else []) ++
    if isCopied mask id then key.imported ++ [.importedKey (.hmac .fileWrite)] else []

/-- The data of a file HMAC are data of a file write HMAC as well. -/
theorem isData_copy (isData : Key.IsData id data key) (copied : isCopied mask id = true) :
    Key.IsData (.hmac .fileWrite) data key := by
  obtain ⟨rfl, -⟩ := isCopied_eq_true.1 copied
  cases isData with
  | hmac same => exact .hmac same

theorem install_of_isData (isData : Key.IsData id data key) (mask : KeyMask) (store : Store) :
    install mask id data store = ⟨.ok (), store.fill mask id key, filled mask id key⟩ := by
  have own : Op.when (mask.has id) (importReported id data) store =
      ⟨.ok (), if mask.has id then store.put id key else store,
        if mask.has id then key.imported ++ [.importedKey id] else []⟩ := by
    cases mask.has id with
    | true => exact importReported_of_isData isData store
    | false => rfl
  have copy (between : Store) :
      Op.when (isCopied mask id) (importReported (.hmac .fileWrite) data) between =
        ⟨.ok (), if isCopied mask id then between.put (.hmac .fileWrite) key else between,
          if isCopied mask id then key.imported ++ [.importedKey (.hmac .fileWrite)] else []⟩ := by
    cases copied : isCopied mask id with
    | true => exact importReported_of_isData (isData_copy isData copied) between
    | false => rfl
  rw [install_eq, Op.bind_ok own, copy]
  rfl

/-- The key of a record is in every slot that the mask asks for and that the record is for. -/
theorem key?_fill (isData : Key.IsData id data key) (other : id ≠ .hmac .fileWrite)
    (mask : KeyMask) (store : Store) (slot : KeyId) :
    (store.fill mask id key).key? slot =
      if mask.has slot = true ∧ slot.source = id then some key else store.key? slot := by
  have own : (if mask.has id then store.put id key else store).key? slot =
      if mask.has id = true ∧ slot = id then some key else store.key? slot := by
    cases mask.has id with
    | true => simp [key?_put isData]
    | false => simp
  have copy (between : Store) :
      (if isCopied mask id then between.put (.hmac .fileWrite) key else between).key? slot =
        if isCopied mask id = true ∧ slot = .hmac .fileWrite then some key
        else between.key? slot := by
    cases copied : isCopied mask id with
    | true => simp [key?_put (isData_copy isData copied)]
    | false => simp
  rw [fill, copy, own]
  simp only [isCopied_eq_true]
  by_cases written : slot = .hmac .fileWrite
  · subst written
    simp only [Ne.symm other, and_true, and_false, if_false]
    exact if_congr ⟨fun both => ⟨both.2, both.1.symm⟩, fun both => ⟨both.2.symm, both.1⟩⟩ rfl rfl
  · simp only [KeyId.source_eq_self written, written, and_false, if_false]
    refine if_congr (and_congr_left fun same => ?_) rfl rfl
    rw [same]

/-- A record that the mask does not select is passed over. -/
theorem install_unselected (skipped : mask.selects id = false) (data : Bytes) (store : Store) :
    install mask id data store = ⟨.ok (), store, []⟩ := by
  rw [selects_eq, Bool.or_eq_false_iff] at skipped
  rw [install_eq, skipped.1, skipped.2]
  rfl

/-- The data of a record that the mask selects have to be those of a key. -/
theorem install_refused (selected : mask.selects id = true)
    (bad : ¬ ∃ key, Key.IsData id data key) (store : Store) :
    ∃ cause, (install mask id data).Fails store cause := by
  rw [install_eq]
  cases asked : mask.has id with
  | true =>
      obtain ⟨cause, failed⟩ := importReported_refused bad store
      exact ⟨cause, Op.fails_bind.2 (.inl failed)⟩
  | false =>
      rw [selects_eq, asked, Bool.false_or] at selected
      have badCopy : ¬ ∃ key, Key.IsData (.hmac .fileWrite) data key := by
        obtain ⟨rfl, -⟩ := isCopied_eq_true.1 selected
        rw [Key.exists_isData_iff] at bad ⊢
        exact bad
      obtain ⟨cause, failed⟩ := importReported_refused badCopy store
      rw [selected]
      exact ⟨cause, failed⟩

/-- What was installed, was admitted. -/
theorem accepted_of_yields_install {record : Record} {store after : Store}
    (typed : KeyId.ofRecordType? record.code = some id)
    (installed : (install mask id record.data).Yields store () after) : record.Accepted mask := by
  refine ⟨id, typed, fun selected => ?_⟩
  rw [← Key.exists_isData_iff]
  by_contra bad
  obtain ⟨cause, failed⟩ := install_refused selected bad store
  rw [Op.Fails, installed.1] at failed
  cases failed

namespace Installed

variable {before between after : Store}

theorem refl (mask : KeyMask) (store : Store) : Installed mask [] store store where
  read _ _ _ found := by cases found
  kept _ _ := rfl

/-- What later records install counts, and what only earlier ones install stays. -/
theorem trans {first later : List Record} (one : Installed mask first before between)
    (two : Installed mask later between after) : Installed mask (first ++ later) before after where
  read slot record asked found := by
    rw [Record.last?_append] at found
    cases behind : Record.last? slot.source.code later with
    | some last =>
        rw [behind, Option.some_or] at found
        cases found
        exact two.read slot record asked behind
    | none =>
        rw [behind, Option.none_or] at found
        obtain ⟨key, isData, held⟩ := one.read slot record asked found
        exact ⟨key, isData, (two.kept slot fun _ => behind).trans held⟩
  kept slot unfilled := by
    simp only [Record.last?_append, Option.or_eq_none_iff] at unfilled
    calc
      after.key? slot = between.key? slot := two.kept slot fun asked => (unfilled asked).1
      _ = before.key? slot := one.kept slot fun asked => (unfilled asked).2

/-- What the records make of a store is settled. -/
theorem unique {records : List Record} {other : Store} (one : Installed mask records before after)
    (two : Installed mask records before other) : after = other := by
  apply ext_key?
  intro slot
  by_cases filled : mask.has slot = true → Record.last? slot.source.code records = none
  · rw [one.kept slot filled, two.kept slot filled]
  · push Not at filled
    obtain ⟨asked, some⟩ := filled
    obtain ⟨record, found⟩ := Option.ne_none_iff_exists'.1 some
    obtain ⟨key, isData, held⟩ := one.read slot record asked found
    obtain ⟨same, sameData, sameHeld⟩ := two.read slot record asked found
    rw [held, sameHeld, isData.unique sameData]

/-- Records that are installed for the keys of one mask and then for those of another are installed
for the keys of both. -/
theorem union {records : List Record} {first second : KeyMask}
    (one : Installed first records before between) (two : Installed second records between after) :
    Installed (first ∪ second) records before after where
  read slot record asked found := by
    rw [KeyMask.has_union, Bool.or_eq_true] at asked
    by_cases again : second.has slot = true
    · exact two.read slot record again found
    · obtain ⟨key, isData, held⟩ := one.read slot record (asked.resolve_right again) found
      exact ⟨key, isData, (two.kept slot fun asked => absurd asked again).trans held⟩
  kept slot unfilled := by
    rw [KeyMask.has_union, Bool.or_eq_true] at unfilled
    calc
      after.key? slot = between.key? slot := two.kept slot fun asked => unfilled (.inr asked)
      _ = before.key? slot := one.kept slot fun asked => unfilled (.inl asked)

/-- What one record installs. -/
theorem of_record {record : Record} (typed : KeyId.ofRecordType? record.code = some id)
    (accepted : mask.selects id = true → id.kind.Admits record.data) (store : Store) :
    ∃ after log, install mask id record.data store = ⟨.ok (), after, log⟩ ∧
      Installed mask [record] store after := by
  obtain ⟨code, own⟩ := KeyId.ofRecordType?_eq_some.1 typed
  -- The record is for the slots whose source is its own key.
  have found (slot : KeyId) : Record.last? slot.source.code [record] =
      if slot.source = id then some record else none := by
    rw [Record.last?_singleton, ← code]
    exact if_congr ⟨fun same => KeyId.code_injective same.symm, fun same => by rw [same]⟩ rfl rfl
  cases selected : mask.selects id with
  | true =>
      obtain ⟨key, isData⟩ := Key.exists_isData_iff.2 (accepted selected)
      have keys := key?_fill isData own mask store
      refine ⟨_, _, install_of_isData isData mask store, ?_, ?_⟩
      · intro slot other asked filled
        rw [found] at filled
        split at filled
        · next same =>
            cases filled
            refine ⟨key, same ▸ isData, ?_⟩
            rw [keys, if_pos ⟨asked, same⟩]
        · cases filled
      · intro slot unfilled
        rw [keys, if_neg]
        rintro ⟨asked, same⟩
        have none := unfilled asked
        rw [found, if_pos same] at none
        cases none
  | false =>
      refine ⟨store, [], install_unselected selected record.data store, ?_, fun _ _ => rfl⟩
      intro slot other asked filled
      rw [found] at filled
      split at filled
      · next same =>
          have wanted := KeyMask.selects_source asked
          rw [same, selected] at wanted
          cases wanted
      · cases filled

end Installed

/-! ## A whole container -/

theorem importRecords_nil (mask : KeyMask) : importRecords mask [] = pure () := by
  rw [importRecords]
  rfl

theorem importRecords_bytes (mask : KeyMask) {record : Record} (fits : record.data.Fits)
    (behind : Bytes) :
    importRecords mask (record.bytes ++ behind) =
      match KeyId.ofRecordType? record.code with
      | none => Op.reject (.unknownType record.code) (.format (.unknownType record.code))
      | some id => install mask id record.data >>= fun _ => importRecords mask behind := by
  have cut := Record.next?_bytes fits behind
  rw [importRecords, if_neg (by simp [Record.bytes])]
  split
  · next cause broken => simp [cut] at broken
  · next found rest whole =>
      rw [cut] at whole
      cases whole
      rfl

theorem importRecords_broken (mask : KeyMask) {container : Bytes} {cause : KeyError}
    (more : container ≠ []) (broken : Record.next? container = .error cause) :
    importRecords mask container = Op.reject (.dataEnds .store) cause := by
  rw [importRecords, if_neg (by simpa using more)]
  split
  · next other found =>
      rw [broken] at found
      cases found
      rfl
  · next whole => simp [broken] at whole

/-- A container made of accepted records is read to its end. -/
theorem importRecords_join {records : List Record}
    (fits : ∀ record ∈ records, record.data.Fits)
    (accepted : ∀ record ∈ records, record.Accepted mask) (store : Store) :
    ∃ after log, importRecords mask (Record.join records) store = ⟨.ok (), after, log⟩ ∧
      Installed mask records store after := by
  induction records generalizing store with
  | nil =>
      rw [Record.join_nil, importRecords_nil]
      exact ⟨store, [], rfl, .refl mask store⟩
  | cons record rest inductionHypothesis =>
      rw [List.forall_mem_cons] at fits accepted
      obtain ⟨id, typed, admitted⟩ := accepted.1
      obtain ⟨between, first, firstRun, one⟩ := Installed.of_record typed admitted store
      obtain ⟨after, later, laterRun, two⟩ := inductionHypothesis fits.2 accepted.2 between
      refine ⟨after, first ++ later, ?_, one.trans two⟩
      rw [Record.join_cons, importRecords_bytes mask fits.1, typed]
      dsimp only
      rw [Op.bind_ok firstRun, laterRun]

/-- A container that is read to its end is made of accepted records. -/
theorem exists_madeOf_of_yields {container : Bytes} {store after : Store}
    (done : (importRecords mask container).Yields store () after) :
    ∃ records, Record.MadeOf container records ∧ ∀ record ∈ records, record.Accepted mask := by
  induction container using Record.container_induction generalizing store with
  | nil => exact ⟨[], ⟨by simp, rfl⟩, by simp⟩
  | broken container cause more broken =>
      rw [importRecords_broken mask more broken] at done
      exact absurd done Op.not_yields_reject
  | record record behind fits inductionHypothesis =>
      rw [importRecords_bytes mask fits] at done
      cases typed : KeyId.ofRecordType? record.code with
      | none =>
          rw [typed] at done
          exact absurd done Op.not_yields_reject
      | some id =>
          rw [typed] at done
          obtain ⟨_, between, installed, rest⟩ := Op.yields_bind.1 done
          obtain ⟨records, ⟨fitting, rfl⟩, accepted⟩ := inductionHypothesis rest
          exact ⟨record :: records, ⟨List.forall_mem_cons.2 ⟨fits, fitting⟩, rfl⟩,
            List.forall_mem_cons.2 ⟨accepted_of_yields_install typed installed, accepted⟩⟩

/-- An import of accepted records succeeds and installs them. -/
theorem importContainer_of_madeOf {container : Bytes} {records : List Record}
    (madeOf : Record.MadeOf container records)
    (accepted : ∀ record ∈ records, record.Accepted mask) (store : Store) :
    ∃ after, (importContainer container mask).Yields store () after ∧
      Installed mask records store after := by
  rcases madeOf with ⟨fits, rfl⟩
  obtain ⟨after, log, run, installed⟩ := importRecords_join fits accepted store
  refine ⟨after, Op.yields_allOrNothing.2 ?_, installed⟩
  rw [Op.Yields, run]
  exact ⟨rfl, rfl⟩

/-- Whether an import succeeds does not depend on the store. -/
theorem importContainer_eq_ok {container : Bytes} {store : Store} :
    (importContainer container mask store).result = .ok () ↔
      ∃ records, Record.MadeOf container records ∧ ∀ record ∈ records, record.Accepted mask := by
  constructor
  · intro done
    exact exists_madeOf_of_yields (Op.yields_allOrNothing.1 (Op.yields_of_result done))
  · rintro ⟨records, madeOf, accepted⟩
    obtain ⟨after, done, -⟩ := importContainer_of_madeOf madeOf accepted store
    exact done.1

/-- An import succeeds exactly on a container made of records, which are then the only ones, whose
type bytes are those of records and whose data, where the mask selects them, are those of a key;
and it installs the last record of each type. -/
theorem importContainer_iff (store : Store) (container : Bytes) (mask : KeyMask) :
    ((importContainer container mask store).result = .ok () ↔
      ∃ records, Record.MadeOf container records ∧
        ∀ record ∈ records,
          (record.code ≤ 7 ∨ 9 ≤ record.code ∧ record.code ≤ 12) ∧
            ∀ id : KeyId, id.code = record.code → mask.selects id = true →
              id.kind.Admits record.data) ∧
    (∀ first second, Record.MadeOf container first → Record.MadeOf container second →
      first = second) ∧
    ∀ records, Record.MadeOf container records →
      (importContainer container mask store).result = .ok () →
        Installed mask records store (importContainer container mask store).state := by
  have grammar {after : Store} (done : (importContainer container mask).Yields store () after) :=
    exists_madeOf_of_yields (Op.yields_allOrNothing.1 done)
  simp only [← Record.accepted_iff]
  refine ⟨⟨fun done => grammar (Op.yields_of_result done), ?_⟩,
    fun _ _ one two => one.unique two, ?_⟩
  · rintro ⟨records, madeOf, accepted⟩
    obtain ⟨after, done, -⟩ := importContainer_of_madeOf madeOf accepted store
    exact done.1
  · intro records madeOf done
    obtain ⟨others, otherMadeOf, accepted⟩ := grammar (Op.yields_of_result done)
    obtain ⟨after, otherDone, installed⟩ := importContainer_of_madeOf otherMadeOf accepted store
    rw [otherDone.2, madeOf.unique otherMadeOf]
    exact installed

end Store

end Keyring
