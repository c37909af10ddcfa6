/-
Module: Keyring.Proofs.Store.Canonical
Purpose: What the records that were read into an empty store give when they are written again.  Of
  each type the last record counts, and its numbers lose their high zero bytes; so what is written
  does not become longer, is the same as what was read only if there was nothing to drop, and is
  written in the same form from then on.
Main exports: Key.Canonical, Key.canonical_iff, Record.Provides, Store.Excerpt,
  Installed.data?_eq_some, Installed.export_eq_ok, Store.length_join_le, Store.records_eq_iff,
  Store.heldMask, Store.exportContainer_importContainer
-/
import Keyring.Proofs.Store.RoundTrip
import Keyring.Proofs.Uint.Trimmed

namespace Keyring

open LittleEndian

/-! ## The data of one record -/

/-- The data of a record, and the data that are written for the key that they stand for: magnitudes
lose their high zero bytes, and the data of an HMAC key stay. -/
inductive Key.Canonical : KeyId → Bytes → Bytes → Prop where
  | rsa {id : RsaKeyId} {magnitudes : List Bytes}
      (count : magnitudes.length = id.half.numberCount)
      (fits : ∀ magnitude ∈ magnitudes, magnitude.Fits) :
      Canonical (.rsa id) (Uint.frames magnitudes) (Uint.frames (magnitudes.map Bytes.trimmed))
  | hmac {id : HmacKeyId} {data : Bytes} (enough : data.length = 32) :
      Canonical (.hmac id) data data

namespace Key

variable {id : KeyId} {data written : Bytes}

/-- The numbers of a key are written as the trimmed magnitudes that they were read from. -/
theorem data?_rsa {id : RsaKeyId} {magnitudes : List Bytes} {key : RsaKey}
    (made : Rsa.keyOfNumbers? id.half (magnitudes.map value) = some key) :
    Key.data? (.rsa id) (.rsa key) = some (Uint.frames (magnitudes.map Bytes.trimmed)) := by
  have trimmed : (magnitudes.map value).map magnitude = magnitudes.map Bytes.trimmed := by
    rw [List.map_map]
    exact List.map_congr_left fun bytes _ => magnitude_value bytes
  rw [Key.data?, (Rsa.keyOfNumbers?_eq_some.1 made).2, ← trimmed, ← Uint.join_eq_frames]
  rfl

/-- The canonical data are what is written for the key that was read. -/
theorem canonical_iff :
    Canonical id data written ↔
      ∃ key, IsData id data key ∧ Key.data? id key = some written := by
  constructor
  · intro canonical
    cases canonical with
    | rsa count fits =>
        obtain ⟨key, made⟩ := Rsa.exists_keyOfNumbers? ((List.length_map value).trans count)
        exact ⟨.rsa key, .rsa ⟨_, fits, rfl, made⟩, data?_rsa made⟩
    | hmac enough => exact ⟨.hmac ⟨data, enough⟩, .hmac rfl, rfl⟩
  · rintro ⟨key, isData, found⟩
    cases isData with
    | rsa isBlob =>
        obtain ⟨magnitudes, fits, rfl, made⟩ := isBlob
        rw [data?_rsa made] at found
        cases found
        have count := Rsa.length_of_keyOfNumbers? made
        rw [List.length_map] at count
        exact .rsa count fits
    | @hmac _ _ key same =>
        cases found
        subst same
        exact .hmac key.length_bytes

namespace Canonical

theorem unique {other : Bytes} (one : Canonical id data written) (two : Canonical id data other) :
    written = other := by
  obtain ⟨key, isData, found⟩ := canonical_iff.1 one
  obtain ⟨same, otherData, otherFound⟩ := canonical_iff.1 two
  obtain rfl := isData.unique otherData
  exact Option.some.inj (found.symm.trans otherFound)

theorem length_le (canonical : Canonical id data written) : written.length ≤ data.length := by
  cases canonical with
  | rsa => exact Uint.length_frames_trimmed_le _
  | hmac => exact Nat.le_refl _

/-- The data of an RSA key stay if they are the shortest for their numbers. -/
theorem eq_iff (canonical : Canonical id data written) :
    written = data ↔ ∀ own, id = .rsa own → Uint.Shortest data := by
  cases canonical with
  | @rsa own magnitudes count fits =>
      rw [Uint.frames_trimmed_eq_iff fits]
      exact ⟨fun shortest _ _ => shortest, fun shortest => shortest own rfl⟩
  | hmac => simp

/-- What was written is written in the same way again. -/
theorem again (canonical : Canonical id data written) : Canonical id written written := by
  cases canonical with
  | @rsa own magnitudes count fits =>
      have trimmed : (magnitudes.map Bytes.trimmed).map Bytes.trimmed =
          magnitudes.map Bytes.trimmed := by
        rw [List.map_map]
        exact List.map_congr_left fun magnitude _ => magnitude.trimmed_trimmed
      have written : Canonical (.rsa own) (Uint.frames (magnitudes.map Bytes.trimmed)) _ :=
        .rsa ((List.length_map _).trans count) (List.forall_mem_map.2 fun magnitude member =>
          Nat.lt_of_le_of_lt magnitude.trimmed_length_le (fits magnitude member))
      rwa [trimmed] at written
  | hmac enough => exact .hmac enough

/-- What was written is data that the kind of the key admits. -/
theorem admits (canonical : Canonical id data written) : id.kind.Admits written := by
  obtain ⟨key, isData, -⟩ := canonical_iff.1 canonical.again
  exact exists_isData_iff.1 ⟨key, isData⟩

end Canonical

end Key

/-! ## The data for one key in a list of records -/

/-- What the records hold for a key: the data of the last record of its type in canonical form. -/
def Record.Provides (records : List Record) (id : KeyId) (written : Bytes) : Prop :=
  ∃ record, Record.last? id.code records = some record ∧ Key.Canonical id record.data written

theorem Record.Provides.unique {records : List Record} {id : KeyId} {written other : Bytes}
    (one : Provides records id written) (two : Provides records id other) : written = other := by
  obtain ⟨record, last, canonical⟩ := one
  obtain ⟨same, otherLast, otherCanonical⟩ := two
  cases last.symm.trans otherLast
  exact canonical.unique otherCanonical

namespace Store

variable {σ : Type} {store : Store} {mask wanted : KeyMask} {list : List Record} {id : KeyId}
  {ids : List KeyId} {blob : KeyId → Bytes}

/-- The container has one record for each key of the mask, in ascending order, and each has the data
that the records of a list provide for its key. -/
def Excerpt (mask : KeyMask) (list : List Record) (container : Bytes) : Prop :=
  ∃ blob, (∀ id ∈ mask.ids, Record.Provides list id (blob id)) ∧
    container = Record.join (records mask.ids blob)

theorem Excerpt.unique {container other : Bytes} (one : Excerpt mask list container)
    (two : Excerpt mask list other) : container = other := by
  obtain ⟨blob, provided, rfl⟩ := one
  obtain ⟨data, otherProvided, rfl⟩ := two
  refine congrArg Record.join (List.map_congr_left fun id listed => ?_)
  rw [(provided id listed).unique (otherProvided id listed)]

theorem key?_empty (id : KeyId) : Store.empty.key? id = none := by
  rcases id with id | id <;> cases id <;> rfl

namespace Installed

/-- An empty store gets what was asked for and is in the records. -/
theorem has_iff (installed : Installed mask list .empty store) :
    store.has id = true ↔
      mask.has id = true ∧ ∃ record, Record.last? id.source.code list = some record := by
  rw [has_eq_isSome]
  constructor
  · intro held
    by_contra missing
    have unfilled : mask.has id = true → Record.last? id.source.code list = none := by
      intro asked
      apply Option.eq_none_iff_forall_ne_some.2
      intro record found
      exact missing ⟨asked, record, found⟩
    rw [installed.kept id unfilled, key?_empty] at held
    cases held
  · rintro ⟨asked, record, found⟩
    obtain ⟨key, -, held⟩ := installed.read id record asked found
    rw [held]
    rfl

/-- What can be written for a key that was asked for is what the records provide. -/
theorem data?_eq_some (installed : Installed mask list .empty store) (asked : mask.has id = true)
    (own : id ≠ .hmac .fileWrite) {written : Bytes} :
    store.data? id = some written ↔ Record.Provides list id written := by
  have source := KeyId.source_eq_self own
  constructor
  · intro found
    obtain ⟨key, held, data⟩ := Store.data?_eq_some.1 found
    have has : store.has id = true := by
      rw [has_eq_isSome, held]
      rfl
    obtain ⟨-, record, last⟩ := installed.has_iff.1 has
    obtain ⟨other, isData, otherHeld⟩ := installed.read id record asked last
    rw [source] at last isData
    rw [held] at otherHeld
    cases otherHeld
    exact ⟨record, last, Key.canonical_iff.2 ⟨key, isData, data⟩⟩
  · rintro ⟨record, last, canonical⟩
    obtain ⟨key, isData, held⟩ := installed.read id record asked (source.symm ▸ last)
    rw [source] at isData
    obtain ⟨other, otherData, data⟩ := Key.canonical_iff.1 canonical
    obtain rfl := isData.unique otherData
    exact Store.data?_eq_some.2 ⟨key, held, data⟩

/-- The records provide something for each key that was asked for and is held. -/
theorem exists_provided (installed : Installed mask list .empty store) (sound : Sound store)
    (held : ∀ id ∈ ids, store.has id = true ∧ mask.has id = true ∧ id ≠ .hmac .fileWrite) :
    ∃ blob : KeyId → Bytes, ∀ id ∈ ids, Record.Provides list id (blob id) := by
  refine ⟨store.blob, ?_⟩
  intro id listed
  obtain ⟨own, asked, other⟩ := held id listed
  obtain ⟨data, found⟩ := sound.exists_data? own
  rw [blob_of_data? found]
  exact (installed.data?_eq_some asked other).1 found

/-- Keys for which the records provide something fit into a container if it is short enough. -/
theorem sized (installed : Installed mask list .empty store)
    (asked : ∀ id ∈ ids, mask.has id = true ∧ id ≠ .hmac .fileWrite)
    (provided : ∀ id ∈ ids, Record.Provides list id (blob id))
    (bound : (Record.join (records ids blob)).length ≤ Uint.maxTotal) :
    store.Sized ids blob (Record.join (records ids blob)).length where
  writes id listed := by
    obtain ⟨wanted, other⟩ := asked id listed
    apply writes_iff.2
    exact ⟨(installed.data?_eq_some wanted other).2 (provided id listed),
      (length_blob_le listed blob).trans bound⟩
  sum := by
    rw [Record.length_join, records, List.map_map]
    rfl
  bound := bound

/-- The keys of a mask that were asked for are exported as what the records provide for them, if
there is something for each and the container stays below the failure mark. -/
theorem export_eq_ok (installed : Installed mask list .empty store) (sound : Sound store)
    (part : ∀ id, wanted.has id = true → mask.has id = true) {outer : σ} {container : Bytes} :
    (exportContainer store wanted outer).result = .ok container ↔
      KeyMask.user.contains wanted = true ∧ Excerpt wanted list container ∧
        container.length ≤ Uint.maxTotal := by
  have own (allowed : KeyMask.user.contains wanted = true) {id : KeyId} (listed : id ∈ wanted.ids) :
      mask.has id = true ∧ id ≠ .hmac .fileWrite := by
    have asked := KeyMask.mem_ids.1 listed
    exact ⟨part id asked, KeyId.ne_fileWrite ((KeyMask.user_contains_iff.1 allowed).1 id asked)⟩
  constructor
  · intro exported
    obtain ⟨allowed, blob, total, sized, rfl⟩ := sound.exists_sized exported
    refine ⟨allowed, ⟨blob, ?_, rfl⟩, sized.length_join ▸ sized.bound⟩
    intro id listed
    obtain ⟨asked, other⟩ := own allowed listed
    exact (installed.data?_eq_some asked other).1 (sized.writes id listed).data
  · rintro ⟨allowed, ⟨blob, provided, rfl⟩, bound⟩
    have sized := installed.sized (fun id listed => own allowed listed) provided bound
    exact (yields_exportContainer allowed sized outer).1

end Installed

/-! ## A container that was read and written again -/

theorem ascending_records (mask : KeyMask) (blob : KeyId → Bytes) :
    Record.Ascending (records mask.ids blob) :=
  List.pairwise_map.2 mask.ids_ascending

/-- Records that are provided by others take no more bytes than these. -/
theorem length_join_le (ascending : Record.Ascending (records ids blob))
    (provided : ∀ id ∈ ids, Record.Provides list id (blob id)) :
    (Record.join (records ids blob)).length ≤ (Record.join list).length := by
  let source (id : KeyId) : Record := (Record.last? id.code list).getD ⟨id.code, []⟩
  have taken (id : KeyId) (listed : id ∈ ids) :
      source id ∈ list ∧ (source id).code = id.code ∧
        (blob id).length ≤ (source id).data.length := by
    obtain ⟨record, last, canonical⟩ := provided id listed
    have same : source id = record := congrArg (Option.getD · _) last
    obtain ⟨member, code⟩ := Record.mem_of_last? last
    exact same ▸ ⟨member, code, canonical.length_le⟩
  -- The records that are the last of their types are different, so they are a part of the list.
  have codes : (ids.map source).map Record.code = (records ids blob).map Record.code := by
    rw [records, List.map_map, List.map_map]
    exact List.map_congr_left fun id listed => (taken id listed).2.1
  have apart : (ids.map source).Nodup := (codes ▸ ascending.nodup_codes).of_map
  have part : ids.map source ⊆ list := by
    intro record member
    obtain ⟨id, listed, rfl⟩ := List.mem_map.1 member
    exact (taken id listed).1
  calc
    (Record.join (records ids blob)).length
      = (ids.map fun id => Record.headerSize + (blob id).length).sum := by
        rw [Record.length_join, records, List.map_map]
        rfl
    _ ≤ (ids.map fun id => Record.headerSize + (source id).data.length).sum :=
        List.sum_le_sum fun id listed => Nat.add_le_add_left (taken id listed).2.2 _
    _ = (Record.join (ids.map source)).length := by
        rw [Record.length_join, List.map_map]
        rfl
    _ ≤ (Record.join list).length := Record.length_join_le_of_subset apart part

/-- Records that are provided by others are the same as these if these are ascending, have no
record of the root key and no number with high zero bytes. -/
theorem records_eq_iff (ascending : Record.Ascending (records ids blob))
    (provided : ∀ id ∈ ids, Record.Provides list id (blob id))
    (noRoot : ∀ id ∈ ids, id.code ≠ 9)
    (covered : ∀ record ∈ list, record.code = 9 ∨ ∃ id ∈ ids, id.code = record.code) :
    records ids blob = list ↔
      Record.Ascending list ∧ ∀ record ∈ list, record.code ≠ 9 ∧
        ∀ id : RsaKeyId, id.code = record.code → Uint.Shortest record.data := by
  constructor
  · rintro rfl
    refine ⟨ascending, ?_⟩
    intro record member
    obtain ⟨id, listed, rfl⟩ := List.mem_map.1 member
    refine ⟨noRoot id listed, ?_⟩
    intro own code
    obtain ⟨other, last, canonical⟩ := provided id listed
    rw [last?_records, if_pos listed] at last
    cases last
    exact canonical.eq_iff.1 rfl own (KeyId.code_injective code.symm)
  · rintro ⟨order, kept⟩
    -- Each record is the last of its type, and its data are canonical as they are.
    have same (id : KeyId) (listed : id ∈ ids) :
        (⟨id.code, blob id⟩ : Record) ∈ list := by
      obtain ⟨record, last, canonical⟩ := provided id listed
      obtain ⟨member, code⟩ := Record.mem_of_last? last
      have data : blob id = record.data := by
        apply canonical.eq_iff.2
        rintro own rfl
        exact (kept record member).2 own code.symm
      rw [← code, data]
      exact member
    apply ascending.eq_of_subset order
    · intro record member
      obtain ⟨id, listed, rfl⟩ := List.mem_map.1 member
      exact same id listed
    · intro record member
      rcases covered record member with root | ⟨id, listed, code⟩
      · exact absurd root (kept record member).1
      · have own := order.last?_eq_self (same id listed)
        have other := order.last?_eq_self member
        rw [← code] at other
        cases own.symm.trans other
        exact List.mem_map.2 ⟨id, listed, rfl⟩

/-- The mask of the keys that a store holds. -/
def heldMask (store : Store) : KeyMask :=
  KeyMask.ofIds (KeyId.all.filter store.has)

theorem isOf_heldMask (store : Store) : store.heldMask.IsOf fun id => store.has id = true := by
  refine (KeyMask.isOf_ofIds _).congr fun id => ?_
  rw [List.mem_filter]
  exact and_iff_right id.mem_all

theorem mem_heldMask_ids {id : KeyId} : id ∈ store.heldMask.ids ↔ store.has id = true :=
  KeyMask.mem_ids.trans store.isOf_heldMask.has_iff

/-- Of the records that a new store has read only those of the root key were left out. -/
theorem Installed.covers (installed : Installed .user list .empty store) {record : Record}
    (member : record ∈ list) (accepted : record.Accepted .user) :
    record.code = 9 ∨ ∃ id ∈ store.heldMask.ids, id.code = record.code := by
  obtain ⟨id, typed, -⟩ := accepted
  obtain ⟨code, other⟩ := KeyId.ofRecordType?_eq_some.1 typed
  by_cases root : id = .rsa .rootPublic
  · exact .inl (code ▸ root ▸ rfl)
  · have allowed : id.isImportOnly = false := by simp [KeyId.isImportOnly, root, other]
    refine .inr ⟨id, ?_, code⟩
    rw [mem_heldMask_ids, installed.has_iff, KeyId.source_eq_self other, code]
    exact ⟨KeyMask.has_user_iff.2 allowed, Record.exists_last? member⟩

/-- A new store that reads all that another one holds becomes the same. -/
theorem Sized.yields_importContainer {total : Nat}
    (sized : store.Sized store.heldMask.ids blob total) (sound : Sound store)
    (users : ∀ id, store.has id = true → id.isImportOnly = false) :
    (importContainer (Record.join (records store.heldMask.ids blob)) .user).Yields
      .empty () store := by
  have others (id : KeyId) (listed : id ∈ store.heldMask.ids) : id ≠ .hmac .fileWrite :=
    KeyId.ne_fileWrite (users id (mem_heldMask_ids.1 listed))
  obtain ⟨after, done, installed⟩ := importContainer_of_madeOf (sized.madeOf_records)
    (sized.accepted_records sound others .user) .empty
  have found (id : KeyId) (asked : KeyMask.user.has id = true) :
      id.source = id ∧ Record.last? id.source.code (records store.heldMask.ids blob) =
        if store.has id = true then some ⟨id.code, blob id⟩ else none := by
    have source := KeyId.source_eq_self (KeyId.ne_fileWrite (KeyMask.has_user_iff.1 asked))
    rw [source, last?_records]
    exact ⟨rfl, if_congr mem_heldMask_ids rfl rfl⟩
  have same : after = store := by
    apply ext_key?
    intro id
    cases held : store.has id with
    | true =>
        have asked := KeyMask.has_user_iff.2 (users id held)
        obtain ⟨source, last⟩ := found id asked
        obtain ⟨key, isData, read⟩ := installed.read id _ asked (last.trans (if_pos held))
        obtain ⟨other, kept, otherData⟩ :=
          sound.isData_of_writes (sized.writes id (mem_heldMask_ids.2 held))
        rw [source] at isData
        rw [read, kept, isData.unique otherData]
    | false =>
        rw [key?_eq_none held, ← key?_empty id]
        apply installed.kept
        intro asked
        rw [(found id asked).2, held]
        rfl
  exact same ▸ done

/-- What a new store has read is exported as a container that is not longer and that a new store
reads as the same keys.  It is the same container exactly if the type bytes were rising, there was
no record of the root key, and all magnitudes were empty or ended in a byte other than zero. -/
theorem exportContainer_importContainer {container : Bytes} (small : container.length ≤ 2 ^ 32 - 2)
    (imported : (importContainer container .user).Yields .empty () store) (outer : σ) :
    ∃ list written, Record.MadeOf container list ∧ Excerpt store.heldMask list written ∧
      (exportContainer store store.heldMask outer).result = .ok written ∧
      (written = container ↔
        list.Pairwise (fun first second => first.code < second.code) ∧
          ∀ record ∈ list, record.code ≠ 9 ∧
            ∀ id : RsaKeyId, id.code = record.code → Uint.Shortest record.data) ∧
      written.length ≤ container.length ∧
      (importContainer written .user).Yields .empty () store := by
  obtain ⟨list, madeOf, accepted⟩ := importContainer_eq_ok.1 imported.1
  obtain ⟨after, done, installed⟩ := importContainer_of_madeOf madeOf accepted .empty
  obtain rfl : after = store := done.2.symm.trans imported.2
  have sound := installed.sound .empty
  have asked (id : KeyId) (held : after.has id = true) :
      KeyMask.user.has id = true ∧ id ≠ .hmac .fileWrite := by
    have selected := (installed.has_iff.1 held).1
    exact ⟨selected, KeyId.ne_fileWrite (KeyMask.has_user_iff.1 selected)⟩
  have users (id : KeyId) (held : after.has id = true) : id.isImportOnly = false :=
    KeyMask.has_user_iff.1 (asked id held).1
  obtain ⟨blob, provided⟩ := installed.exists_provided sound fun id listed =>
    ⟨mem_heldMask_ids.1 listed, asked id (mem_heldMask_ids.1 listed)⟩
  have ascending := ascending_records after.heldMask blob
  have short : (Record.join (records after.heldMask.ids blob)).length ≤ container.length :=
    (length_join_le ascending provided).trans_eq (congrArg List.length madeOf.2.symm)
  have sized := installed.sized (fun id listed => asked id (mem_heldMask_ids.1 listed)) provided
    (short.trans small)
  refine ⟨list, _, madeOf, ⟨blob, provided, rfl⟩, ?_, ?_, short,
    sized.yields_importContainer sound users⟩
  · exact (yields_exportContainer (after.isOf_heldMask.user_contains_iff.2 users) sized outer).1
  · have sameRecords : Record.join (records after.heldMask.ids blob) = container ↔
        records after.heldMask.ids blob = list := by
      constructor
      · rintro rfl
        exact (sized.madeOf_records).unique madeOf
      · rintro rfl
        exact madeOf.2.symm
    rw [sameRecords]
    apply records_eq_iff ascending provided
    · intro id listed code
      exact KeyId.ne_rootPublic (users id (mem_heldMask_ids.1 listed)) (KeyId.code_injective code)
    · exact fun record member => installed.covers member (accepted record member)

/-- Two HMAC records with falling type bytes. -/
def falling : List Record :=
  [⟨5, List.replicate 32 1⟩, ⟨4, List.replicate 32 2⟩]

theorem falling_madeOf : Record.MadeOf (Record.join falling) falling := by
  refine ⟨?_, rfl⟩
  unfold Bytes.Fits
  decide

theorem falling_accepted : ∀ record ∈ falling, record.Accepted .user := by
  intro record member
  simp only [falling, List.mem_cons, List.not_mem_nil, or_false] at member
  rcases member with rfl | rfl
  · exact ⟨.hmac .chunk, rfl, fun _ => List.length_replicate⟩
  · exact ⟨.hmac .file, rfl, fun _ => List.length_replicate⟩

/-- They are accepted, and come back in another order. -/
theorem falling_export :
    ∃ store written, (importContainer (Record.join falling) .user).Yields .empty () store ∧
      (exportContainer store store.heldMask ()).result = .ok written ∧
      written ≠ Record.join falling ∧ (importContainer written .user).Yields .empty () store := by
  obtain ⟨store, imported, -⟩ := importContainer_of_madeOf falling_madeOf falling_accepted .empty
  have small : (Record.join falling).length ≤ 2 ^ 32 - 2 := by decide
  obtain ⟨list, written, madeOf, -, exported, same, -, again⟩ :=
    exportContainer_importContainer small imported ()
  obtain rfl := madeOf.unique falling_madeOf
  refine ⟨store, written, imported, exported, ?_, again⟩
  rw [ne_eq, same]
  rintro ⟨rising, -⟩
  revert rising
  decide

end Store

end Keyring
