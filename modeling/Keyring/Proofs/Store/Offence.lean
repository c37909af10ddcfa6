/-
Module: Keyring.Proofs.Store.Offence
Purpose: How an import fails.  A container falls into records that the mask admits and a rest with
  the first thing in it that is not admitted; that alone gives the cause, in the order in which the
  bytes of the rest are looked at, and the store stays as it was.
Main exports: KeyKind.Refuses, Store.Offends, Store.importKey_fails_iff, Store.exists_refuses_iff,
  Store.install_fails_iff, Store.Offends.fails, Store.exists_offends_of_fails,
  Store.importContainer_fails_iff
-/
import Keyring.Proofs.Store.Import

namespace Keyring

open LittleEndian

/-- A blob that is read on its own as one kind of key is refused for the cause, whatever key the
slot holds. -/
def KeyKind.Refuses : KeyKind → Bytes → KeyError → Prop
  | .rsaPrivate, blob, cause => ∀ slot, (Rsa.importPrivate blob).Fails slot cause
  | .rsaPublic, blob, cause => ∀ slot, (Rsa.importPublic blob).Fails slot cause
  | .hmac, blob, cause => ∀ slot, (Hmac.importKey blob).Fails slot cause

namespace Store

/-- What stands at the front of the rest of a container that no import under the mask gets past,
and the cause for which it fails there.  A rest may offend in several ways; the first one counts. -/
inductive Offends (mask : KeyMask) : Bytes → KeyError → Prop where
  /-- Some bytes, but less than a record header. -/
  | headerEnds {rest : Bytes} (more : 0 < rest.length) (few : rest.length < 5) :
      Offends mask rest (.format (.headerEnds rest.length))
  /-- A header with any type byte that names more data than are left. -/
  | dataEnds {field rest : Bytes} (code : UInt8) (whole : field.length = 4)
      (few : rest.length < value field) :
      Offends mask (field ++ code :: rest) (.format (.dataEnds (value field) rest.length))
  /-- A whole record with a type byte of no record, whatever the mask. -/
  | unknownType {record : Record} {behind : Bytes} (fits : record.data.Fits)
      (unknown : ¬ (record.code ≤ 7 ∨ 9 ≤ record.code ∧ record.code ≤ 12)) :
      Offends mask (record.bytes ++ behind) (.format (.unknownType record.code))
  /-- A whole record that the mask selects, with data that its kind of key refuses. -/
  | badData {record : Record} {behind : Bytes} {id : KeyId} {cause : KeyError}
      (fits : record.data.Fits) (typed : KeyId.ofRecordType? record.code = some id)
      (selected : mask.selects id = true) (refused : id.kind.Refuses record.data cause) :
      Offends mask (record.bytes ++ behind) cause

/-! ## One key -/

/-- Whether an RSA blob is refused, and why, does not depend on the slot. -/
theorem importHalf_fails_iff {half : Half} {blob : Bytes} {slot : Slot RsaKey}
    {cause : KeyError} :
    (Rsa.importHalf half blob).Fails slot cause ↔
      ∀ other, (Rsa.importHalf half blob).Fails other cause := by
  constructor
  · intro failed other
    by_cases good : ∃ key, Rsa.IsBlob half blob key
    · obtain ⟨key, isBlob⟩ := good
      rw [Op.Fails, Rsa.importHalf_of_isBlob isBlob] at failed
      cases failed
    · obtain ⟨own, log, refused⟩ := Rsa.importHalf_refused good
      rw [Op.Fails, refused] at failed ⊢
      exact failed
  · intro refused
    exact refused slot

theorem importHmac_fails_iff {blob : Bytes} {slot : Slot HmacKey} {cause : KeyError} :
    (Hmac.importKey blob).Fails slot cause ↔ ∀ other, (Hmac.importKey blob).Fails other cause := by
  constructor
  · intro failed other
    unfold Hmac.importKey at failed ⊢
    cases whole : HmacKey.ofBytes? blob with
    | none =>
        rw [whole] at failed
        exact failed
    | some key =>
        rw [whole] at failed
        cases failed
  · intro refused
    exact refused slot

theorem importKey_fails_iff {id : KeyId} {blob : Bytes} {store : Store} {cause : KeyError} :
    (importKey id blob).Fails store cause ↔ id.kind.Refuses blob cause := by
  rcases id with id | id
  · have own : (importKey (.rsa id) blob).Fails store cause ↔
        (Rsa.importHalf id.half blob).Fails (store.rsa id) cause := Iff.rfl
    rw [own, importHalf_fails_iff]
    cases id <;> exact Iff.rfl
  · have own : (importKey (.hmac id) blob).Fails store cause ↔
        (Hmac.importKey blob).Fails (store.hmac id) cause := Iff.rfl
    rw [own, importHmac_fails_iff]
    exact Iff.rfl

/-- Data are refused, for whatever cause, exactly if they are not those of a key. -/
theorem exists_refuses_iff {id : KeyId} {data : Bytes} :
    (∃ cause, id.kind.Refuses data cause) ↔ ¬ id.kind.Admits data := by
  rw [← Key.exists_isData_iff]
  constructor
  · rintro ⟨cause, refused⟩ ⟨key, isData⟩
    have failed : (importKey id data).Fails .empty cause := importKey_fails_iff.2 refused
    rw [Op.Fails, importKey_of_isData isData] at failed
    cases failed
  · intro bad
    obtain ⟨cause, log, ran⟩ := importKey_refused bad
    have failed : (importKey id data).Fails .empty cause := by rw [Op.Fails, ran]
    exact ⟨cause, importKey_fails_iff.1 failed⟩

theorem importReported_fails_iff {id : KeyId} {blob : Bytes} {store : Store} {cause : KeyError} :
    (importReported id blob).Fails store cause ↔ id.kind.Refuses blob cause := by
  rw [importReported, Op.fails_bind, importKey_fails_iff]
  constructor
  · rintro (refused | ⟨_, _, _, failed⟩)
    · exact refused
    · cases failed
  · exact Or.inl

/-! ## One record -/

variable {mask : KeyMask} {id : KeyId} {data : Bytes} {store : Store} {cause : KeyError}

/-- The installation of a record fails if the mask selects it and its data are refused.  The file
HMAC is refused for one cause, into whichever of its two slots it is to go. -/
theorem install_fails_iff :
    (install mask id data).Fails store cause ↔
      mask.selects id = true ∧ id.kind.Refuses data cause := by
  constructor
  · intro failed
    by_cases selected : mask.selects id = true
    · refine ⟨selected, ?_⟩
      rw [install_eq, Op.fails_bind] at failed
      rcases failed with own | ⟨_, between, -, copy⟩
      · cases asked : mask.has id with
        | false =>
            rw [asked] at own
            cases own
        | true =>
            rw [asked] at own
            exact importReported_fails_iff.1 own
      · cases copied : isCopied mask id with
        | false =>
            rw [copied] at copy
            cases copy
        | true =>
            rw [copied] at copy
            have refused : (KeyId.hmac .fileWrite).kind.Refuses data cause :=
              importReported_fails_iff.1 copy
            obtain ⟨rfl, -⟩ := isCopied_eq_true.1 copied
            exact refused
    · rw [Op.Fails, install_unselected (Bool.eq_false_iff.2 selected)] at failed
      cases failed
  · rintro ⟨selected, refused⟩
    rw [install_eq, Op.fails_bind]
    cases asked : mask.has id with
    | true => exact .inl (importReported_fails_iff.2 refused)
    | false =>
        rw [selects_eq, asked, Bool.false_or] at selected
        obtain ⟨rfl, -⟩ := isCopied_eq_true.1 selected
        rw [selected]
        exact .inr ⟨(), store, ⟨rfl, rfl⟩, importReported_fails_iff.2 refused⟩

/-! ## A whole container -/

/-- What offends stops the import where it stands. -/
theorem Offends.fails {rest : Bytes} (offends : Offends mask rest cause) (store : Store) :
    (importRecords mask rest).Fails store cause := by
  cases offends with
  | headerEnds more few =>
      rw [importRecords_broken mask (List.length_pos_iff.1 more) (Record.next?_short few)]
      rfl
  | dataEnds code whole few =>
      have broken := (Record.next?_header code whole).trans (if_pos few)
      rw [importRecords_broken mask (by simp) broken]
      rfl
  | @unknownType record behind fits unknown =>
      have none : KeyId.ofRecordType? record.code = none := by
        rw [Option.eq_none_iff_forall_ne_some]
        intro id typed
        exact unknown (KeyId.exists_ofRecordType?_iff.1 ⟨id, typed⟩)
      rw [importRecords_bytes mask fits, none]
      rfl
  | badData fits typed selected refused =>
      rw [importRecords_bytes mask fits, typed]
      apply Op.fails_bind.2
      exact .inl (install_fails_iff.2 ⟨selected, refused⟩)

/-- Records that the mask admits are passed, and what offends behind them gives the cause. -/
theorem importRecords_of_offends {records : List Record}
    (passed : ∀ record ∈ records, record.data.Fits ∧ record.Accepted mask) {rest : Bytes}
    (offends : Offends mask rest cause) (store : Store) :
    (importRecords mask (Record.join records ++ rest)).Fails store cause := by
  induction records generalizing store with
  | nil => exact offends.fails store
  | cons record later inductionHypothesis =>
      rw [List.forall_mem_cons] at passed
      obtain ⟨⟨fits, id, typed, admitted⟩, passedLater⟩ := passed
      obtain ⟨between, log, installed, -⟩ := Installed.of_record typed admitted store
      rw [Record.join_cons, List.append_assoc, importRecords_bytes mask fits, typed, Op.Fails]
      dsimp only
      rw [Op.bind_ok installed]
      exact inductionHypothesis passedLater between

/-- An import that fails has passed some records and met something that offends. -/
theorem exists_offends_of_fails {container : Bytes}
    (failed : (importRecords mask container).Fails store cause) :
    ∃ records rest, container = Record.join records ++ rest ∧
      (∀ record ∈ records, record.data.Fits ∧ record.Accepted mask) ∧ Offends mask rest cause := by
  induction container using Record.container_induction generalizing store with
  | nil =>
      rw [importRecords_nil] at failed
      cases failed
  | broken container own more broken =>
      rw [importRecords_broken mask more broken] at failed
      cases failed
      refine ⟨[], container, rfl, by simp, ?_⟩
      cases Record.front container with
      | short few =>
          rw [Record.next?_short few] at broken
          cases broken
          exact .headerEnds (List.length_pos_iff.2 more) few
      | cutOff code whole few =>
          rw [Record.next?_header code whole, if_pos few] at broken
          cases broken
          exact .dataEnds code whole few
      | record fits =>
          rw [Record.next?_bytes fits] at broken
          cases broken
  | record record behind fits inductionHypothesis =>
      rw [importRecords_bytes mask fits] at failed
      cases typed : KeyId.ofRecordType? record.code with
      | none =>
          rw [typed] at failed
          cases failed
          refine ⟨[], record.bytes ++ behind, rfl, by simp, .unknownType fits ?_⟩
          rw [← KeyId.exists_ofRecordType?_iff, typed]
          simp
      | some id =>
          rw [typed] at failed
          rcases Op.fails_bind.1 failed with own | ⟨_, between, installed, later⟩
          · obtain ⟨selected, refused⟩ := install_fails_iff.1 own
            exact ⟨[], record.bytes ++ behind, rfl, by simp, .badData fits typed selected refused⟩
          · obtain ⟨records, rest, rfl, passed, offends⟩ := inductionHypothesis later
            have accepted := accepted_of_yields_install typed installed
            exact ⟨record :: records, rest, (List.append_assoc ..).symm,
              List.forall_mem_cons.2 ⟨⟨fits, accepted⟩, passed⟩, offends⟩

/-- An import that fails leaves the store as it was, and it fails for the cause of what follows the
longest run of admitted records: a header that ends, data that end, a type byte of no record, or
data of a selected record that are refused when they are read on their own. -/
theorem importContainer_fails_iff (store : Store) (container : Bytes) (mask : KeyMask)
    (cause : KeyError) :
    ((importContainer container mask store).result = .error cause ↔
      ∃ records rest, container = Record.join records ++ rest ∧
        (∀ record ∈ records, record.data.Fits ∧ record.Accepted mask) ∧
          Offends mask rest cause) ∧
    ((importContainer container mask store).result = .error cause →
      (importContainer container mask store).state = store) := by
  have undone : (importContainer container mask store).result = .error cause ↔
      (importRecords mask container).Fails store cause := Op.fails_orElseUndo
  rw [undone]
  refine ⟨⟨exists_offends_of_fails, ?_⟩, ?_⟩
  · rintro ⟨records, rest, rfl, passed, offends⟩
    exact importRecords_of_offends passed offends store
  · intro failed
    exact Op.allOrNothing_state_of_error (undone.2 failed)

end Store

end Keyring
