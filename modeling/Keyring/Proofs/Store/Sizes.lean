/-
Module: Keyring.Proofs.Store.Sizes
Purpose: The log and the causes of failure tell sizes and nothing more.  Imports that read the same
  headers, length fields and modulus sizes, and exports of stores whose keys have integers of the
  same lengths, report the same events and end in the same way, whatever the keys are.
Main exports: Record.SameData, Store.alike_install, Store.SameSizes, Store.alike_exportKey,
  Store.alike_containerLength, Store.alike_fillRecords, Store.alike_exportContainer,
  Store.runs_tell_sizes
-/
import Keyring.Proofs.Sizes
import Keyring.Proofs.Store.Alike

namespace Keyring

open Outcome (Alike)

/-- What the data of two selected records of the same length have to agree in: those of RSA keys in
their length fields and in the size of the modulus, those of HMAC keys in nothing more. -/
def Record.SameData : KeyId → Bytes → Bytes → Prop
  | .rsa id, one, two => Rsa.SameSizes id.half one two
  | .hmac _, _, _ => True

namespace Store

variable {mask : KeyMask} {one two : Store}

/-! ## Imports -/

section Import

variable {id : KeyId} {data other : Bytes}

theorem alike_importReported (length : data.length = other.length)
    (same : Record.SameData id data other) (one two : Store) :
    Alike (fun _ _ _ _ => True) (importReported id data one) (importReported id other two) := by
  have imported : Alike (fun _ _ _ _ => True) (importKey id data one) (importKey id other two) := by
    rcases id with id | id
    · rw [importKey, importKey, onRsa, onRsa]
      exact (Rsa.alike_importHalf same _ _).inside fun _ _ _ _ _ => trivial
    · rw [importKey, importKey, onHmac, onHmac]
      exact (Hmac.alike_importKey length _ _).inside fun _ _ _ _ _ => trivial
  exact imported.bind fun _ _ _ _ _ => .done _ trivial

theorem alike_install (length : data.length = other.length)
    (same : Record.SameData id data other) (mask : KeyMask) (one two : Store) :
    Alike (fun _ _ _ _ => True) (install mask id data one) (install mask id other two) := by
  have own : Alike (fun _ _ _ _ => True) (Op.when (mask.has id) (importReported id data) one)
      (Op.when (mask.has id) (importReported id other) two) :=
    .when trivial fun _ => alike_importReported length same one two
  -- The copy is that of an HMAC key, of which only the length counts.
  have copied : Record.SameData (.hmac .fileWrite) data other := trivial
  refine own.bind fun _ between _ middle _ => .when trivial fun _ => ?_
  exact alike_importReported length copied between middle

end Import

/-! ## Exports -/

/-- The stores hold keys of the same sizes under the same ids. -/
structure SameSizes (one two : Store) : Prop where
  rsa : ∀ id, (one.rsa id).map RsaKey.sizes = (two.rsa id).map RsaKey.sizes
  hmac : ∀ id, (one.hmac id).isSome = (two.hmac id).isSome

theorem alike_exportKey (same : SameSizes one two) (id : KeyId) {out other : Option Bytes}
    (rooms : SameRoom out other) :
    Alike (fun size after held last => size = held ∧ SameRoom after last)
      (one.exportKey id out) (two.exportKey id other) := by
  rcases id with id | id
  · exact Rsa.alike_exportHalf (same.rsa id) id.half rooms
  · exact Hmac.alike_exportKey (same.hmac id) rooms

section Passes

variable {σ τ : Type} (outer : σ) (last : τ)

theorem alike_containerLength (same : SameSizes one two) (ids : List KeyId) (total : Nat) :
    Alike (fun size _ other _ => size = other)
      (containerLength one ids total outer) (containerLength two ids total last) := by
  induction ids generalizing total outer last with
  | nil => exact .done [] rfl
  | cons id rest inductionHypothesis =>
      have sized : Alike (fun size _ other _ => size = other) (one.exportKey id none)
          (two.exportKey id none) := (alike_exportKey same id rfl).mono fun _ _ _ _ both => both.1
      refine (sized.within outer last).bind ?_
      rintro size _ _ _ rfl
      refine (Alike.ofExcept _ _ _).bind ?_
      rintro header _ _ _ ⟨rfl, rfl, rfl⟩
      refine (Alike.ofExcept _ _ _).bind ?_
      rintro whole _ _ _ ⟨rfl, rfl, rfl⟩
      exact inductionHypothesis _ _ whole

theorem alike_exportOnto (same : SameSizes one two) (id : KeyId) {room other : Bytes}
    (length : room.length = other.length) :
    Alike (fun part _ rest _ => part.1 = rest.1 ∧ part.2.length = rest.2.length)
      (exportOnto one id room outer) (exportOnto two id other last) := by
  have rooms : SameRoom (some room) (some other) := congrArg some length
  refine ((alike_exportKey same id rooms).withinKeeping outer last).bind ?_
  rintro ⟨size, written⟩ _ ⟨_, others⟩ _ ⟨rfl, left⟩
  refine .done [] ⟨rfl, ?_⟩
  cases written with
  | none =>
      obtain rfl := Option.map_eq_none_iff.1 left.symm
      rfl
  | some written =>
      obtain ⟨rest, rfl, same⟩ := Option.map_eq_some_iff.1 left.symm
      exact same.symm

theorem alike_fillRecords (same : SameSizes one two) (ids : List KeyId) (position : Nat)
    {ahead other : Bytes} (length : ahead.length = other.length) :
    Alike (fun part _ rest _ => part.1 = rest.1 ∧ part.2.length = rest.2.length)
      (fillRecords one ids position ahead outer) (fillRecords two ids position other last) := by
  induction ids generalizing position ahead other outer last with
  | nil => exact .done [] ⟨rfl, length⟩
  | cons id rest inductionHypothesis =>
      rw [fillRecords, fillRecords, Bytes.shorterThan_eq, Bytes.shorterThan_eq, length]
      split
      · exact .failed _ _ _ _
      refine (Bytes.alike_cut length _ _ _).bind ?_
      rintro ⟨header, room⟩ _ ⟨otherHeader, otherRoom⟩ _ ⟨⟨headers, rooms⟩, rfl, rfl⟩
      refine (alike_exportOnto _ _ same id rooms).bind ?_
      rintro ⟨size, written⟩ _ ⟨_, others⟩ _ ⟨rfl, lengths⟩
      refine (Alike.checked_self _ _ _).bind ?_
      rintro count _ _ _ ⟨rfl, rfl, rfl⟩
      refine (Bytes.alike_overwrite headers rfl _ _).bind ?_
      rintro filled _ otherFilled _ ⟨fields, rfl, rfl⟩
      refine (Bytes.alike_cut lengths _ _ _).bind ?_
      rintro ⟨data, left⟩ _ ⟨otherData, otherLeft⟩ _ ⟨⟨datas, lefts⟩, rfl, rfl⟩
      refine (inductionHypothesis _ _ _ lefts).bind ?_
      rintro ⟨reached, behind⟩ _ ⟨_, otherBehind⟩ _ ⟨rfl, behinds⟩
      refine .done [] ⟨rfl, ?_⟩
      simp only [List.length_append, fields, datas, behinds]

theorem alike_exportContainer (same : SameSizes one two) (mask : KeyMask) :
    Alike (fun container _ other _ => container.length = other.length)
      (exportContainer one mask outer) (exportContainer two mask outer) := by
  refine (Alike.refl _).bind ?_
  rintro ids state _ _ ⟨rfl, rfl⟩
  refine (alike_containerLength state state same ids 0).bind ?_
  rintro total between _ middle rfl
  refine (alike_fillRecords between middle same ids 0 rfl).bind ?_
  rintro ⟨position, container⟩ _ ⟨_, other⟩ _ ⟨rfl, lengths⟩
  dsimp only
  split
  · exact .failed _ _ _ _
  · exact .done _ lengths

end Passes

/-! ## What runs tell -/

/-- What an import of one key or of a container reports, and whether and why it fails, is the same
for data of the same length with the same headers, length fields and modulus sizes, as far as these
are read, whatever the slots held before.  What an export reports, and the length that it writes or
why it fails, is the same for stores with keys of the same sizes. -/
theorem runs_tell_sizes :
    (∀ half one two, Rsa.SameSizes half one two → ∀ slot other,
      (Rsa.importHalf half one slot).log = (Rsa.importHalf half two other).log ∧
        (Rsa.importHalf half one slot).result = (Rsa.importHalf half two other).result) ∧
    (∀ one two : Bytes, one.length = two.length → ∀ slot other,
      (Hmac.importKey one slot).log = (Hmac.importKey two other).log ∧
        (Hmac.importKey one slot).result = (Hmac.importKey two other).result) ∧
    (∀ mask first second, Record.Alike mask Record.SameData first second → ∀ store other,
      (importContainer first mask store).log = (importContainer second mask other).log ∧
        (importContainer first mask store).result = (importContainer second mask other).result) ∧
    ∀ one two, SameSizes one two → ∀ mask (σ : Type) (outer : σ),
      (exportContainer one mask outer).log = (exportContainer two mask outer).log ∧
        (exportContainer one mask outer).result.map List.length =
          (exportContainer two mask outer).result.map List.length := by
  refine ⟨?_, ?_, ?_, ?_⟩
  · intro half one two same slot other
    have alike := Rsa.alike_importHalf same slot other
    exact ⟨alike.log_eq, alike.result_eq⟩
  · intro one two length slot other
    have alike := Hmac.alike_importKey length slot other
    exact ⟨alike.log_eq, alike.result_eq⟩
  · intro mask first second alike store other
    have imported : Alike (fun _ _ _ _ => True) (importRecords mask first store)
        (importRecords mask second other) := by
      apply alike.importRecords _ trivial
      intro id data held _ length same before start _
      exact alike_install length same mask before start
    have whole := imported.allOrNothing
    exact ⟨whole.log_eq, whole.result_eq⟩
  · intro one two same mask σ outer
    have alike := alike_exportContainer outer same mask
    exact ⟨alike.log_eq, alike.map_result fun _ _ _ _ length => length⟩

/-- The records of a public key of four bits and of a file HMAC. -/
def tinyRecords (n e : Nat) (byte : UInt8) : List Record :=
  [⟨1, Uint.join [n, e]⟩, ⟨4, List.replicate 32 byte⟩]

theorem tiny_sameSizes : Rsa.SameSizes .publicHalf (Uint.join [15, 3]) (Uint.join [9, 7]) where
  length := by cbv
  fields := by cbv
  modulusBits := by cbv

/-- Neither integers nor bytes of keys are told. -/
theorem tiny_runs_tell_sizes :
    (Rsa.importPublic (Uint.join [15, 3]) none).log =
        (Rsa.importPublic (Uint.join [9, 7]) none).log ∧
      (Hmac.importKey (List.replicate 32 1) none).log =
        (Hmac.importKey (List.replicate 32 2) none).log ∧
      (importContainer (Record.join (tinyRecords 15 3 1)) .user .empty).log =
        (importContainer (Record.join (tinyRecords 9 7 2)) .user .empty).log ∧
      (exportContainer (Store.empty.setRsa .signPublic (some ⟨15, 3, none⟩))
          (.single (.rsa .signPublic)) ()).log =
        (exportContainer (Store.empty.setRsa .signPublic (some ⟨9, 7, none⟩))
          (.single (.rsa .signPublic)) ()).log := by
  obtain ⟨importedRsa, importedHmac, imported, exported⟩ := runs_tell_sizes
  have alike : Record.Alike .user Record.SameData (Record.join (tinyRecords 15 3 1))
      (Record.join (tinyRecords 9 7 2)) := by
    apply Record.alike_join
    · unfold Bytes.Fits
      decide
    · refine .cons ⟨rfl, tiny_sameSizes.length, ?_⟩ (.cons ⟨rfl, rfl, ?_⟩ .nil)
      · intro id typed _
        cases typed
        exact tiny_sameSizes
      · intro id typed _
        cases typed
        exact trivial
  have sameSizes : SameSizes (Store.empty.setRsa .signPublic (some ⟨15, 3, none⟩))
      (Store.empty.setRsa .signPublic (some ⟨9, 7, none⟩)) := by
    constructor
    · intro id
      cases id <;> rfl
    · intro id
      cases id <;> rfl
  exact ⟨(importedRsa _ _ _ tiny_sameSizes none none).1,
    (importedHmac _ _ rfl none none).1, (imported _ _ _ alike .empty .empty).1,
    (exported _ _ sameSizes _ Unit ()).1⟩

end Store

end Keyring
