/-
Module: Keyring.Proofs.Store.Alike
Purpose: Containers that differ only in data.  Two containers are alike under a mask if their
  headers are the same as far as an import reads them, and the data of each record that the mask
  selects agree in whatever is asked for; then an import of one goes the way of an import of the
  other, if this is so for the data of every single record.
Main exports: Record.Agree, Record.Alike, Record.Alike.length_eq, Record.Alike.refl,
  Record.alike_join, Record.Alike.importRecords
-/
import Keyring.Proofs.Alike
import Keyring.Proofs.Store.Import

namespace Keyring.Record

open LittleEndian

/-- The records have the same header, and if the mask selects their key their data agree as `same`
says. -/
structure Agree (mask : KeyMask) (same : KeyId → Bytes → Bytes → Prop) (first second : Record) :
    Prop where
  code : first.code = second.code
  length : first.data.length = second.data.length
  data : ∀ id, KeyId.ofRecordType? first.code = some id → mask.selects id = true →
    same id first.data second.data

/-- The containers are of the same length and agree in every header that is read; an import under
the mask reads none behind a record that it does not accept. -/
inductive Alike (mask : KeyMask) (same : KeyId → Bytes → Bytes → Prop) : Bytes → Bytes → Prop where
  /-- Less than a header is left in both. -/
  | headerEnds {first second : Bytes} (few : first.length < headerSize)
      (length : first.length = second.length) : Alike mask same first second
  /-- One header in both, and less data than it names. -/
  | dataEnds {field first second : Bytes} (code : UInt8)
      (whole : field.length = Uint.lengthFieldSize) (few : first.length < value field)
      (length : first.length = second.length) :
      Alike mask same (field ++ code :: first) (field ++ code :: second)
  /-- Two records that agree. -/
  | record {first second : Record} {behind rest : Bytes} (fits : first.data.Fits)
      (agree : Agree mask same first second) (left : behind.length = rest.length)
      (later : first.Accepted mask → Alike mask same behind rest) :
      Alike mask same (first.bytes ++ behind) (second.bytes ++ rest)

variable {mask : KeyMask} {same : KeyId → Bytes → Bytes → Prop} {first second : Bytes}

theorem Agree.length_bytes {first second : Record} (agree : Agree mask same first second) :
    first.bytes.length = second.bytes.length := by
  rw [Record.length_bytes, Record.length_bytes, agree.length]

namespace Alike

theorem length_eq (alike : Alike mask same first second) : first.length = second.length := by
  cases alike with
  | headerEnds few length => exact length
  | dataEnds code whole few length => simp [length]
  | record fits agree left => rw [List.length_append, List.length_append, agree.length_bytes, left]

/-- Every container is like itself, whether it is made of records or not. -/
theorem refl (reflexive : ∀ id data, same id data data) (container : Bytes) :
    Alike mask same container container := by
  induction size : container.length using Nat.strongRecOn generalizing container with
  | ind _ inductionHypothesis =>
      cases front container with
      | short few => exact .headerEnds few rfl
      | cutOff code whole few => exact .dataEnds code whole few rfl
      | @record record behind fits =>
          have shorter := length_next (next?_bytes fits behind)
          have agree : Agree mask same record record := ⟨rfl, rfl, fun id _ _ => reflexive id _⟩
          exact .record fits agree rfl fun _ => inductionHypothesis _ (size ▸ shorter) behind rfl

end Alike

/-- Containers made of records that agree one by one. -/
theorem alike_join {records others : List Record} (fits : ∀ record ∈ records, record.data.Fits)
    (agree : List.Forall₂ (Agree mask same) records others) :
    Alike mask same (join records) (join others) := by
  induction agree with
  | nil => exact .headerEnds (by decide) rfl
  | cons first later inductionHypothesis =>
      rw [List.forall_mem_cons] at fits
      have behind := inductionHypothesis fits.2
      exact .record fits.1 first behind.length_eq fun _ => behind

/-! ## Imports -/

namespace Alike

variable {related : Store → Store → Prop} {store other : Store}

/-- An import goes from record to record in both containers, and stops in both or in neither. -/
theorem importRecords (alike : Alike mask same first second)
    (installs : ∀ id one two, mask.selects id = true → one.length = two.length → same id one two →
      ∀ store other, related store other →
        Outcome.Alike (fun _ after _ last => related after last)
          (Store.install mask id one store) (Store.install mask id two other))
    (start : related store other) :
    Outcome.Alike (fun _ after _ last => related after last)
      (Store.importRecords mask first store) (Store.importRecords mask second other) := by
  induction alike generalizing store other with
  | @headerEnds first second few length =>
      by_cases empty : first = []
      · subst empty
        obtain rfl := List.length_eq_zero_iff.1 length.symm
        rw [Store.importRecords_nil]
        exact .pure start
      · have more : second ≠ [] := by
          rintro rfl
          exact empty (List.length_eq_zero_iff.1 length)
        rw [Store.importRecords_broken mask empty (next?_short few),
          Store.importRecords_broken mask more (next?_short (length ▸ few)), length]
        exact .failed _ _ _ _
  | @dataEnds field first second code whole few length =>
      have broken (rest : Bytes) (short : rest.length < value field) :
          Store.importRecords mask (field ++ code :: rest) =
            Op.reject (.dataEnds .store) (.format (.dataEnds (value field) rest.length)) :=
        Store.importRecords_broken mask (by simp) ((next?_header code whole).trans (if_pos short))
      rw [broken first few, broken second (length ▸ few), length]
      exact .failed _ _ _ _
  | @record first second behind rest fits agree left later inductionHypothesis =>
      have fits' : second.data.Fits := by
        rw [Bytes.Fits, ← agree.length]
        exact fits
      rw [Store.importRecords_bytes mask fits, Store.importRecords_bytes mask fits', ← agree.code]
      cases typed : KeyId.ofRecordType? first.code with
      | none => exact .failed _ _ _ _
      | some id =>
          dsimp only
          have installed : Outcome.Alike (fun _ after _ last => related after last)
              (Store.install mask id first.data store)
              (Store.install mask id second.data other) := by
            cases selected : mask.selects id with
            | true =>
                exact installs id _ _ selected agree.length (agree.data id typed selected) _ _ start
            | false =>
                rw [Store.install_unselected selected, Store.install_unselected selected]
                exact .done [] start
          refine installed.yields.bind fun _ _ _ _ both => ?_
          obtain ⟨held, yields, -⟩ := both
          exact inductionHypothesis (Store.accepted_of_yields_install typed yields) held

end Alike

end Keyring.Record
