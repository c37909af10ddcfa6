/-
Module: Keyring.Proofs.KeyMask
Purpose: Which records a mask selects and which keys it lets out.  A mask is looked at bit by bit:
  the bits of a list of keys are the codes of its members, so the bits of no key and the keys that
  may be exported come out as statements about codes.
Main exports: KeyId.source, KeyId.ofRecordType?_eq_some, KeyId.exists_ofRecordType?_iff,
  KeyMask.selects, KeyMask.selects_mono, KeyMask.bit_ofIds, KeyMask.bit_remove, KeyMask.bit_unknown,
  KeyMask.IsOf, KeyMask.has_user_iff, KeyMask.user_contains_iff, KeyMask.find?_isImportOnly,
  KeyMask.exportable_iff, KeyMask.ids_ascending
-/
import Keyring.KeyMask

namespace Keyring

namespace KeyId

/-- The key whose record fills the slot of a key. -/
def source : KeyId → KeyId
  | .hmac .fileWrite => .hmac .file
  | id => id

theorem source_eq_self {id : KeyId} (other : id ≠ .hmac .fileWrite) : id.source = id := by
  unfold source
  split
  · contradiction
  · rfl

theorem ne_fileWrite {id : KeyId} (users : id.isImportOnly = false) : id ≠ .hmac .fileWrite := by
  rintro rfl
  cases users

theorem ne_rootPublic {id : KeyId} (users : id.isImportOnly = false) : id ≠ .rsa .rootPublic := by
  rintro rfl
  cases users

/-- The type byte of a key stands for it, unless the key has no record of its own. -/
theorem ofRecordType?_eq_some {code : UInt8} {id : KeyId} :
    ofRecordType? code = some id ↔ id.code = code ∧ id ≠ .hmac .fileWrite := by
  rw [← ofCode?_eq_some]
  unfold ofRecordType?
  split
  · next found =>
      rw [found]
      constructor
      · intro impossible
        cases impossible
      · rintro ⟨same, other⟩
        exact absurd (Option.some.inj same).symm other
  · next other =>
      constructor
      · intro found
        exact ⟨found, fun same => other (same ▸ found)⟩
      · exact fun found => found.1

/-- However keys are chosen, they come in ascending order of their codes. -/
theorem filter_all_ascending (chosen : KeyId → Bool) :
    (all.filter chosen).Pairwise fun first second => first.code < second.code := by
  have ordered : all.Pairwise fun first second => first.code < second.code := by decide
  exact ordered.sublist List.filter_sublist

theorem ofRecordType?_code {id : KeyId} (other : id ≠ .hmac .fileWrite) :
    ofRecordType? id.code = some id :=
  ofRecordType?_eq_some.2 ⟨rfl, other⟩

/-- The type bytes of records are two ranges of numbers. -/
theorem exists_ofRecordType?_iff {code : UInt8} :
    (∃ id, ofRecordType? code = some id) ↔ code ≤ 7 ∨ 9 ≤ code ∧ code ≤ 12 := by
  have table : ∀ n < 256, (ofRecordType? (UInt8.ofNat n)).isSome =
      decide (UInt8.ofNat n ≤ 7 ∨ 9 ≤ UInt8.ofNat n ∧ UInt8.ofNat n ≤ 12) := by
    decide +kernel
  have found := table code.toNat code.toNat_lt
  rw [UInt8.ofNat_toNat, Bool.eq_iff_iff, decide_eq_true_eq, Option.isSome_iff_exists] at found
  exact found

end KeyId

namespace KeyMask

/-- Whether the mask has a key whose slot the record of the given key fills. -/
def selects (mask : KeyMask) (id : KeyId) : Bool :=
  mask.has id || (id == .hmac .file && mask.has (.hmac .fileWrite))

theorem selects_source {mask : KeyMask} {id : KeyId} (wanted : mask.has id = true) :
    mask.selects id.source = true := by
  unfold selects KeyId.source
  split
  · simp [wanted]
  · simp [wanted]

/-- What a mask selects is selected by every mask that has more keys. -/
theorem selects_mono {part whole : KeyMask}
    (sub : ∀ id, part.has id = true → whole.has id = true) {id : KeyId}
    (selected : part.selects id = true) : whole.selects id = true := by
  simp only [selects, Bool.or_eq_true, Bool.and_eq_true] at selected ⊢
  exact selected.imp (sub id) fun copied => ⟨copied.1, sub _ copied.2⟩

theorem has_union_left {first : KeyMask} {id : KeyId} (held : first.has id = true)
    (second : KeyMask) : (first ∪ second).has id = true := by
  rw [has_union, held, Bool.true_or]

theorem has_union_right {second : KeyMask} {id : KeyId} (held : second.has id = true)
    (first : KeyMask) : (first ∪ second).has id = true := by
  rw [has_union, held, Bool.or_true]

theorem union_comm (first second : KeyMask) : first ∪ second = second ∪ first :=
  congrArg KeyMask.mk (BitVec.or_comm ..)

theorem selects_union (first second : KeyMask) (id : KeyId) :
    (first ∪ second).selects id = (first.selects id || second.selects id) := by
  simp only [selects, has_union, Bool.and_or_distrib_left]
  ac_rfl

/-! ## Bits -/

/-- The bits of some keys are their codes. -/
theorem bit_ofIds (ids : List KeyId) (i : Nat) :
    (ofIds ids).bits.getLsbD i = true ↔ ∃ id ∈ ids, id.code.toNat = i := by
  induction ids with
  | nil =>
      change (0#32).getLsbD i = true ↔ _
      simp
  | cons first rest inductionHypothesis =>
      have known := first.code_lt
      change (BitVec.twoPow 32 first.code.toNat ||| (ofIds rest).bits).getLsbD i = true ↔ _
      have own : (BitVec.twoPow 32 first.code.toNat).getLsbD i = true ↔ first.code.toNat = i := by
        rw [BitVec.getLsbD_twoPow, Bool.and_eq_true, decide_eq_true_eq, decide_eq_true_eq]
        exact ⟨fun held => held.2, fun same => ⟨by omega, same⟩⟩
      rw [BitVec.getLsbD_or, Bool.or_eq_true, own, inductionHypothesis]
      simp only [List.mem_cons, exists_eq_or_imp]

theorem ofIds_singleton (id : KeyId) : ofIds [id] = single id :=
  congrArg KeyMask.mk BitVec.or_zero

theorem bit_remove (first second : KeyMask) (i : Nat) :
    (first \ second).bits.getLsbD i = true ↔
      first.bits.getLsbD i = true ∧ ¬ second.bits.getLsbD i = true := by
  change (first.bits &&& ~~~second.bits).getLsbD i = true ↔ _
  rw [BitVec.getLsbD_and, BitVec.getLsbD_not, Bool.and_eq_true, Bool.and_eq_true,
    Bool.not_eq_true', ← Bool.not_eq_true, decide_eq_true_eq]
  constructor
  · rintro ⟨held, -, other⟩
    exact ⟨held, other⟩
  · rintro ⟨held, other⟩
    exact ⟨held, BitVec.lt_of_getLsbD held, other⟩

/-- The bits of no key are the bits of the mask that are the code of none. -/
theorem bit_unknown (mask : KeyMask) (i : Nat) :
    mask.unknown.bits.getLsbD i = true ↔
      mask.bits.getLsbD i = true ∧ ∀ id : KeyId, id.code.toNat ≠ i := by
  have known := bit_ofIds KeyId.all i
  change (mask \ ofIds KeyId.all).bits.getLsbD i = true ↔ _
  rw [bit_remove, known]
  constructor
  · rintro ⟨held, none⟩
    exact ⟨held, fun id same => none ⟨id, id.mem_all, same⟩⟩
  · rintro ⟨held, none⟩
    refine ⟨held, ?_⟩
    rintro ⟨id, -, same⟩
    exact none id same

/-- Two masks with the same bits are the same. -/
theorem ext_bits {first second : KeyMask}
    (same : ∀ i, first.bits.getLsbD i = true ↔ second.bits.getLsbD i = true) : first = second := by
  rcases first with ⟨bits⟩
  rcases second with ⟨others⟩
  rw [KeyMask.mk.injEq]
  apply BitVec.eq_of_getLsbD_eq
  intro i _
  exact Bool.eq_iff_iff.2 (same i)

theorem isEmpty_iff {mask : KeyMask} :
    mask.isEmpty = true ↔ ∀ i, ¬ mask.bits.getLsbD i = true := by
  rcases mask with ⟨bits⟩
  simp only [isEmpty, empty, beq_iff_eq, KeyMask.mk.injEq, Bool.not_eq_true]
  constructor
  · rintro rfl i
    exact BitVec.getLsbD_zero
  · intro none
    apply BitVec.eq_of_getLsbD_eq
    intro i _
    rw [none i, BitVec.getLsbD_zero]

theorem not_isEmpty_iff {mask : KeyMask} :
    ¬ mask.isEmpty = true ↔ ∃ i, mask.bits.getLsbD i = true := by
  rw [isEmpty_iff, Classical.not_forall]
  exact exists_congr fun i => Classical.not_not

/-- The bits of no key are determined by which they are. -/
theorem unknown_eq {mask rest : KeyMask} (left : ∀ i, rest.bits.getLsbD i = true ↔
    mask.bits.getLsbD i = true ∧ ∀ id : KeyId, id.code.toNat ≠ i) : mask.unknown = rest :=
  ext_bits fun i => (bit_unknown mask i).trans (left i).symm

/-- The bits of the mask are the codes of the keys of which something holds, and no others. -/
def IsOf (mask : KeyMask) (wanted : KeyId → Prop) : Prop :=
  ∀ i, mask.bits.getLsbD i = true ↔ ∃ id, wanted id ∧ id.code.toNat = i

theorem isOf_ofIds (ids : List KeyId) : (ofIds ids).IsOf (· ∈ ids) :=
  bit_ofIds ids

theorem isOf_has (ids : List KeyId) : (ofIds ids).IsOf fun id => (ofIds ids).has id = true := by
  intro i
  simp only [has_ofIds, decide_eq_true_eq, bit_ofIds]

theorem isOf_single (id : KeyId) : (single id).IsOf (· = id) := by
  intro i
  rw [← ofIds_singleton, bit_ofIds]
  simp only [List.mem_singleton]

theorem isOf_empty : empty.IsOf fun _ => False :=
  fun i => by simp [empty]

namespace IsOf

variable {mask other : KeyMask} {wanted more : KeyId → Prop}

theorem union (one : mask.IsOf wanted) (two : other.IsOf more) :
    (mask ∪ other).IsOf fun id => wanted id ∨ more id := by
  intro i
  change (mask.bits ||| other.bits).getLsbD i = true ↔ _
  rw [BitVec.getLsbD_or, Bool.or_eq_true, one i, two i]
  simp only [or_and_right, exists_or]

theorem congr (isOf : mask.IsOf wanted) (same : ∀ id, wanted id ↔ more id) : mask.IsOf more := by
  intro i
  simp only [isOf i, same]

/-- Of the same keys there is one mask only. -/
theorem unique (one : mask.IsOf wanted) (two : other.IsOf wanted) : mask = other :=
  ext_bits fun i => (one i).trans (two i).symm

theorem has_iff (isOf : mask.IsOf wanted) {id : KeyId} : mask.has id = true ↔ wanted id := by
  refine (isOf _).trans ⟨?_, fun holds => ⟨id, holds, rfl⟩⟩
  rintro ⟨other, holds, same⟩
  exact KeyId.code_injective (UInt8.toNat_inj.1 same) ▸ holds

theorem isEmpty_iff (isOf : mask.IsOf wanted) : mask.isEmpty = true ↔ ¬ ∃ id, wanted id := by
  rw [KeyMask.isEmpty_iff]
  constructor
  · rintro none ⟨id, holds⟩
    exact none _ (isOf.has_iff.2 holds)
  · rintro none i held
    obtain ⟨id, holds, -⟩ := (isOf i).1 held
    exact none ⟨id, holds⟩

theorem unknown_isEmpty (isOf : mask.IsOf wanted) : mask.unknown.isEmpty = true := by
  rw [KeyMask.isEmpty_iff]
  intro i unknown
  obtain ⟨held, none⟩ := (bit_unknown mask i).1 unknown
  obtain ⟨id, -, code⟩ := (isOf i).1 held
  exact none id code

end IsOf

theorem contains_iff {first second : KeyMask} :
    first.contains second = true ↔
      ∀ i, second.bits.getLsbD i = true → first.bits.getLsbD i = true := by
  rcases first with ⟨bits⟩
  rcases second with ⟨others⟩
  change ((⟨bits &&& others⟩ : KeyMask) == ⟨others⟩) = true ↔ _
  simp only [beq_iff_eq, KeyMask.mk.injEq]
  constructor
  · intro same i held
    rw [← same, BitVec.getLsbD_and, Bool.and_eq_true] at held
    exact held.1
  · intro part
    apply BitVec.eq_of_getLsbD_eq
    intro i _
    rw [BitVec.getLsbD_and, Bool.and_eq_right_iff_imp]
    exact part i

theorem has_of_contains {part whole : KeyMask} (within : whole.contains part = true) {id : KeyId}
    (held : part.has id = true) : whole.has id = true :=
  contains_iff.1 within _ held

/-- A part of a mask of keys is the mask of the keys that it has. -/
theorem IsOf.of_contains {part whole : KeyMask} {wanted : KeyId → Prop}
    (isOf : whole.IsOf wanted) (within : whole.contains part = true) :
    part.IsOf fun id => part.has id = true := by
  intro i
  constructor
  · intro held
    obtain ⟨id, -, rfl⟩ := (isOf i).1 (contains_iff.1 within i held)
    exact ⟨id, held, rfl⟩
  · rintro ⟨id, held, rfl⟩
    exact held

theorem has_user_iff {id : KeyId} : user.has id = true ↔ id.isImportOnly = false := by
  rcases id with id | id <;> cases id <;> decide

/-- A mask of keys that may be exported has none of the others and no bit of no key. -/
theorem user_contains_iff {mask : KeyMask} :
    user.contains mask = true ↔
      (∀ id, mask.has id = true → id.isImportOnly = false) ∧ mask.unknown.isEmpty = true := by
  have userBit (i : Nat) := bit_ofIds (KeyId.all.filter (fun id => !id.isImportOnly)) i
  rw [contains_iff, isEmpty_iff]
  constructor
  · intro part
    constructor
    · intro id held
      obtain ⟨other, member, same⟩ := (userBit _).1 (part _ held)
      rw [KeyId.code_injective (UInt8.toNat_inj.1 same)] at member
      simpa using (List.mem_filter.1 member).2
    · intro i held
      obtain ⟨inMask, none⟩ := (bit_unknown mask i).1 held
      obtain ⟨id, -, same⟩ := (userBit i).1 (part i inMask)
      exact none id same
  · rintro ⟨allowed, known⟩ i held
    by_cases found : ∃ id : KeyId, id.code.toNat = i
    · obtain ⟨id, rfl⟩ := found
      refine (userBit _).2 ⟨id, List.mem_filter.2 ⟨id.mem_all, ?_⟩, rfl⟩
      rw [allowed id held]
      rfl
    · rw [not_exists] at found
      exact absurd ((bit_unknown mask i).2 ⟨held, found⟩) (known i)

theorem IsOf.user_contains_iff {mask : KeyMask} {wanted : KeyId → Prop}
    (isOf : mask.IsOf wanted) :
    user.contains mask = true ↔ ∀ id, wanted id → id.isImportOnly = false := by
  rw [KeyMask.user_contains_iff, and_iff_left isOf.unknown_isEmpty]
  simp only [isOf.has_iff]

/-- Among the keys of a mask that can only be imported, that of the lower code is found. -/
theorem find?_isImportOnly (mask : KeyMask) :
    mask.ids.find? KeyId.isImportOnly =
      if mask.has (.rsa .rootPublic) then some (.rsa .rootPublic)
      else if mask.has (.hmac .fileWrite) then some (.hmac .fileWrite)
      else none := by
  unfold ids
  rw [List.find?_filter]
  cases root : mask.has (.rsa .rootPublic) with
  | true => simp [KeyId.all, KeyId.isImportOnly, root]
  | false =>
      cases write : mask.has (.hmac .fileWrite) with
      | true => simp [KeyId.all, KeyId.isImportOnly, root, write]
      | false => simp [KeyId.all, KeyId.isImportOnly, root, write]

/-- Two keys can only be imported. -/
theorem exportable_iff {mask : KeyMask} :
    (∀ id, mask.has id = true → id.isImportOnly = false) ↔
      mask.has (.rsa .rootPublic) = false ∧ mask.has (.hmac .fileWrite) = false := by
  constructor
  · intro exportable
    constructor
    · cases held : mask.has (.rsa .rootPublic) with
      | false => rfl
      | true => cases exportable _ held
    · cases held : mask.has (.hmac .fileWrite) with
      | false => rfl
      | true => cases exportable _ held
  · rintro ⟨noRoot, noWrite⟩ id held
    apply Bool.eq_false_iff.2
    intro importOnly
    simp only [KeyId.isImportOnly, Bool.or_eq_true, beq_iff_eq] at importOnly
    rcases importOnly with rfl | rfl
    · rw [noRoot] at held
      cases held
    · rw [noWrite] at held
      cases held

/-- The keys of a mask come in ascending order of their codes. -/
theorem ids_ascending (mask : KeyMask) :
    mask.ids.Pairwise (fun first second => first.code < second.code) :=
  KeyId.filter_all_ascending mask.has

end KeyMask

end Keyring
