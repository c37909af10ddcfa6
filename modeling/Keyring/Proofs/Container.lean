/-
Module: Keyring.Proofs.Container
Purpose: Containers as a grammar.  A container is made of records, each of which says how long its
  data are, so it is made of one list of records only; cutting records off its front finds them one
  after the other and fails where the container ends inside of one.
Main exports: Record.MadeOf, Record.length_join, Record.length_data_le_join, Record.last?,
  Record.last?_append, Record.Ascending, Ascending.eq_of_subset, Record.Front, Record.front,
  Record.next?_bytes, Record.exists_append_of_join, Record.container_induction,
  Record.MadeOf.unique
-/
import Mathlib.Algebra.Order.BigOperators.Group.List
import Mathlib.Data.List.Nodup
import Mathlib.Data.List.Sort
import Keyring.Container
import Keyring.Proofs.Uint.Reader

namespace Keyring.Record

open LittleEndian

/-- The container is the given records, one after the other, and nothing else. -/
def MadeOf (container : Bytes) (records : List Record) : Prop :=
  (∀ record ∈ records, record.data.Fits) ∧ container = join records

/-- The last record with a given type byte. -/
def last? (code : UInt8) (records : List Record) : Option Record :=
  records.reverse.find? (fun record => record.code == code)

@[simp] theorem join_nil : join [] = [] := rfl

@[simp] theorem join_cons (record : Record) (rest : List Record) :
    join (record :: rest) = record.bytes ++ join rest := rfl

theorem length_bytes (record : Record) : record.bytes.length = headerSize + record.data.length := by
  simp only [bytes, headerSize, List.length_append, length_digits, List.length_cons]
  omega

/-- The length of a container is that of its headers and of its data. -/
theorem length_join (records : List Record) :
    (join records).length = (records.map fun record => headerSize + record.data.length).sum := by
  unfold join
  rw [List.length_flatMap]
  exact congrArg List.sum (List.map_congr_left fun record _ => length_bytes record)

/-- The data of a record are not longer than a container with the record. -/
theorem length_data_le_join {record : Record} {records : List Record}
    (member : record ∈ records) : record.data.length ≤ (join records).length := by
  have part : record.bytes.length ≤ (join records).length :=
    (List.sublist_flatten_of_mem (List.mem_map_of_mem member)).length_le
  rw [length_bytes] at part
  omega

/-- Different records of a list take no more bytes than the list. -/
theorem length_join_le_of_subset {chosen records : List Record} (apart : chosen.Nodup)
    (part : chosen ⊆ records) : (join chosen).length ≤ (join records).length := by
  obtain ⟨sorted, same, sub⟩ := List.subperm_of_subset apart part
  rw [length_join, length_join, ← (same.map _).sum_eq]
  exact (sub.map _).sum_le_sum fun _ _ => Nat.zero_le _

theorem last?_append (code : UInt8) (first later : List Record) :
    last? code (first ++ later) = (last? code later).or (last? code first) := by
  unfold last?
  rw [List.reverse_append, List.find?_append]

theorem last?_singleton (code : UInt8) (record : Record) :
    last? code [record] = if record.code = code then some record else none := by
  by_cases same : record.code = code <;> simp [last?, same]

/-! ## The last record of a type -/

theorem mem_of_last? {code : UInt8} {records : List Record} {record : Record}
    (found : last? code records = some record) : record ∈ records ∧ record.code = code :=
  ⟨List.mem_reverse.1 (List.mem_of_find?_eq_some found), by simpa using List.find?_some found⟩

theorem exists_last? {records : List Record} {record : Record} (member : record ∈ records) :
    ∃ last, last? record.code records = some last := by
  rw [← Option.isSome_iff_exists, last?, List.find?_isSome]
  exact ⟨record, List.mem_reverse.2 member, beq_self_eq_true _⟩

/-- The type bytes rise from one record to the next. -/
def Ascending (records : List Record) : Prop :=
  records.Pairwise fun first second => first.code < second.code

namespace Ascending

variable {records others : List Record}

theorem nodup_codes (ascending : Ascending records) : (records.map code).Nodup :=
  List.pairwise_map.2 (ascending.imp UInt8.ne_of_lt)

/-- Of each type there is one record only. -/
theorem last?_eq_self (ascending : Ascending records) {record : Record}
    (member : record ∈ records) : last? record.code records = some record := by
  obtain ⟨last, found⟩ := exists_last? member
  obtain ⟨behind, same⟩ := mem_of_last? found
  rw [found, List.inj_on_of_nodup_map ascending.nodup_codes behind member same]

/-- Two ascending lists with the same records are the same. -/
theorem eq_of_subset (one : Ascending records) (two : Ascending others) (sub : records ⊆ others)
    (sup : others ⊆ records) : records = others := by
  have apart (first second : Record) (below : first.code < second.code) :
      ¬ second.code < first.code := UInt8.lt_asymm below
  have irreflexive : Std.Irrefl fun first second : Record => first.code < second.code :=
    ⟨fun record below => apart record record below below⟩
  have antisymmetric : Std.Antisymm fun first second : Record => first.code < second.code :=
    ⟨fun first second below above => absurd above (apart first second below)⟩
  exact List.Subset.antisymm_of_pairwise one two sub sup

end Ascending

/-! ## The front of a container -/

/-- What can stand at the front of a container. -/
inductive Front : Bytes → Prop where
  /-- Less than a record header. -/
  | short {container : Bytes} (few : container.length < headerSize) : Front container
  /-- A header that names more data than are left. -/
  | cutOff {field rest : Bytes} (code : UInt8) (whole : field.length = Uint.lengthFieldSize)
      (few : rest.length < value field) : Front (field ++ code :: rest)
  /-- A whole record. -/
  | record {record : Record} {behind : Bytes} (fits : record.data.Fits) :
      Front (record.bytes ++ behind)

theorem front (container : Bytes) : Front container := by
  by_cases few : container.length < headerSize
  · exact .short few
  obtain ⟨field, code, rest, rfl, whole⟩ : ∃ field code rest, container = field ++ code :: rest ∧
      field.length = Uint.lengthFieldSize := by
    have long : Uint.lengthFieldSize < container.length := by
      unfold headerSize at few
      omega
    refine ⟨container.take Uint.lengthFieldSize, container[Uint.lengthFieldSize],
      container.drop (Uint.lengthFieldSize + 1), ?_, List.length_take_of_le (Nat.le_of_lt long)⟩
    rw [← List.drop_eq_getElem_cons long, List.take_append_drop]
  by_cases enough : rest.length < value field
  · exact .cutOff code whole enough
  have taken : (rest.take (value field)).length = value field :=
    List.length_take_of_le (Nat.le_of_not_lt enough)
  have cut : field ++ code :: rest =
      bytes ⟨code, rest.take (value field)⟩ ++ rest.drop (value field) := by
    rw [bytes, taken, Uint.lengthField_eq whole, List.append_assoc, List.cons_append,
      List.take_append_drop]
  rw [cut]
  apply Front.record
  rw [Bytes.Fits, taken]
  exact Uint.value_lt_of_lengthField whole

theorem next?_short {container : Bytes} (few : container.length < headerSize) :
    next? container = .error (.format (.headerEnds container.length)) := by
  simp [next?, few]

/-- Behind a whole header only the data that it names are looked at. -/
theorem next?_header {field rest : Bytes} (code : UInt8)
    (whole : field.length = Uint.lengthFieldSize) :
    next? (field ++ code :: rest) =
      if rest.length < value field then
        .error (.format (.dataEnds (value field) rest.length))
      else
        .ok (⟨code, rest.take (value field)⟩, rest.drop (value field)) := by
  have enough : ¬ (field ++ code :: rest).length < headerSize := by
    simp only [List.length_append, List.length_cons, headerSize]
    omega
  simp only [next?, Bytes.shorterThan_eq, enough, decide_false, Bool.false_eq_true, if_false,
    Bytes.cut_append whole, ofBytes_eq_value, decide_eq_true_eq]
  split
  · rfl
  · next room => rw [Bytes.cut_eq_ok (Nat.le_of_not_lt room)]

theorem next?_bytes {record : Record} (fits : record.data.Fits) (behind : Bytes) :
    next? (record.bytes ++ behind) = .ok (record, behind) := by
  rw [bytes, List.append_assoc, List.cons_append, next?_header _ (length_digits _ _),
    Uint.value_lengthField fits]
  simp

/-- A record says where it ends. -/
theorem bytes_append_inj {record other : Record} {behind rest : Bytes} (one : record.data.Fits)
    (two : other.data.Fits) (same : record.bytes ++ behind = other.bytes ++ rest) :
    record = other ∧ behind = rest := by
  have cut := next?_bytes one behind
  rw [same, next?_bytes two] at cut
  simp only [Except.ok.injEq, Prod.mk.injEq] at cut
  exact ⟨cut.1.symm, cut.2.symm⟩

/-- Two ways of cutting records off the front of one container differ only in how many records
they cut off. -/
theorem exists_append_of_join {first second : List Record} {rest others : Bytes}
    (firstFits : ∀ record ∈ first, record.data.Fits)
    (secondFits : ∀ record ∈ second, record.data.Fits)
    (same : join first ++ rest = join second ++ others) (few : first.length ≤ second.length) :
    ∃ between, second = first ++ between ∧ rest = join between ++ others := by
  induction first generalizing second with
  | nil => exact ⟨second, rfl, same⟩
  | cons record records inductionHypothesis =>
      cases second with
      | nil => exact absurd few (Nat.not_succ_le_zero _)
      | cons front later =>
          rw [List.forall_mem_cons] at firstFits secondFits
          rw [join_cons, join_cons, List.append_assoc, List.append_assoc] at same
          obtain ⟨rfl, behind⟩ := bytes_append_inj firstFits.1 secondFits.1 same
          obtain ⟨between, rfl, left⟩ := inductionHypothesis firstFits.2 secondFits.2 behind
            (Nat.le_of_succ_le_succ few)
          exact ⟨between, rfl, left⟩

/-- A container is empty, or broken at its front, or a record in front of a container. -/
theorem container_induction {motive : Bytes → Prop} (nil : motive [])
    (broken : ∀ container cause, container ≠ [] → next? container = .error cause →
      motive container)
    (record : ∀ record behind, record.data.Fits → motive behind →
      motive (bytes record ++ behind))
    (container : Bytes) : motive container := by
  induction size : container.length using Nat.strongRecOn generalizing container with
  | ind _ inductionHypothesis =>
      by_cases empty : container = []
      · exact empty ▸ nil
      cases front container with
      | short few => exact broken _ _ empty (next?_short few)
      | cutOff code whole few =>
          exact broken _ _ empty ((next?_header code whole).trans (if_pos few))
      | @record first behind fits =>
          have shorter := length_next (next?_bytes fits behind)
          exact record first behind fits (inductionHypothesis _ (size ▸ shorter) behind rfl)

/-- A container is made of one list of records only. -/
theorem MadeOf.unique {container : Bytes} {first second : List Record}
    (one : MadeOf container first) (two : MadeOf container second) : first = second := by
  rcases one with ⟨firstFits, rfl⟩
  rcases two with ⟨secondFits, same⟩
  induction first generalizing second with
  | nil =>
      cases second with
      | nil => rfl
      | cons record rest => simp [bytes] at same
  | cons record rest inductionHypothesis =>
      cases second with
      | nil => simp [bytes] at same
      | cons other others =>
          rw [List.forall_mem_cons] at firstFits secondFits
          obtain ⟨rfl, later⟩ := bytes_append_inj firstFits.1 secondFits.1 same
          rw [inductionHypothesis firstFits.2 secondFits.2 later]

end Keyring.Record
