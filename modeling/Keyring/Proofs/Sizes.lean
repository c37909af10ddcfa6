/-
Module: Keyring.Proofs.Sizes
Purpose: What a run on one key shows of it.  Reading looks at the lengths of the data and at the
  length fields in them, writing at the lengths of the integers and of the buffer; whether a run
  succeeds, why it fails and what it reports depend on nothing else, apart from the bit length of a
  modulus that is read.
Main exports: Uint.lengthFields, Uint.SameFields, Uint.alike_reads, Rsa.modulusBits?,
  Rsa.SameSizes, Rsa.alike_importHalf, Hmac.alike_importKey, Uint.alike_encodeInto,
  Uint.alike_serialize, RsaKey.sizes, Rsa.alike_exportHalf, Hmac.alike_exportKey
-/
import Keyring.Proofs.Alike
import Keyring.Proofs.Hmac.Blob
import Keyring.Proofs.Rsa.Blob
import Keyring.Proofs.Uint.Room

namespace Keyring

open LittleEndian
open Outcome (Alike)

variable {half : Half} {one two : Bytes}

/-! ## Reading -/

namespace Uint

variable {count : Nat}

/-- The length fields that are looked at when so many numbers are read. -/
def lengthFields : Nat → Bytes → List Bytes
  | 0, _ => []
  | count + 1, data =>
      if data.length < lengthFieldSize then
        []
      else
        let field := data.take lengthFieldSize
        field :: lengthFields count ((data.drop lengthFieldSize).drop (value field))

theorem lengthFields_append {field payload : Bytes} (whole : field.length = lengthFieldSize)
    (count : Nat) :
    lengthFields (count + 1) (field ++ payload) =
      field :: lengthFields count (payload.drop (value field)) := by
  have enough : ¬ (field ++ payload).length < lengthFieldSize := by simp [whole]
  simp only [lengthFields, enough, if_false, List.take_left' whole, List.drop_left' whole]

/-- The data are of the same length, and so many numbers are read with the same length fields. -/
structure SameFields (count : Nat) (one two : Bytes) : Prop where
  length : one.length = two.length
  fields : lengthFields count one = lengthFields count two

/-- Data that begin with a whole length field begin with the same one. -/
theorem SameFields.exists_append {field payload : Bytes} (whole : field.length = lengthFieldSize)
    (same : SameFields (count + 1) (field ++ payload) two) :
    ∃ left, two = field ++ left ∧ payload.length = left.length ∧
      SameFields count (payload.drop (value field)) (left.drop (value field)) := by
  obtain ⟨length, fields⟩ := same
  rw [List.length_append, whole] at length
  obtain ⟨own, left, rfl, ownWhole, rest⟩ := exists_append_of_length length.symm
  rw [lengthFields_append whole, lengthFields_append ownWhole] at fields
  obtain ⟨rfl, behind⟩ := List.cons.inj fields
  refine ⟨left, rfl, rest.symm, ?_, behind⟩
  rw [List.length_drop, List.length_drop, rest]

theorem alike_read (same : SameFields (count + 1) one two) :
    Alike (fun _ rest _ left => SameFields count rest left) (read one) (read two) := by
  by_cases few : one.length < lengthFieldSize
  · rw [read_short few, read_short (same.length ▸ few), same.length]
    exact .failed _ _ _ _
  · obtain ⟨field, payload, rfl, whole, -⟩ :=
      exists_append_of_length (Nat.add_sub_of_le (Nat.le_of_not_lt few)).symm
    obtain ⟨left, rfl, length, behind⟩ := same.exists_append whole
    rw [read_lengthField whole, read_lengthField whole, length]
    split
    · exact .failed _ _ _ _
    · exact .done [] behind

theorem alike_reads (same : SameFields count one two) :
    Alike (fun _ rest _ left => rest.length = left.length) (reads count one) (reads count two) := by
  induction count generalizing one two with
  | zero => exact .done [] same.length
  | succ count inductionHypothesis =>
      refine (alike_read same).bind fun _ _ _ _ behind => ?_
      exact (inductionHypothesis behind).bind fun _ _ _ _ left => .done [] left

theorem alike_finish (length : one.length = two.length) :
    Alike (fun _ _ _ _ => True) (finish one) (finish two) := by
  cases one with
  | nil =>
      obtain rfl := List.length_eq_zero_iff.1 length.symm
      exact .done [] trivial
  | cons byte rest =>
      cases two with
      | nil => cases length
      | cons other left =>
          rw [finish_cons, finish_cons, Nat.succ.inj length]
          exact .failed _ _ _ _

end Uint

namespace Rsa

/-- The bit length of the modulus in a blob, if it can be read. -/
def modulusBits? (half : Half) (blob : Bytes) : Option Nat :=
  (readHalf half blob).result.toOption.map RsaKey.modulusBits

/-- The blobs agree in their length, in every length field that is read, and in the bit length of
the modulus. -/
structure SameSizes (half : Half) (one two : Bytes) : Prop
    extends Uint.SameFields half.numberCount one two where
  modulusBits : modulusBits? half one = modulusBits? half two

theorem alike_readHalf (same : Uint.SameFields half.numberCount one two) :
    Alike (fun _ _ _ _ => True) (readHalf half one) (readHalf half two) := by
  rw [readHalf_eq]
  refine (Uint.alike_reads same).bind fun _ _ _ _ length => ?_
  exact (Uint.alike_finish length).bind fun _ _ _ _ _ => .done [] trivial

/-- What is reported of a key that was read. -/
theorem summary_of_yields {behind : Bytes} {key : RsaKey}
    (done : (readHalf half).Yields one key behind) :
    key.half = half ∧ modulusBits? half one = some key.modulusBits := by
  refine ⟨(yields_readHalf.1 done).1.half_eq, ?_⟩
  rw [modulusBits?, done.1]
  rfl

theorem alike_importHalf (same : SameSizes half one two) (slot other : Slot RsaKey) :
    Alike (fun _ _ _ _ => True) (importHalf half one slot) (importHalf half two other) := by
  have read : Alike (fun key _ held _ => key.summary = held.summary) (readHalf half one)
      (readHalf half two) := by
    refine (alike_readHalf same.toSameFields).yields.mono ?_
    rintro key _ held _ ⟨-, first, second⟩
    obtain ⟨ownHalf, bits⟩ := summary_of_yields first
    obtain ⟨otherHalf, otherBits⟩ := summary_of_yields second
    rw [same.modulusBits, otherBits, Option.some.injEq] at bits
    rw [RsaKey.summary, RsaKey.summary, ownHalf, otherHalf, bits]
  refine (read.within slot other).bind fun key _ held _ summary => ?_
  rw [summary]
  exact .done _ trivial

end Rsa

/-- An HMAC secret is looked at for its length only. -/
theorem Hmac.alike_importKey (length : one.length = two.length) (slot other : Slot HmacKey) :
    Alike (fun _ _ _ _ => True) (importKey one slot) (importKey two other) := by
  by_cases fits : two.length = HmacKey.length
  · have first : HmacKey.ofBytes? one = some ⟨one, length.trans fits⟩ := dif_pos _
    have second : HmacKey.ofBytes? two = some ⟨two, fits⟩ := dif_pos fits
    rw [importKey, importKey, first, second]
    exact .done _ trivial
  · have first : HmacKey.ofBytes? one = none := dif_neg (length ▸ fits)
    have second : HmacKey.ofBytes? two = none := dif_neg fits
    rw [importKey, importKey, first, second, length]
    exact .failed _ _ _ _

/-! ## Writing -/

/-- Two stretches of the same length are cut into stretches of the same lengths. -/
theorem Bytes.alike_cut {σ τ : Type} (length : one.length = two.length) (offset : Nat) (state : σ)
    (start : τ) :
    Alike (fun parts after others last =>
        (parts.1.length = others.1.length ∧ parts.2.length = others.2.length) ∧
          after = state ∧ last = start)
      (Op.checked (one.cut offset) state) (Op.checked (two.cut offset) start) := by
  apply Alike.checked
  by_cases enough : offset ≤ two.length
  · refine .inr ⟨_, _, Bytes.cut_eq_ok (length ▸ enough), Bytes.cut_eq_ok enough, ?_⟩
    simp [length]
  · have few : two.length < offset := Nat.lt_of_not_le enough
    refine .inl ⟨.cut offset two.length, ?_, ?_⟩ <;> simp [Bytes.cut, length, few]

/-- What takes the place of a stretch is of the same length. -/
theorem Bytes.alike_overwrite {σ τ : Type} {source other : Bytes} (length : one.length = two.length)
    (filling : source.length = other.length) (state : σ) (start : τ) :
    Alike (fun filled after others last =>
        (filled.length = others.length) ∧ after = state ∧ last = start)
      (Op.checked (one.overwrite source) state) (Op.checked (two.overwrite other) start) := by
  apply Alike.checked
  unfold Bytes.overwrite
  rw [length, filling]
  split
  · exact .inr ⟨source, other, rfl, rfl, filling⟩
  · exact .inl ⟨_, rfl, rfl⟩

namespace Uint

variable {n m : Nat} {numbers others : List Nat}

theorem encodedLength_congr (width : byteLength n = byteLength m) :
    encodedLength n = encodedLength m := by
  rw [encodedLength, encodedLength, length_magnitude, length_magnitude, width]

theorem length_bytes_congr (width : byteLength n = byteLength m) :
    (magnitude n).length = (magnitude m).length ∧ (bytes n).length = (bytes m).length := by
  have digits : (magnitude n).length = (magnitude m).length := by
    rw [length_magnitude, length_magnitude, width]
  refine ⟨digits, ?_⟩
  rw [length_bytes, length_bytes, digits]

/-- Numbers of the same length are written in the same way to buffers of the same length. -/
theorem alike_encodeInto (width : byteLength n = byteLength m) (length : one.length = two.length) :
    Alike (fun size after other last => size = other ∧ after.length = last.length)
      (encodeInto n one) (encodeInto m two) := by
  obtain ⟨digits, size⟩ := length_bytes_congr width
  by_cases bound : (bytes m).length ≤ maxTotal
  · cases room n one with
    | short few =>
        rw [encodeInto_short (size ▸ bound) few, encodeInto_short bound (length ▸ few), length]
        exact .failed _ _ _ _
    | @cutOff field rest whole few =>
        rw [List.length_append, whole] at length
        obtain ⟨otherField, otherRest, rfl, otherWhole, rests⟩ :=
          exists_append_of_length length.symm
        rw [encodeInto_cutOff (size ▸ bound) whole few,
          encodeInto_cutOff bound otherWhole (by omega), digits, rests]
        exact .failed _ _ _ _
    | @enough room behind sized =>
        rw [List.length_append, sized, size] at length
        obtain ⟨otherRoom, otherBehind, rfl, otherSized, left⟩ :=
          exists_append_of_length length.symm
        rw [encodeInto_room (size ▸ bound) sized, encodeInto_room bound otherSized]
        refine .done [] ⟨size, ?_⟩
        rw [List.length_append, List.length_append, size, left]
  · have exceeds := Nat.lt_of_not_le bound
    rw [encodeInto_overflow (size ▸ exceeds), encodeInto_overflow exceeds]
    exact .failed _ _ _ _

/-- Both sinks have no buffer, or both write into one, and have come as far. -/
inductive Sink.Alike : Sink → Sink → Prop where
  | absent : Alike .absent .absent
  | filling {written ahead writtenToo aheadToo : Bytes}
      (behind : written.length = writtenToo.length) (before : ahead.length = aheadToo.length) :
      Alike (.filling written ahead) (.filling writtenToo aheadToo)

/-- Both writers write into sinks that are alike, and have counted the same. -/
structure Writer.Alike (one two : Writer) : Prop where
  sink : one.sink.Alike two.sink
  total : one.total = two.total

theorem alike_fill (width : byteLength n = byteLength m) {written ahead writtenToo aheadToo : Bytes}
    (behind : written.length = writtenToo.length) (before : ahead.length = aheadToo.length)
    (state start : Sink) :
    Alike (fun size after other last => size = other ∧ after.Alike last)
      (fill n written ahead state) (fill m writtenToo aheadToo start) := by
  have encoded := alike_encodeInto width before
  unfold fill
  generalize encodeInto n ahead = first at encoded
  generalize encodeInto m aheadToo = second at encoded
  cases encoded with
  | failed cause after last log => exact .failed cause _ _ log
  | @done size after other last log holds =>
      obtain ⟨rfl, length⟩ := holds
      dsimp only
      by_cases enough : size ≤ last.length
      · rw [Bytes.cut_eq_ok enough, Bytes.cut_eq_ok (length ▸ enough)]
        refine .done log ⟨rfl, .filling ?_ ?_⟩ <;> simp [behind, length]
      · have few : last.length < size := Nat.lt_of_not_le enough
        simp only [Bytes.cut, Bytes.shorterThan_eq, length, few, decide_true, if_true]
        exact .failed _ _ _ log

theorem alike_put (width : byteLength n = byteLength m) {sink other : Sink}
    (alike : sink.Alike other) :
    Alike (fun size after other last => size = other ∧ after.Alike last)
      (put n sink) (put m other) := by
  refine (Alike.get sink other).bind ?_
  rintro _ _ _ _ ⟨rfl, rfl, rfl, rfl⟩
  cases alike with
  | absent =>
      dsimp only
      rw [encodedLength_congr width]
      refine (Alike.ofExcept _ _ _).mono ?_
      rintro size _ other _ ⟨rfl, rfl, rfl⟩
      exact ⟨rfl, .absent⟩
  | filling behind before => exact alike_fill width behind before _ _

theorem alike_write (width : byteLength n = byteLength m) {writer other : Writer}
    (alike : writer.Alike other) :
    Alike (fun _ after _ last => after.Alike last) (write n writer) (write m other) := by
  unfold write
  have inside : Alike (fun size after other last => size = other ∧ after.Alike last)
      (Op.inside Writer.sink (fun sink writer => { writer with sink }) (put n) writer)
      (Op.inside Writer.sink (fun sink writer => { writer with sink }) (put m) other) :=
    (alike_put width alike.sink).inside fun _ _ _ _ both => ⟨both.1, both.2, alike.total⟩
  refine inside.bind ?_
  rintro size after _ last ⟨rfl, held⟩
  refine (Alike.get after last).bind ?_
  rintro _ _ _ _ ⟨rfl, rfl, rfl, rfl⟩
  rw [held.total]
  refine (Alike.ofExcept _ _ _).bind ?_
  rintro total _ _ _ ⟨rfl, rfl, rfl⟩
  exact .done [] ⟨held.sink, rfl⟩

theorem alike_writeAll (widths : numbers.map byteLength = others.map byteLength)
    {writer other : Writer} (alike : writer.Alike other) :
    Alike (fun _ after _ last => after.Alike last) (writeAll numbers writer)
      (writeAll others other) := by
  induction numbers generalizing others writer other with
  | nil =>
      obtain rfl := List.map_eq_nil_iff.1 widths.symm
      exact .done [] alike
  | cons n rest inductionHypothesis =>
      obtain ⟨m, later, rfl, width, behind⟩ := List.map_eq_cons_iff.1 widths.symm
      refine (alike_write width.symm alike).bind fun _ _ _ _ onward => ?_
      exact inductionHypothesis behind.symm onward

end Uint

/-- There is no buffer in both places, or one of the same length in both. -/
def SameRoom (out other : Option Bytes) : Prop :=
  out.map List.length = other.map List.length

variable {out other : Option Bytes}

theorem Uint.alike_serialize {numbers others : List Nat}
    (widths : numbers.map byteLength = others.map byteLength) (rooms : SameRoom out other) :
    Alike (fun size after other last => size = other ∧ SameRoom after last)
      (serialize numbers out) (serialize others other) := by
  have start : (Writer.start out).Alike (Writer.start other) := by
    cases out with
    | none =>
        obtain rfl := Option.map_eq_none_iff.1 rooms.symm
        exact ⟨.absent, rfl⟩
    | some buffer =>
        obtain ⟨room, rfl, length⟩ := Option.map_eq_some_iff.1 rooms.symm
        exact ⟨.filling rfl length.symm, rfl⟩
  have written := alike_writeAll widths start
  unfold serialize
  generalize writeAll numbers (Writer.start out) = first at written
  generalize writeAll others (Writer.start other) = second at written
  cases written with
  | failed cause after last log => exact .failed cause _ _ log
  | @done _ after _ last log alike =>
      refine .done log ⟨alike.total, ?_⟩
      rcases after with ⟨sink, total⟩
      rcases last with ⟨otherSink, otherTotal⟩
      cases alike.sink with
      | absent => rfl
      | filling behind before => simp [SameRoom, Writer.buffer, behind, before]

/-! ### Keys -/

/-- The integers of a key, in the order of a blob. -/
def RsaKey.integers (key : RsaKey) : List Nat :=
  key.n :: key.e :: match key.secret with
    | none => []
    | some secret => [secret.d, secret.p, secret.q, secret.dp, secret.dq, secret.qInv]

/-- What an RSA key may be known by: which half it is, the bit length of its modulus, and the length
in bytes of each of its integers. -/
def RsaKey.sizes (key : RsaKey) : RsaSummary × List Nat :=
  (key.summary, key.integers.map byteLength)

namespace Rsa

/-- Keys of the same sizes have numbers of the same lengths to be written, or none for the same
reason. -/
theorem fields_congr {key held : RsaKey} (same : key.sizes = held.sizes) (half : Half) :
    (∃ cause, fields half key = .error cause ∧ fields half held = .error cause) ∨
      ∃ numbers others, fields half key = .ok numbers ∧ fields half held = .ok others ∧
        numbers.map byteLength = others.map byteLength := by
  obtain ⟨-, widths⟩ := Prod.mk.inj same
  rcases key with ⟨n, e, secret⟩
  rcases held with ⟨m, f, other⟩
  cases half with
  | publicHalf =>
      refine .inr ⟨_, _, rfl, rfl, ?_⟩
      simp only [RsaKey.integers, List.map_cons, List.cons.injEq] at widths
      simp [widths.1, widths.2.1]
  | privateHalf =>
      cases secret with
      | none =>
          cases other with
          | none => exact .inl ⟨_, rfl, rfl⟩
          | some secret => simp [RsaKey.integers] at widths
      | some secret =>
          cases other with
          | none => simp [RsaKey.integers] at widths
          | some secret => exact .inr ⟨_, _, rfl, rfl, widths⟩

theorem alike_exportHalf {slot held : Slot RsaKey}
    (same : slot.map RsaKey.sizes = held.map RsaKey.sizes) (half : Half)
    (rooms : SameRoom out other) :
    Alike (fun size after other last => size = other ∧ SameRoom after last)
      (exportHalf half slot out) (exportHalf half held other) := by
  cases slot with
  | none =>
      obtain rfl := Option.map_eq_none_iff.1 same.symm
      exact .failed _ _ _ _
  | some key =>
      obtain ⟨held, rfl, sizes⟩ := Option.map_eq_some_iff.1 same.symm
      rcases fields_congr sizes.symm half with ⟨cause, first, second⟩ |
        ⟨numbers, others, first, second, widths⟩
      · rw [exportHalf_refused first, exportHalf_refused second]
        exact .failed _ _ _ _
      · rw [exportHalf_eq first, exportHalf_eq second]
        refine (Uint.alike_serialize widths rooms).bind ?_
        rintro size _ _ _ ⟨rfl, left⟩
        exact .done _ ⟨rfl, left⟩

end Rsa

theorem Hmac.alike_exportKey {slot held : Slot HmacKey} (same : slot.isSome = held.isSome)
    (rooms : SameRoom out other) :
    Alike (fun size after other last => size = other ∧ SameRoom after last)
      (exportKey slot out) (exportKey held other) := by
  cases slot with
  | none =>
      obtain rfl := Option.not_isSome_iff_eq_none.1 (by simp [← same] : ¬ held.isSome = true)
      exact .failed _ _ _ _
  | some key =>
      obtain ⟨held, rfl⟩ := Option.isSome_iff_exists.1 same.symm
      cases out with
      | none =>
          obtain rfl := Option.map_eq_none_iff.1 rooms.symm
          exact .done [] ⟨rfl, rfl⟩
      | some buffer =>
          obtain ⟨room, rfl, length⟩ := Option.map_eq_some_iff.1 rooms.symm
          have sizes : key.bytes.length = held.bytes.length :=
            key.length_bytes.trans held.length_bytes.symm
          by_cases few : room.length < held.bytes.length
          · rw [exportKey_short held few, exportKey_short key (length ▸ sizes ▸ few), length]
            exact .failed _ _ _ _
          · obtain ⟨rest, whole⟩ := Nat.exists_eq_add_of_le (Nat.le_of_not_lt few)
            obtain ⟨front, behind, rfl, sized, left⟩ := Uint.exists_append_of_length whole
            obtain ⟨otherFront, otherBehind, rfl, otherSized, otherLeft⟩ :=
              Uint.exists_append_of_length (length.symm.trans whole)
            rw [exportKey_room held sized, exportKey_room key (otherSized.trans sizes.symm)]
            refine .done [] ⟨sizes, ?_⟩
            simp [SameRoom, sizes, left, otherLeft]

end Keyring
