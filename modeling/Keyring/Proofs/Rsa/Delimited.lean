/-
Module: Keyring.Proofs.Rsa.Delimited
Purpose: An RSA blob says itself where it ends.  What is read from it depends only on the bytes that
  are taken, so less than the blob ends too early, more than the blob leaves something over, and the
  blob of one half of a pair is never one of the other half.
Main exports: fails_readHalf, refuses_importHalf, exists_isBlob_of_imported, yields_importHalf,
  SelfDelimiting, importHalf_selfDelimiting
-/
import Keyring.Proofs.Rsa.Blob

namespace Keyring.Rsa

open Uint (reads)

variable {half : Half} {blob : Bytes} {key : RsaKey} {slot : Slot RsaKey} {cause : KeyError}

/-! ## How one half is refused -/

/-- One half cannot be read where its numbers cannot, or where something is left behind them. -/
theorem fails_readHalf :
    (readHalf half).Fails blob cause ↔
      (reads half.numberCount).Fails blob cause ∨
        ∃ numbers behind, (reads half.numberCount).Yields blob numbers behind ∧ behind ≠ [] ∧
          cause = .format (.trailingData behind.length) := by
  rw [readHalf_eq, Op.fails_bind]
  refine or_congr_right (exists_congr fun numbers => exists_congr fun behind => ?_)
  apply and_congr_right
  intro numbersRead
  rw [Op.fails_bind, Uint.fails_finish]
  constructor
  · rintro (left | ⟨_, _, _, failed⟩)
    · exact left
    · cases failed
  · exact Or.inl

/-- A slot keeps its key if the blob cannot be read. -/
theorem refuses_importHalf (failed : (readHalf half).Fails blob cause) (slot : Slot RsaKey) :
    (importHalf half blob).Refuses slot cause := by
  rw [Op.Refuses, Op.Fails, importHalf_of_fails failed]
  exact ⟨rfl, rfl⟩

theorem exists_isBlob_of_imported (accepted : (importHalf half blob slot).result = .ok ()) :
    ∃ key, IsBlob half blob key := by
  by_contra bad
  obtain ⟨cause, log, refused⟩ := importHalf_refused bad
  rw [refused] at accepted
  cases accepted

/-- A slot holds a key after an import exactly if the bytes are a blob of it. -/
theorem yields_importHalf :
    (importHalf half blob).Yields slot () (some key) ↔ IsBlob half blob key := by
  constructor
  · intro done
    obtain ⟨other, isBlob⟩ := exists_isBlob_of_imported done.1
    rw [Op.Yields, importHalf_of_isBlob isBlob] at done
    cases done.2
    exact isBlob
  · intro isBlob
    rw [Op.Yields, importHalf_of_isBlob isBlob]
    exact ⟨rfl, rfl⟩

/-- What is read from a blob are the numbers that are written for its key. -/
theorem IsBlob.yields_reads (isBlob : IsBlob half blob key) :
    ∃ numbers, (reads half.numberCount).Yields blob numbers [] ∧
      fields half key = .ok numbers := by
  obtain ⟨numbers, numbersRead, made⟩ := isBlob.exists_reads
  refine ⟨numbers, ?_, (keyOfNumbers?_eq_some.1 made).2⟩
  rw [Op.Yields, numbersRead]
  exact ⟨rfl, rfl⟩

/-! ## Where a blob ends -/

/-- The bytes are a blob of one half, and neither their front nor anything that they are the front
of is one. -/
structure SelfDelimiting (half : Half) (blob : Bytes) : Prop where
  /-- Less than the blob ends too early. -/
  truncated : ∀ front, front <+: blob → front ≠ blob → ∀ held : Slot RsaKey,
    ∃ needed remaining,
      (importHalf half front).Refuses held (.format (.dataEnds needed remaining))
  /-- More than the blob leaves all that is added over. -/
  extended : ∀ more, more ≠ [] → ∀ held : Slot RsaKey,
    (importHalf half (blob ++ more)).Refuses held (.format (.trailingData more.length))

/-- A front of a blob has too few numbers: with enough of them, what is behind the front would be
left over behind the blob. -/
theorem IsBlob.fails_front (isBlob : IsBlob half blob key) {front more : Bytes}
    (whole : front ++ more = blob) (proper : more ≠ []) :
    ∃ needed remaining, (readHalf half).Fails front (.format (.dataEnds needed remaining)) := by
  obtain ⟨numbers, numbersRead, -⟩ := isBlob.yields_reads
  have tooFew : ∀ others behind, ¬ (reads half.numberCount).Yields front others behind := by
    intro others behind enough
    have onward := (Uint.yields_reads_append enough more).2
    rw [whole, numbersRead.2] at onward
    exact proper (List.append_eq_nil_iff.1 onward.symm).2
  cases ending : ((reads half.numberCount) front).result with
  | ok others => exact absurd (Op.yields_of_result ending) (tooFew others _)
  | error cause =>
      obtain ⟨needed, remaining, rfl⟩ := Uint.raises_reads _ front cause ending
      exact ⟨needed, remaining, fails_readHalf.2 (.inl ending)⟩

theorem IsBlob.selfDelimiting (isBlob : IsBlob half blob key) : SelfDelimiting half blob where
  truncated front part proper held := by
    obtain ⟨more, whole⟩ := part
    have some : more ≠ [] := by
      rintro rfl
      exact proper ((List.append_nil front).symm.trans whole)
    obtain ⟨needed, remaining, failed⟩ := isBlob.fails_front whole some
    exact ⟨needed, remaining, refuses_importHalf failed held⟩
  extended more some held := by
    obtain ⟨numbers, numbersRead, -⟩ := isBlob.yields_reads
    have onward := Uint.yields_reads_append numbersRead more
    rw [List.nil_append] at onward
    exact refuses_importHalf (fails_readHalf.2 (.inr ⟨numbers, more, onward, some, rfl⟩)) held

/-! ## The other half -/

/-- The blob of a public half ends before the numbers of a private one. -/
theorem IsBlob.fails_readPrivate (isBlob : IsBlob .publicHalf blob key) :
    (readHalf .privateHalf).Fails blob (.format (.dataEnds Uint.lengthFieldSize 0)) := by
  obtain ⟨numbers, numbersRead, -⟩ := isBlob.yields_reads
  have split : Half.privateHalf.numberCount = Half.publicHalf.numberCount + 6 := rfl
  apply fails_readHalf.2
  apply Or.inl
  rw [split, Uint.reads_add]
  exact Op.fails_bind.2 (.inr ⟨numbers, [], numbersRead,
    Op.fails_bind.2 (.inl (Uint.fails_reads_nil 5))⟩)

/-- The blob of a private half begins with the numbers of a public one, and more are behind them. -/
theorem IsBlob.fails_readPublic (isBlob : IsBlob .privateHalf blob key) :
    ∃ behind, (reads 2).Yields blob [key.n, key.e] behind ∧
      (readHalf .publicHalf).Fails blob (.format (.trailingData behind.length)) := by
  obtain ⟨numbers, numbersRead, listed⟩ := isBlob.yields_reads
  obtain ⟨n, e, _ | secret⟩ := key
  · cases listed
  cases listed
  have split : Half.privateHalf.numberCount = 2 + 6 := rfl
  rw [split, Uint.reads_add] at numbersRead
  obtain ⟨first, behind, firstRead, later⟩ := Op.yields_bind.1 numbersRead
  obtain ⟨rest, last, restRead, answered⟩ := Op.yields_bind.1 later
  have whole : first ++ rest = [n, e] ++
      [secret.d, secret.p, secret.q, secret.dp, secret.dq, secret.qInv] :=
    (Op.yields_pure.1 answered).1
  have count : first.length = 2 := by
    obtain ⟨magnitudes, enough, -, -, rfl⟩ := Uint.yields_reads.1 firstRead
    rw [List.length_map, enough]
  obtain ⟨rfl, -⟩ := List.append_inj whole count
  have some : behind ≠ [] := by
    rintro rfl
    have none := Uint.fails_reads_nil 5
    rw [Op.Fails, restRead.1] at none
    cases none
  exact ⟨behind, firstRead, fails_readHalf.2 (.inr ⟨[n, e], behind, firstRead, some, rfl⟩)⟩

/-- A blob of one half that a slot has accepted is no longer accepted once bytes are cut off its end
or added to it, and it is not accepted as the other half: the numbers of a public half end before a
private one is complete, and behind those of a private half that a public one needs there are more.
Whatever is refused leaves the slot with the key that it held. -/
theorem importHalf_selfDelimiting (blob : Bytes) (slot : Slot RsaKey) :
    ((importPrivate blob slot).result = .ok () → SelfDelimiting .privateHalf blob ∧
      ∃ n e behind, (reads 2).Yields blob [n, e] behind ∧ ∀ held,
        (importPublic blob).Refuses held (.format (.trailingData behind.length))) ∧
    ((importPublic blob slot).result = .ok () → SelfDelimiting .publicHalf blob ∧ ∀ held,
      (importPrivate blob).Refuses held (.format (.dataEnds 4 0))) := by
  constructor
  · intro accepted
    obtain ⟨key, isBlob⟩ := exists_isBlob_of_imported accepted
    obtain ⟨behind, firstRead, failed⟩ := isBlob.fails_readPublic
    exact ⟨isBlob.selfDelimiting, key.n, key.e, behind, firstRead, refuses_importHalf failed⟩
  · intro accepted
    obtain ⟨key, isBlob⟩ := exists_isBlob_of_imported accepted
    exact ⟨isBlob.selfDelimiting, refuses_importHalf isBlob.fails_readPrivate⟩

/-- The magnitudes of a private half, of no byte to three bytes. -/
def shortMagnitudes : List Bytes :=
  [[3, 2, 1], [1, 0, 1], [7, 1], [251], [241], [], [13], [9, 8]]

/-- They are a private half, and the first two of them a public one.  The private half is refused as
a public one, with six numbers left over, and the public half is refused without its last byte,
which is the end of its exponent. -/
theorem shortMagnitudes_selfDelimiting :
    (importPrivate (Uint.frames shortMagnitudes) none).result = .ok () ∧
      SelfDelimiting .privateHalf (Uint.frames shortMagnitudes) ∧
      (importPublic (Uint.frames shortMagnitudes)).Refuses none (.format (.trailingData 31)) ∧
      (importPublic (Uint.frames (shortMagnitudes.take 2)) none).result = .ok () ∧
      SelfDelimiting .publicHalf (Uint.frames (shortMagnitudes.take 2)) ∧
      ∃ needed remaining, (importPublic [3, 0, 0, 0, 3, 2, 1, 3, 0, 0, 0, 1, 0]).Refuses none
        (.format (.dataEnds needed remaining)) := by
  have privateRead : (importPrivate (Uint.frames shortMagnitudes) none).result = .ok () := by rfl
  have publicRead : (importPublic (Uint.frames (shortMagnitudes.take 2)) none).result = .ok () := by
    rfl
  obtain ⟨wholePrivate, n, e, behind, numbersRead, refused⟩ :=
    (importHalf_selfDelimiting _ none).1 privateRead
  have wholePublic := ((importHalf_selfDelimiting _ none).2 publicRead).1
  have left : behind.length = 31 := congrArg List.length numbersRead.2.symm
  refine ⟨privateRead, wholePrivate, left ▸ refused none, publicRead, wholePublic, ?_⟩
  exact wholePublic.truncated _ ⟨[1], rfl⟩ (by decide) none

end Keyring.Rsa
