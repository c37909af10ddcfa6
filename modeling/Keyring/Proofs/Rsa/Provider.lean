/-
Module: Keyring.Proofs.Rsa.Provider
Purpose: What is put into the slots of a pair.  Whatever a provider makes, only a private key of
  standard size is used; both slots are written together, after everything that can fail.  That
  the exponent is the one asked for and that the two halves belong together is left to the
  provider.
Main exports: yields_generate, yields_generatePair, generateInto_apply, hasStandardSize_iff,
  MakesPair, PairFails, yields_generatePair_iff, fails_generatePair_iff, yields_generateInto_iff,
  Provider.HonoursExponent, Provider.DerivesMatching, generateInto_installs
-/
import Keyring.Proofs.LittleEndian
import Keyring.Proofs.Op
import Keyring.Rsa.Provider

namespace Keyring.Rsa

variable {π : Type}

/-- A new key is one that the provider made and that passed both checks. -/
theorem yields_generate {provider : Provider π} {before after : π} {key : RsaKey} :
    (generate provider).Yields before key after ↔
      (provider.generate .standard).Yields before key after ∧ key.isPrivate = true ∧
        key.hasStandardSize = true := by
  unfold generate
  rw [Op.yields_bind]
  constructor
  · rintro ⟨made, between, first, rest⟩
    cases isPrivate : made.isPrivate with
    | false =>
        simp only [isPrivate, Bool.not_false, if_true] at rest
        exact absurd rest Op.not_yields_fail
    | true =>
        cases standard : made.hasStandardSize with
        | false =>
            simp only [isPrivate, standard, Bool.not_true, Bool.not_false, Bool.false_eq_true,
              if_false, if_true] at rest
            exact absurd rest Op.not_yields_reject
        | true =>
            simp only [isPrivate, standard, Bool.not_true, Bool.false_eq_true, if_false,
              Op.yields_bind, Op.yields_emit, Op.yields_pure] at rest
            obtain ⟨_, _, rfl, rfl, rfl⟩ := rest
            exact ⟨first, isPrivate, standard⟩
  · rintro ⟨made, isPrivate, standard⟩
    refine ⟨key, after, made, ?_⟩
    simp only [isPrivate, standard, Bool.not_true, Bool.false_eq_true, if_false]
    exact ⟨rfl, rfl⟩

theorem yields_generatePair {provider : Provider π} {before after : π}
    {privateKey publicKey : RsaKey} :
    (generatePair provider).Yields before (privateKey, publicKey) after ↔
      ∃ between, (generate provider).Yields before privateKey between ∧
        (provider.derivePublic privateKey).Yields between publicKey after := by
  simp only [generatePair, Op.yields_bind, Op.yields_emit, Op.yields_pure, Prod.mk.injEq]
  constructor
  · rintro ⟨_, between, made, _, _, derived, _, _, rfl, ⟨rfl, rfl⟩, rfl⟩
    exact ⟨between, made, derived⟩
  · rintro ⟨between, made, derived⟩
    exact ⟨privateKey, between, made, publicKey, after, derived, (), after, rfl, ⟨rfl, rfl⟩, rfl⟩

/-- A failure leaves both slots, a success replaces both. -/
theorem generateInto_apply (provider : Provider π) (slots : RsaPair) (state : π) :
    generateInto provider (slots, state) =
      match generatePair provider state with
      | ⟨.error cause, after, log⟩ => ⟨.error cause, (slots, after), log⟩
      | ⟨.ok (privateKey, publicKey), after, log⟩ =>
          ⟨.ok (), (⟨some privateKey, some publicKey⟩, after), log⟩ := by
  unfold generateInto
  rw [Op.bind_apply, Op.onSecond, Op.inside]
  rcases generatePair provider state with ⟨cause | ⟨privateKey, publicKey⟩, after, log⟩
  · rfl
  · simp [Op.onFirst, Op.inside]

/-! ## Pairs that are made, and why one is not -/

/-- A modulus of standard size lies between two powers of two; its length in bytes follows. -/
theorem hasStandardSize_iff {key : RsaKey} :
    key.hasStandardSize = true ↔ 2 ^ 2047 ≤ key.n ∧ key.n < 2 ^ 2048 := by
  rw [← LittleEndian.bitLength_eq_iff]
  simp only [RsaKey.hasStandardSize, RsaKey.modulusBytes, RsaKey.modulusBits,
    RsaKey.standardBytes, RsaKey.standardBits, LittleEndian.byteLength, Bool.and_eq_true,
    beq_iff_eq]
  omega

/-- The provider makes a pair: asked for 2048 bits and the exponent 65537 it answers a private key
of exactly so many bits, and then it derives the public key. -/
structure MakesPair (provider : Provider π) (before : π) (privateKey publicKey : RsaKey)
    (after : π) : Prop where
  made : ∃ between,
    (provider.generate { bits := 2048, exponent := 65537 }).Yields before privateKey between ∧
      (provider.derivePublic privateKey).Yields between publicKey after
  isPrivate : privateKey.isPrivate = true
  sized : 2 ^ 2047 ≤ privateKey.n ∧ privateKey.n < 2 ^ 2048

/-- Why a provider makes no pair. -/
inductive PairFails (provider : Provider π) (before : π) : KeyError → Prop where
  | generation {cause : KeyError}
      (failed : (provider.generate { bits := 2048, exponent := 65537 }).Fails before cause) :
      PairFails provider before cause
  | notPrivate {key : RsaKey} {between : π}
      (made : (provider.generate { bits := 2048, exponent := 65537 }).Yields before key between)
      (isPublic : key.isPrivate = false) : PairFails provider before (.provider .publicKeyGenerated)
  | wrongSize {key : RsaKey} {between : π}
      (made : (provider.generate { bits := 2048, exponent := 65537 }).Yields before key between)
      (isPrivate : key.isPrivate = true) (wrong : ¬ (2 ^ 2047 ≤ key.n ∧ key.n < 2 ^ 2048)) :
      PairFails provider before (.size key.modulusBytes key.modulusBits)
  | derivation {key : RsaKey} {between : π} {cause : KeyError}
      (made : (provider.generate { bits := 2048, exponent := 65537 }).Yields before key between)
      (isPrivate : key.isPrivate = true) (sized : 2 ^ 2047 ≤ key.n ∧ key.n < 2 ^ 2048)
      (failed : (provider.derivePublic key).Fails between cause) : PairFails provider before cause

theorem yields_generatePair_iff {provider : Provider π} {before after : π}
    {privateKey publicKey : RsaKey} :
    (generatePair provider).Yields before (privateKey, publicKey) after ↔
      MakesPair provider before privateKey publicKey after := by
  rw [yields_generatePair]
  simp only [yields_generate, hasStandardSize_iff]
  constructor
  · rintro ⟨between, ⟨made, isPrivate, sized⟩, derived⟩
    exact ⟨⟨between, made, derived⟩, isPrivate, sized⟩
  · rintro ⟨⟨between, made, derived⟩, isPrivate, sized⟩
    exact ⟨between, ⟨made, isPrivate, sized⟩, derived⟩

/-- A key that was made is looked at for its half first, for its size second. -/
theorem fails_generate_iff {provider : Provider π} {before : π} {cause : KeyError} :
    (generate provider).Fails before cause ↔
      (provider.generate .standard).Fails before cause ∨
        ∃ key between, (provider.generate .standard).Yields before key between ∧
          (key.isPrivate = false ∧ cause = .provider .publicKeyGenerated ∨
            key.isPrivate = true ∧ key.hasStandardSize = false ∧
              cause = .size key.modulusBytes key.modulusBits) := by
  unfold generate
  rw [Op.fails_bind]
  refine or_congr Iff.rfl (exists_congr fun key => exists_congr fun between =>
    and_congr Iff.rfl ?_)
  cases isPrivate : key.isPrivate with
  | false =>
      simp only [Op.Fails, Bool.not_false, if_true, Op.fail_apply,
        Except.error.injEq, true_and, Bool.false_eq_true, false_and, or_false]
      exact eq_comm
  | true =>
      cases standard : key.hasStandardSize with
      | false =>
          simp only [Op.Fails, Bool.not_true, Bool.not_false, Bool.false_eq_true, if_false, if_true,
            Op.reject_apply, Except.error.injEq, true_and, Bool.true_eq_false, false_and, false_or]
          exact eq_comm
      | true => simp [Op.Fails, Op.bind_apply]

theorem fails_generatePair_iff {provider : Provider π} {before : π} {cause : KeyError} :
    (generatePair provider).Fails before cause ↔ PairFails provider before cause := by
  unfold generatePair
  rw [Op.fails_bind, fails_generate_iff]
  constructor
  · rintro ((failed | ⟨key, between, made, ⟨isPublic, rfl⟩ | ⟨isPrivate, wrong, rfl⟩⟩) |
      ⟨key, between, made, rest⟩)
    · exact .generation failed
    · exact .notPrivate made isPublic
    · rw [Bool.eq_false_iff, ne_eq, hasStandardSize_iff] at wrong
      exact .wrongSize made isPrivate wrong
    · obtain ⟨made, isPrivate, standard⟩ := yields_generate.1 made
      rcases Op.fails_bind.1 rest with failed | ⟨publicKey, last, derived, failed⟩
      · exact .derivation made isPrivate (hasStandardSize_iff.1 standard) failed
      · cases failed
  · intro fails
    cases fails with
    | generation failed => exact .inl (.inl failed)
    | notPrivate made isPublic => exact .inl (.inr ⟨_, _, made, .inl ⟨isPublic, rfl⟩⟩)
    | @wrongSize key between made isPrivate wrong =>
        have standard : key.hasStandardSize = false := by
          rwa [Bool.eq_false_iff, ne_eq, hasStandardSize_iff]
        exact .inl (.inr ⟨key, between, made, .inr ⟨isPrivate, standard, rfl⟩⟩)
    | @derivation key between cause made isPrivate sized failed =>
        have generated := yields_generate.2 ⟨made, isPrivate, hasStandardSize_iff.2 sized⟩
        exact .inr ⟨key, between, generated, Op.fails_bind.2 (.inl failed)⟩

theorem yields_generateInto_iff {provider : Provider π} {slots after : RsaPair} {before last : π} :
    (generateInto provider).Yields (slots, before) () (after, last) ↔
      ∃ privateKey publicKey, MakesPair provider before privateKey publicKey last ∧
        after = ⟨some privateKey, some publicKey⟩ := by
  simp only [← yields_generatePair_iff, Op.Yields, generateInto_apply]
  rcases generatePair provider before with ⟨cause | ⟨privateKey, publicKey⟩, between, log⟩
  · simp
  · constructor
    · rintro ⟨-, same⟩
      obtain ⟨rfl, rfl⟩ := Prod.mk.inj same
      exact ⟨privateKey, publicKey, ⟨rfl, rfl⟩, rfl⟩
    · rintro ⟨_, _, ⟨⟨⟩, rfl⟩, rfl⟩
      exact ⟨rfl, rfl⟩

/-! ## What a provider is relied on for

Nothing below is checked when a pair is made. -/

/-- A key is made with the exponent that was asked for. -/
def Provider.HonoursExponent (provider : Provider π) : Prop :=
  ∀ {params before key after}, (provider.generate params).Yields before key after →
    key.e = params.exponent

/-- The key derived from a private key is its public half. -/
def Provider.DerivesMatching (provider : Provider π) : Prop :=
  ∀ {key before derived after}, (provider.derivePublic key).Yields before derived after →
    derived.isPrivate = false ∧ derived.n = key.n ∧ derived.e = key.e

/-- The key derived from a key of standard size has the standard size. -/
def Provider.DerivesSized (provider : Provider π) : Prop :=
  ∀ {key before derived after}, key.hasStandardSize = true →
    (provider.derivePublic key).Yields before derived after → derived.hasStandardSize = true

/-- A provider with no derivation of its own drops the private integers. -/
theorem Provider.derivesMatching_of_default (make : KeyParams → Op π RsaKey) :
    Provider.DerivesMatching { generate := make } := by
  rintro key before derived after derives
  obtain ⟨rfl, -⟩ := Op.yields_pure.1 derives
  exact ⟨rfl, rfl, rfl⟩

theorem Provider.DerivesMatching.sized {provider : Provider π}
    (matching : provider.DerivesMatching) : provider.DerivesSized := by
  intro key before derived after standard derives
  rw [hasStandardSize_iff] at standard ⊢
  rw [(matching derives).2.1]
  exact standard

/-- A pair that is put into the slots is a private key of standard size that the provider made and
the key that the provider derived from it.  The exponent is the one asked for if the provider
honours it, and the two keys belong together if the provider derives matching keys. -/
theorem generateInto_installs {provider : Provider π} (sized : provider.DerivesSized)
    {slots after : RsaPair} {before last : π}
    (done : (generateInto provider).Yields (slots, before) () (after, last)) :
    ∃ privateKey publicKey, after = ⟨some privateKey, some publicKey⟩ ∧
      (∃ between,
        (provider.generate { bits := 2048, exponent := 65537 }).Yields before privateKey between ∧
          (provider.derivePublic privateKey).Yields between publicKey last) ∧
      (privateKey.isPrivate = true ∧ 2 ^ 2047 ≤ privateKey.n ∧ privateKey.n < 2 ^ 2048) ∧
      (2 ^ 2047 ≤ publicKey.n ∧ publicKey.n < 2 ^ 2048) ∧
      (provider.HonoursExponent → privateKey.e = 65537) ∧
      (provider.DerivesMatching → publicKey.isPrivate = false ∧ publicKey.n = privateKey.n ∧
        publicKey.e = privateKey.e) := by
  obtain ⟨privateKey, publicKey, made, rfl⟩ := yields_generateInto_iff.1 done
  obtain ⟨between, generated, derived⟩ := made.made
  have standard := hasStandardSize_iff.2 made.sized
  exact ⟨privateKey, publicKey, rfl, made.made, ⟨made.isPrivate, made.sized⟩,
    hasStandardSize_iff.1 (sized standard derived), fun honours => honours generated,
    fun matching => matching derived⟩

/-- A provider that makes a key with the exponent that is asked for. -/
def plainProvider : Provider Unit where
  generate params := pure ⟨2 ^ 2047 + 1, params.exponent, some ⟨0, 0, 0, 0, 0, 0⟩⟩

/-- A provider that makes a key with another exponent and derives a key that has nothing to do with
it. -/
def carelessProvider : Provider Unit where
  generate _ := pure ⟨2 ^ 2047 + 1, 3, some ⟨0, 0, 0, 0, 0, 0⟩⟩
  derivePublic _ := pure ⟨2 ^ 2047 + 3, 5, some ⟨0, 0, 0, 0, 0, 0⟩⟩

theorem plainProvider_installs :
    ∃ after, (generateInto plainProvider).Yields (⟨none, none⟩, ()) () (after, ()) ∧
      ∃ privateKey publicKey, after = ⟨some privateKey, some publicKey⟩ ∧
        privateKey.isPrivate = true ∧ privateKey.e = 65537 ∧ publicKey.isPrivate = false ∧
        publicKey.n = privateKey.n ∧ publicKey.e = privateKey.e := by
  let privateKey : RsaKey := ⟨2 ^ 2047 + 1, 65537, some ⟨0, 0, 0, 0, 0, 0⟩⟩
  have matching : plainProvider.DerivesMatching := Provider.derivesMatching_of_default _
  have honours : plainProvider.HonoursExponent := by
    rintro params before key after generated
    obtain ⟨rfl, -⟩ := Op.yields_pure.1 generated
    rfl
  have done : (generateInto plainProvider).Yields (⟨none, none⟩, ()) ()
      (⟨some privateKey, some privateKey.toPublic⟩, ()) :=
    yields_generateInto_iff.2 ⟨privateKey, privateKey.toPublic,
      { made := ⟨(), Op.yields_pure.2 ⟨rfl, rfl⟩, Op.yields_pure.2 ⟨rfl, rfl⟩⟩
        isPrivate := rfl
        sized := by decide +kernel }, rfl⟩
  obtain ⟨made, derived, installed, -, ⟨isPrivate, -⟩, -, exponent, belong⟩ :=
    generateInto_installs matching.sized done
  exact ⟨_, done, made, derived, installed, isPrivate, exponent honours, belong matching⟩

/-- Without these promises a pair need not be one. -/
theorem carelessProvider_installs :
    carelessProvider.DerivesSized ∧
      ∃ privateKey publicKey, (generateInto carelessProvider).Yields (⟨none, none⟩, ()) ()
          (⟨some privateKey, some publicKey⟩, ()) ∧
        privateKey.e ≠ 65537 ∧ publicKey.isPrivate = true ∧ publicKey.n ≠ privateKey.n ∧
        publicKey.e ≠ privateKey.e := by
  let privateKey : RsaKey := ⟨2 ^ 2047 + 1, 3, some ⟨0, 0, 0, 0, 0, 0⟩⟩
  let publicKey : RsaKey := ⟨2 ^ 2047 + 3, 5, some ⟨0, 0, 0, 0, 0, 0⟩⟩
  constructor
  · intro key before derived after standard derives
    obtain ⟨rfl, -⟩ := Op.yields_pure.1 derives
    rw [hasStandardSize_iff]
    decide +kernel
  · have made : MakesPair carelessProvider () privateKey publicKey () :=
      { made := ⟨(), Op.yields_pure.2 ⟨rfl, rfl⟩, Op.yields_pure.2 ⟨rfl, rfl⟩⟩
        isPrivate := rfl
        sized := by decide +kernel }
    exact ⟨privateKey, publicKey, yields_generateInto_iff.2 ⟨_, _, made, rfl⟩, by decide +kernel,
      rfl, by decide +kernel, by decide +kernel⟩

end Keyring.Rsa
