/-
Module: Keyring.Proofs.Rsa.Components
Purpose: From a stored key to checked integers and back.  What a library is relied on for is stated
  apart from the library itself: which integers it accepts, and that its coefficient is an inverse.
  Accepted integers are large enough for every difference and every remainder on the way back, and
  only two factors with a common divisor cannot go back.
Main exports: bezout_eq_gcd, inverse?_eq_some, PrivateComponents.check_eq_ok, Library.Documented,
  Library.documented_standard, Fitting, Reduced, Reduced.eq_key_iff, Documented.fitting,
  Documented.ofComponents_of_common, Documented.ofComponents_of_coprime, Documented.converts_back
-/
import Mathlib.Algebra.BigOperators.Group.List.Basic
import Mathlib.Data.Int.ModEq
import Mathlib.Data.Nat.ModEq
import Mathlib.Tactic.LinearCombination
import Keyring.Rsa.Components

namespace Keyring.Rsa

/-! ## Inverses -/

theorem bezout_eq_gcd (a b : Nat) : (bezout a b).1 * a + (bezout a b).2 * b = Nat.gcd a b := by
  fun_induction bezout a b with
  | case1 a => simp
  | case2 a b rest inductionHypothesis =>
      have division : (a : Int) = (b + 1) * (a / (b + 1) : Nat) + (a % (b + 1) : Nat) := by
        exact_mod_cast (Nat.div_add_mod a (b + 1)).symm
      rw [Nat.gcd_comm a, Nat.gcd_rec, Nat.gcd_comm (a % (b + 1)), ← inductionHypothesis]
      push_cast at division ⊢
      linear_combination rest.2 * division

/-- Nothing has the remainder one modulo one. -/
theorem one_lt_of_mod_eq_one {a m : Nat} (positive : 0 < m) (one : a % m = 1) : 1 < m := by
  have small := Nat.mod_lt a positive
  omega

theorem modEq_one_iff {a m : Nat} (large : 1 < m) : a ≡ 1 [MOD m] ↔ a % m = 1 := by
  rw [Nat.ModEq, Nat.mod_eq_of_lt large]

theorem inverse?_eq_none {a m : Nat} : inverse? a m = none ↔ Nat.gcd a m ≠ 1 := by
  unfold inverse?
  split
  · next coprime => simp [coprime]
  · next common => simp [common]

theorem inverse?_of_coprime {a m : Nat} (positive : 0 < m) (coprime : Nat.gcd a m = 1) :
    ∃ x, inverse? a m = some x ∧ x < m ∧ x * a ≡ 1 [MOD m] := by
  have nonzero : (m : Int) ≠ 0 := by omega
  have small := Int.emod_lt_of_pos (bezout (a % m) m).1 (by omega : (0 : Int) < m)
  have reduced : (((bezout (a % m) m).1 % m).toNat : Int) = (bezout (a % m) m).1 % m :=
    Int.toNat_of_nonneg (Int.emod_nonneg _ nonzero)
  have identity := bezout_eq_gcd (a % m) m
  rw [← Nat.gcd_rec, Nat.gcd_comm, coprime] at identity
  refine ⟨_, if_pos coprime, by omega, ?_⟩
  rw [← Int.natCast_modEq_iff]
  push_cast
  rw [reduced]
  calc
    (bezout (a % m) m).1 % m * (a : Int) ≡ (bezout (a % m) m).1 * (a % m : Nat) [ZMOD m] := by
      push_cast
      exact (Int.mod_modEq _ _).mul (Int.mod_modEq _ _).symm
    _ ≡ 1 [ZMOD m] := by
      rw [Int.modEq_iff_dvd]
      exact ⟨(bezout (a % m) m).2, by push_cast at identity ⊢; linear_combination -identity⟩

/-- The inverse is the only one below the modulus. -/
theorem inverse?_eq_some {a m x : Nat} (large : 1 < m) :
    inverse? a m = some x ↔ x < m ∧ x * a % m = 1 := by
  rw [← modEq_one_iff large]
  constructor
  · intro found
    by_cases coprime : Nat.gcd a m = 1
    · obtain ⟨y, other, inverse⟩ := inverse?_of_coprime (Nat.zero_lt_of_lt large) coprime
      obtain rfl := Option.some.inj (found.symm.trans other)
      exact inverse
    · rw [inverse?_eq_none.2 coprime] at found
      cases found
  · rintro ⟨small, inverse⟩
    have coprime : Nat.gcd a m = 1 :=
      Nat.coprime_of_mul_modEq_one x ((Nat.mul_comm a x).symm ▸ inverse)
    obtain ⟨y, found, otherSmall, otherInverse⟩ :=
      inverse?_of_coprime (Nat.zero_lt_of_lt large) coprime
    have same : y ≡ x [MOD m] :=
      Nat.ModEq.cancel_right_of_coprime (Nat.gcd_comm a m ▸ coprime)
        (otherInverse.trans inverse.symm)
    rw [found, same.eq_of_lt_of_lt otherSmall small]

/-! ## What a library is relied on for -/

theorem refusing_eq_ok {ε α : Type} {condition : Prop} [Decidable condition] {cause : ε}
    {rest : Except ε α} {answer : α} :
    (if condition then .error cause else rest) = .ok answer ↔
      ¬ condition ∧ rest = .ok answer := by
  split
  · next refused => simp [refused]
  · next passed => simp [passed]

theorem PrivateComponents.check_eq_ok {n e d : Nat} {factors : List Nat}
    {components : PrivateComponents} :
    PrivateComponents.check n e d factors = .ok components ↔
      2 ≤ factors.length ∧ checkPublic n e = .ok () ∧ (∀ factor ∈ factors, 1 < factor) ∧
        factors.prod = n ∧ (∀ factor ∈ factors, e * d % (factor - 1) = 1) ∧
        components = ⟨n, e, d, factors⟩ := by
  unfold PrivateComponents.check
  rw [refusing_eq_ok, Nat.not_lt, List.prod_eq_foldl]
  refine and_congr_right fun _ => ?_
  cases checkPublic n e with
  | error cause => simp [bind, Except.bind]
  | ok answer =>
      change ite _ _ _ = _ ↔ _
      simp only [refusing_eq_ok, List.any_eq_true, decide_eq_true_eq, not_exists, not_and,
        Nat.not_le, not_not, true_and, pure, Except.pure, Except.ok.injEq]
      rw [eq_comm (b := components)]

/-- What is documented of a library. -/
structure Library.Documented (library : Library) : Prop where
  /-- Integers that are accepted are kept as they are. -/
  kept : ∀ {n e d factors components}, library.check n e d factors = .ok components →
    components = ⟨n, e, d, factors⟩
  /-- The factors make up the modulus. -/
  product : ∀ {n e d factors components}, library.check n e d factors = .ok components →
    factors.prod = n
  /-- No factor is zero or one. -/
  large : ∀ {n e d factors components}, library.check n e d factors = .ok components →
    ∀ factor ∈ factors, 1 < factor
  /-- The exponents undo each other modulo each factor less one. -/
  exponents : ∀ {n e d factors components}, library.check n e d factors = .ok components →
    ∀ factor ∈ factors, e * d % (factor - 1) = 1
  /-- The coefficient is the inverse of the second factor modulo the first, if there is one. -/
  coefficient : ∀ {components : PrivateComponents} {p q x}, components.factors = [p, q] →
    1 < p → (library.coefficient? components = some x ↔ x < p ∧ x * q % p = 1)

theorem Library.documented_standard : Library.standard.Documented where
  kept accepted := (PrivateComponents.check_eq_ok.1 accepted).2.2.2.2.2
  product accepted := (PrivateComponents.check_eq_ok.1 accepted).2.2.2.1
  large accepted := (PrivateComponents.check_eq_ok.1 accepted).2.2.1
  exponents accepted := (PrivateComponents.check_eq_ok.1 accepted).2.2.2.2.1
  coefficient {components} p q x two large := by
    rcases components with ⟨n, e, d, factors⟩
    cases two
    exact inverse?_eq_some large

/-! ## Two factors -/

/-- The integers of a key with two factors fit together.  Neither factor is two, since its
exponents could not undo each other. -/
structure Fitting (n e d p q : Nat) : Prop where
  product : p * q = n
  pLarge : 2 < p
  qLarge : 2 < q
  pExponent : e * d % (p - 1) = 1
  qExponent : e * d % (q - 1) = 1

/-- The derived integers of a private key are those that follow from the others. -/
structure Reduced (secret : RsaSecret) : Prop where
  dp : secret.dp = secret.d % (secret.p - 1)
  dq : secret.dq = secret.d % (secret.q - 1)
  qInv : secret.qInv < secret.p ∧ secret.qInv * secret.q % secret.p = 1

theorem Reduced.unique {first second : RsaSecret} (one : Reduced first) (two : Reduced second)
    (sameD : first.d = second.d) (sameP : first.p = second.p) (sameQ : first.q = second.q) :
    first = second := by
  have ⟨small, inverse⟩ := one.qInv
  have large := one_lt_of_mod_eq_one (Nat.zero_lt_of_lt small) inverse
  have found := (inverse?_eq_some large).2 one.qInv
  have other := (inverse?_eq_some (sameP ▸ large)).2 two.qInv
  rw [sameP, sameQ, other] at found
  have sameDp : first.dp = second.dp := by rw [one.dp, two.dp, sameD, sameP]
  have sameDq : first.dq = second.dq := by rw [one.dq, two.dq, sameD, sameQ]
  rcases first
  rcases second
  simp_all

/-- With derived integers that follow from the others a key is the same exactly if its own did. -/
theorem Reduced.eq_key_iff {key : RsaKey} {secret derived : RsaSecret} (reduced : Reduced derived)
    (isPrivate : key.secret = some secret) (sameD : derived.d = secret.d)
    (sameP : derived.p = secret.p) (sameQ : derived.q = secret.q) :
    (⟨key.n, key.e, some derived⟩ : RsaKey) = key ↔ Reduced secret := by
  constructor
  · intro same
    have own : some derived = key.secret := congrArg RsaKey.secret same
    cases own.trans isPrivate
    exact reduced
  · intro own
    rw [reduced.unique own sameD sameP sameQ, ← isPrivate]

namespace Library

variable {library : Library} {n e d p q : Nat} {components : PrivateComponents}

/-- An accepted private key is one of which the library has checked the integers. -/
theorem privateComponents_eq_ok {key : RsaKey} {secret : RsaSecret}
    (isPrivate : key.secret = some secret) :
    library.privateComponents key = .ok components ↔
      library.check key.n key.e secret.d [secret.p, secret.q] = .ok components := by
  rw [privateComponents, isPrivate]
  dsimp only
  cases library.check key.n key.e secret.d [secret.p, secret.q] with
  | error cause => simp [Except.mapError]
  | ok other => simp [Except.mapError]

/-- No difference and no remainder on the way back is without a value. -/
theorem reducedExponents_of_fitting (fitting : Fitting n e d p q) :
    reducedExponents d p q = .ok (d % (p - 1), d % (q - 1)) := by
  have pLarge := fitting.pLarge
  have qLarge := fitting.qLarge
  rw [reducedExponents, minus_eq_ok (by omega), minus_eq_ok (by omega)]
  simp only [bind, Except.bind]
  rw [remainder_eq_ok (by omega), remainder_eq_ok (by omega)]
  rfl

namespace Documented

/-- Two factors that are accepted fit together, and the integers are kept. -/
theorem fitting (documented : library.Documented)
    (accepted : library.check n e d [p, q] = .ok components) :
    components = ⟨n, e, d, [p, q]⟩ ∧ Fitting n e d p q := by
  have product := documented.product accepted
  have large := List.forall_mem_cons.1 (documented.large accepted)
  have exponents := List.forall_mem_cons.1 (documented.exponents accepted)
  have qLarge := List.forall_mem_singleton.1 large.2
  have qExponent := List.forall_mem_singleton.1 exponents.2
  have pLess := one_lt_of_mod_eq_one (Nat.sub_pos_of_lt large.1) exponents.1
  have qLess := one_lt_of_mod_eq_one (Nat.sub_pos_of_lt qLarge) qExponent
  exact ⟨documented.kept accepted,
    { product := by simpa using product
      pLarge := Nat.add_lt_of_lt_sub pLess
      qLarge := Nat.add_lt_of_lt_sub qLess
      pExponent := exponents.1
      qExponent := qExponent }⟩

/-- All documented libraries have the same coefficient. -/
theorem coefficient?_eq (documented : library.Documented) (large : 1 < p) :
    library.coefficient? ⟨n, e, d, [p, q]⟩ = inverse? q p := by
  apply Option.ext
  intro x
  rw [documented.coefficient rfl large, inverse?_eq_some large]

theorem ofComponents_of_common (documented : library.Documented) (fitting : Fitting n e d p q)
    (common : Nat.gcd p q ≠ 1) :
    library.ofComponents ⟨n, e, d, [p, q]⟩ = .error (.provider .noCoefficient) := by
  have large : 1 < p := Nat.lt_of_succ_lt fitting.pLarge
  have none := inverse?_eq_none.2 (Nat.gcd_comm p q ▸ common)
  rw [ofComponents]
  dsimp only
  rw [documented.coefficient?_eq large, none]

/-- Without a common divisor the derived integers are computed anew. -/
theorem ofComponents_of_coprime (documented : library.Documented) (fitting : Fitting n e d p q)
    (coprime : Nat.gcd p q = 1) :
    ∃ derived : RsaSecret, library.ofComponents ⟨n, e, d, [p, q]⟩ = .ok ⟨n, e, some derived⟩ ∧
      (derived.d = d ∧ derived.p = p ∧ derived.q = q) ∧ Reduced derived := by
  have large : 1 < p := Nat.lt_of_succ_lt fitting.pLarge
  obtain ⟨qInv, found, -⟩ :=
    inverse?_of_coprime (Nat.zero_lt_of_lt large) (Nat.gcd_comm p q ▸ coprime)
  refine ⟨⟨d, p, q, d % (p - 1), d % (q - 1), qInv⟩, ?_, ⟨rfl, rfl, rfl⟩, rfl, rfl, ?_⟩
  · rw [ofComponents]
    dsimp only
    rw [documented.coefficient?_eq large, found, reducedExponents_of_fitting fitting]
  · exact (inverse?_eq_some large).1 found

/-- A private key that the library accepts goes back without a difference below zero and without a
remainder by zero.  It fails exactly if its two factors have a common divisor.  Else it comes back
with the integers that were checked and with the derived integers that follow from them, so it
comes back as it was exactly if its derived integers were these; and from then on it stays as it
is. -/
theorem converts_back (documented : library.Documented) {key : RsaKey} {secret : RsaSecret}
    (isPrivate : key.secret = some secret)
    (accepted : library.privateComponents key = .ok components) :
    (∀ fault, library.ofComponents components ≠ .error (.fault fault)) ∧
    (∀ cause, library.ofComponents components = .error cause ↔
      Nat.gcd secret.p secret.q ≠ 1 ∧ cause = .provider .noCoefficient) ∧
    (KeyError.provider .noCoefficient).message = "RSA library error: missing CRT coefficient" ∧
    (Nat.gcd secret.p secret.q = 1 → ∃ again derived,
      library.ofComponents components = .ok again ∧ again.secret = some derived ∧
      (again.n = key.n ∧ again.e = key.e ∧ derived.d = secret.d ∧ derived.p = secret.p ∧
        derived.q = secret.q) ∧
      (derived.dp = secret.d % (secret.p - 1) ∧ derived.dq = secret.d % (secret.q - 1) ∧
        derived.qInv < secret.p ∧ derived.qInv * secret.q % secret.p = 1) ∧
      (again = key ↔ Reduced secret) ∧ library.recomputed again = .ok again) := by
  rw [privateComponents_eq_ok isPrivate] at accepted
  obtain ⟨rfl, fitting⟩ := documented.fitting accepted
  have fails (common : Nat.gcd secret.p secret.q ≠ 1) :=
    documented.ofComponents_of_common fitting common
  have succeeds (coprime : Nat.gcd secret.p secret.q = 1) :=
    documented.ofComponents_of_coprime fitting coprime
  refine ⟨?_, ?_, rfl, ?_⟩
  · intro fault failed
    by_cases coprime : Nat.gcd secret.p secret.q = 1
    · obtain ⟨derived, back, -⟩ := succeeds coprime
      cases back.symm.trans failed
    · cases (fails coprime).symm.trans failed
  · intro cause
    by_cases coprime : Nat.gcd secret.p secret.q = 1
    · obtain ⟨derived, back, -⟩ := succeeds coprime
      simp [back, coprime]
    · rw [fails coprime]
      simp [coprime, eq_comm]
  · intro coprime
    obtain ⟨derived, back, ⟨sameD, sameP, sameQ⟩, reduced⟩ := succeeds coprime
    refine ⟨_, derived, back, rfl, ⟨rfl, rfl, sameD, sameP, sameQ⟩, ?_,
      reduced.eq_key_iff isPrivate sameD sameP sameQ, ?_⟩
    · rw [← sameD, ← sameP, ← sameQ]
      exact ⟨reduced.dp, reduced.dq, reduced.qInv⟩
    · have again : library.privateComponents ⟨key.n, key.e, some derived⟩ =
          .ok ⟨key.n, key.e, secret.d, [secret.p, secret.q]⟩ := by
        rw [privateComponents_eq_ok rfl, sameD, sameP, sameQ]
        exact accepted
      rw [recomputed, again]
      exact back

/-- Two accepted keys: one whose derived integers are all wrong, and one with the same factor
twice. -/
theorem smallKeys_convert_back :
    (∃ again derived, standard.ofComponents ⟨143, 7, 103, [13, 11]⟩ = .ok again ∧
      again.secret = some derived ∧ derived.dp = 7 ∧ derived.dq = 3 ∧
      again ≠ ⟨143, 7, some ⟨103, 13, 11, 0, 0, 0⟩⟩ ∧ standard.recomputed again = .ok again) ∧
    standard.ofComponents ⟨9, 3, 3, [3, 3]⟩ = .error (.provider .noCoefficient) := by
  constructor
  · let key : RsaKey := ⟨143, 7, some ⟨103, 13, 11, 0, 0, 0⟩⟩
    have accepted : standard.privateComponents key = .ok ⟨143, 7, 103, [13, 11]⟩ := by decide
    obtain ⟨-, -, -, back⟩ := converts_back documented_standard rfl accepted
    obtain ⟨again, derived, succeeded, own, -, ⟨dp, dq, -⟩, same, stays⟩ := back (by decide)
    have wrong : again ≠ key := fun unchanged => absurd (same.1 unchanged).dp (by decide)
    exact ⟨again, derived, succeeded, own, dp, dq, wrong, stays⟩
  · let key : RsaKey := ⟨9, 3, some ⟨3, 3, 3, 0, 0, 0⟩⟩
    have accepted : standard.privateComponents key = .ok ⟨9, 3, 3, [3, 3]⟩ := by decide
    obtain ⟨-, fails, -⟩ := converts_back documented_standard rfl accepted
    exact (fails _).2 ⟨by decide, rfl⟩

end Documented

end Library

end Keyring.Rsa
