/-
Module: Keyring.Proofs.Rsa.Decryption
Purpose: What the derived integers of a private key are good for.  An exponent modulo a prime counts
  only modulo the prime less one, so the two short exponents do the work of the long one, and the
  coefficient puts the two results together.
Main exports: pow_modEq_pow, pow_modEq_self, combine, combine_eq_mod, privatePower,
  privatePower_eq, pow_pow_mod, Documented.ofComponents_decrypts
-/
import Mathlib.FieldTheory.Finite.Basic
import Mathlib.Tactic.NormNum.Prime
import Keyring.Proofs.Rsa.Components

namespace Keyring.Rsa

/-! ## Exponents modulo a prime -/

/-- An exponent counts modulo the prime less one, unless it is zero: a base that the prime divides
has no power that is one. -/
theorem pow_modEq_pow {p j k : Nat} (prime : p.Prime) (jPositive : j ≠ 0) (kPositive : k ≠ 0)
    (same : j ≡ k [MOD p - 1]) (m : Nat) : m ^ j ≡ m ^ k [MOD p] := by
  by_cases divides : p ∣ m
  · have vanishes {i : Nat} (positive : i ≠ 0) : m ^ i ≡ 0 [MOD p] :=
      (Nat.modEq_zero_iff_dvd).2 (dvd_pow divides positive)
    exact (vanishes jPositive).trans (vanishes kPositive).symm
  · have fermat : m ^ (p - 1) ≡ 1 [MOD p] := by
      rw [← Nat.totient_prime prime]
      exact Nat.ModEq.pow_totient ((prime.coprime_iff_not_dvd.2 divides).symm)
    have reduces (i : Nat) : m ^ i ≡ m ^ (i % (p - 1)) [MOD p] := by
      calc
        m ^ i = (m ^ (p - 1)) ^ (i / (p - 1)) * m ^ (i % (p - 1)) := by
          rw [← pow_mul, ← pow_add, Nat.div_add_mod]
        _ ≡ 1 ^ (i / (p - 1)) * m ^ (i % (p - 1)) [MOD p] := (fermat.pow _).mul_right _
        _ = m ^ (i % (p - 1)) := by rw [one_pow, one_mul]
    have rest : j % (p - 1) = k % (p - 1) := same
    exact (reduces j).trans (rest ▸ (reduces k).symm)

theorem pow_modEq_self {p k : Nat} (prime : p.Prime) (one : k % (p - 1) = 1) (m : Nat) :
    m ^ k ≡ m [MOD p] := by
  have nonzero : k ≠ 0 := fun zero => by simp [zero] at one
  have large := one_lt_of_mod_eq_one (Nat.sub_pos_of_lt prime.one_lt) one
  calc
    m ^ k ≡ m ^ 1 [MOD p] :=
      pow_modEq_pow prime nonzero one_ne_zero ((modEq_one_iff large).2 one) m
    _ = m := pow_one m

/-! ## Two remainders -/

/-- The number below `p * q` with given remainders modulo `p` and modulo `q`, by the inverse of `q`
modulo `p`. -/
def combine (p q qInv inP inQ : Nat) : Nat :=
  inQ + ((qInv * ((inP : Int) - inQ)) % p).toNat * q

section Combine

variable {p q qInv inP inQ : Nat}

theorem combine_modEq_q : combine p q qInv inP inQ ≡ inQ [MOD q] := by
  rw [combine, Nat.ModEq, Nat.add_mul_mod_self_right]

theorem combine_modEq_p (positive : 0 < p) (inverse : qInv * q ≡ 1 [MOD p]) :
    combine p q qInv inP inQ ≡ inP [MOD p] := by
  have nonnegative := Int.emod_nonneg (qInv * ((inP : Int) - inQ)) (by omega : (p : Int) ≠ 0)
  rw [← Int.natCast_modEq_iff] at inverse ⊢
  rw [combine, Nat.cast_add, Nat.cast_mul, Int.toNat_of_nonneg nonnegative]
  calc
    (inQ : Int) + qInv * ((inP : Int) - inQ) % p * q
        ≡ inQ + qInv * ((inP : Int) - inQ) * q [ZMOD p] :=
      ((Int.mod_modEq _ _).mul_right _).add_left _
    _ = inQ + ((qInv * q : Nat) : Int) * ((inP : Int) - inQ) := by push_cast; ring
    _ ≡ inQ + ((1 : Nat) : Int) * ((inP : Int) - inQ) [ZMOD p] := (inverse.mul_right _).add_left _
    _ = inP := by push_cast; ring

theorem combine_lt (positive : 0 < p) (small : inQ < q) : combine p q qInv inP inQ < p * q := by
  have less := Int.emod_lt_of_pos (qInv * ((inP : Int) - inQ)) (by omega : (0 : Int) < p)
  calc
    combine p q qInv inP inQ < q + ((qInv * ((inP : Int) - inQ)) % p).toNat * q :=
      Nat.add_lt_add_right small _
    _ = (((qInv * ((inP : Int) - inQ)) % p).toNat + 1) * q := by ring
    _ ≤ p * q := Nat.mul_le_mul_right q (by omega)

theorem combine_eq_mod {x : Nat} (inverse : qInv * q ≡ 1 [MOD p]) (positive : 0 < p)
    (small : inQ < q) (xInP : x ≡ inP [MOD p]) (xInQ : x ≡ inQ [MOD q]) :
    combine p q qInv inP inQ = x % (p * q) := by
  have coprime : Nat.Coprime p q :=
    (Nat.coprime_of_mul_modEq_one qInv (Nat.mul_comm qInv q ▸ inverse)).symm
  have same : combine p q qInv inP inQ ≡ x [MOD p * q] :=
    (Nat.modEq_and_modEq_iff_modEq_mul coprime).1
      ⟨(combine_modEq_p positive inverse).trans xInP.symm, combine_modEq_q.trans xInQ.symm⟩
  rw [← same, Nat.mod_eq_of_lt (combine_lt positive small)]

end Combine

/-! ## Private powers -/

/-- The power of a number by the private exponent, by way of the two factors. -/
def privatePower (secret : RsaSecret) (m : Nat) : Nat :=
  combine secret.p secret.q secret.qInv (m ^ secret.dp % secret.p) (m ^ secret.dq % secret.q)

/-- A short exponent is not zero, since it is undone by the public one. -/
theorem short_ne_zero {e d p : Nat} (exponent : e * d % (p - 1) = 1) : d % (p - 1) ≠ 0 := by
  intro zero
  rw [← Nat.mul_mod_mod, zero] at exponent
  simp at exponent

theorem pow_modEq_short {e d p : Nat} (prime : p.Prime) (exponent : e * d % (p - 1) = 1)
    (m : Nat) : m ^ d ≡ m ^ (d % (p - 1)) % p [MOD p] := by
  have short := short_ne_zero exponent
  have long : d ≠ 0 := fun zero => short (by rw [zero, Nat.zero_mod])
  exact (pow_modEq_pow prime long short (Nat.mod_modEq d (p - 1)).symm m).trans
    (Nat.mod_modEq _ _).symm

theorem privatePower_eq {n e : Nat} {secret : RsaSecret} (reduced : Reduced secret)
    (fitting : Fitting n e secret.d secret.p secret.q) (pPrime : secret.p.Prime)
    (qPrime : secret.q.Prime) (m : Nat) : privatePower secret m = m ^ secret.d % n := by
  rw [privatePower, reduced.dp, reduced.dq, ← fitting.product]
  exact combine_eq_mod ((modEq_one_iff pPrime.one_lt).2 reduced.qInv.2) pPrime.pos
    (Nat.mod_lt _ qPrime.pos) (pow_modEq_short pPrime fitting.pExponent m)
    (pow_modEq_short qPrime fitting.qExponent m)

theorem pow_pow_mod {n e d p q m : Nat} (fitting : Fitting n e d p q) (coprime : Nat.Coprime p q)
    (pPrime : p.Prime) (qPrime : q.Prime) (small : m < n) : (m ^ e % n) ^ d % n = m := by
  have back : (m ^ e % n) ^ d ≡ m [MOD n] := by
    calc
      (m ^ e % n) ^ d ≡ (m ^ e) ^ d [MOD n] := (Nat.mod_modEq _ _).pow d
      _ = m ^ (e * d) := (pow_mul m e d).symm
      _ ≡ m [MOD n] := by
        rw [← fitting.product]
        exact (Nat.modEq_and_modEq_iff_modEq_mul coprime).1
          ⟨pow_modEq_self pPrime fitting.pExponent m, pow_modEq_self qPrime fitting.qExponent m⟩
  exact Eq.trans back (Nat.mod_eq_of_lt small)

namespace Library

variable {library : Library} {n e d p q : Nat} {components : PrivateComponents} {key : RsaKey}

/-- The derived integers that a private key comes back with are short, undo what they are to undo,
and do the work of the private exponent if the two factors are prime. -/
theorem Documented.ofComponents_decrypts (documented : library.Documented)
    (accepted : library.check n e d [p, q] = .ok components)
    (converted : library.ofComponents components = .ok key) :
    ∃ secret, key = ⟨n, e, some secret⟩ ∧ (secret.d = d ∧ secret.p = p ∧ secret.q = q) ∧
      (e * secret.dp % (p - 1) = 1 ∧ e * secret.dq % (q - 1) = 1 ∧ secret.qInv * q % p = 1) ∧
      (secret.dp < p - 1 ∧ secret.dq < q - 1 ∧ secret.qInv < p) ∧
      (p.Prime → q.Prime → ∀ m < n,
        privatePower secret m = m ^ d % n ∧ (m ^ e % n) ^ d % n = m) := by
  obtain ⟨rfl, fitting⟩ := documented.fitting accepted
  have coprime : Nat.gcd p q = 1 := by
    by_contra common
    cases (documented.ofComponents_of_common fitting common).symm.trans converted
  obtain ⟨secret, succeeded, ⟨rfl, rfl, rfl⟩, reduced⟩ :=
    documented.ofComponents_of_coprime fitting coprime
  cases succeeded.symm.trans converted
  have pLess : 0 < secret.p - 1 := Nat.sub_pos_of_lt (Nat.lt_of_succ_lt fitting.pLarge)
  have qLess : 0 < secret.q - 1 := Nat.sub_pos_of_lt (Nat.lt_of_succ_lt fitting.qLarge)
  have ⟨small, inverse⟩ := reduced.qInv
  refine ⟨secret, rfl, ⟨rfl, rfl, rfl⟩, ⟨?_, ?_, inverse⟩, ⟨?_, ?_, small⟩, ?_⟩
  · rw [reduced.dp, Nat.mul_mod_mod, fitting.pExponent]
  · rw [reduced.dq, Nat.mul_mod_mod, fitting.qExponent]
  · exact reduced.dp ▸ Nat.mod_lt secret.d pLess
  · exact reduced.dq ▸ Nat.mod_lt secret.d qLess
  · intro pPrime qPrime m less
    exact ⟨privatePower_eq reduced fitting pPrime qPrime m,
      pow_pow_mod fitting coprime pPrime qPrime less⟩

theorem smallKey_decrypts :
    ∃ secret, standard.ofComponents ⟨143, 7, 103, [13, 11]⟩ = .ok ⟨143, 7, some secret⟩ ∧
      ∀ m < 143, privatePower secret m = m ^ 103 % 143 ∧ (m ^ 7 % 143) ^ 103 % 143 = m := by
  have accepted : standard.check 143 7 103 [13, 11] = .ok ⟨143, 7, 103, [13, 11]⟩ := by decide
  have converted : standard.ofComponents ⟨143, 7, 103, [13, 11]⟩ =
      .ok ⟨143, 7, some ⟨103, 13, 11, 7, 3, 6⟩⟩ := by decide +kernel
  obtain ⟨secret, same, -, -, -, decrypts⟩ :=
    documented_standard.ofComponents_decrypts accepted converted
  rw [same] at converted
  exact ⟨secret, converted, decrypts (by norm_num) (by norm_num)⟩

end Library

end Keyring.Rsa
