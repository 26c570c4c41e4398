import Mathlib.Algebra.Group.Nat.Defs
import WebTerminal.Connection.RetryPolicy

/-! # Retry policies in exact arithmetic

Saturation is never seen through the bound on the delays: a delay is the exact product of the base
and a power of the factor, or the bound. A policy that the program can make never counts past its
limit. -/

namespace WebTerminal

namespace Saturating

theorem min_mul_min (a x m : Nat) : min (a * min x m) m = min (a * x) m := by
  rcases Nat.le_total x m with h | h
  · rw [Nat.min_eq_left h]
  · rw [Nat.min_eq_right h]
    rcases Nat.eq_zero_or_pos a with rfl | ha
    · simp
    · have hm : m ≤ a * m := Nat.le_mul_of_pos_left m ha
      have hx : m ≤ a * x := Nat.le_trans hm (Nat.mul_le_mul_left a h)
      rw [Nat.min_eq_right hm, Nat.min_eq_right hx]

theorem min_pow_min (x m k : Nat) : min (min x m ^ k) m = min (x ^ k) m := by
  rcases Nat.le_total x m with h | h
  · rw [Nat.min_eq_left h]
  · rw [Nat.min_eq_right h]
    rcases Nat.eq_zero_or_pos k with rfl | hk
    · simp
    · have hm : m ≤ m ^ k := Nat.le_self_pow (by omega) m
      have hx : m ≤ x ^ k := Nat.le_trans hm (Nat.pow_le_pow_left h k)
      rw [Nat.min_eq_right hm, Nat.min_eq_right hx]

theorem toNat_min (a b : UInt64) : (min a b).toNat = min a.toNat b.toNat := by
  show (if a ≤ b then a else b).toNat = _
  split
  case isTrue h => rw [Nat.min_eq_left (UInt64.le_iff_toNat_le.mp h)]
  case isFalse h =>
    rw [UInt64.le_iff_toNat_le] at h
    rw [Nat.min_eq_right (by omega)]

theorem toNat_mul (a b : UInt64) : (mul a b).toNat = min (a.toNat * b.toNat) largest.toNat := by
  unfold mul
  split
  case isTrue h =>
    have hl : largest.toNat = 2 ^ 64 - 1 := rfl
    rw [UInt64.toNat_mul, Nat.mod_eq_of_lt (by omega), Nat.min_eq_left h]
  case isFalse h => rw [Nat.min_eq_right (by omega)]

theorem min_toNat_square_pow (a : UInt64) (k : Nat) :
    min ((mul a a).toNat ^ k) largest.toNat = min (a.toNat ^ (2 * k)) largest.toNat := by
  rw [toNat_mul, min_pow_min, Nat.pow_mul, Nat.pow_two]

theorem toNat_pow (a : UInt64) (n : Nat) : (pow a n).toNat = min (a.toNat ^ n) largest.toNat := by
  induction n using Nat.strongRecOn generalizing a with
  | ind n ih =>
    rw [pow]
    by_cases h0 : n = 0
    · subst h0
      rfl
    · have half : (pow (mul a a) (n / 2)).toNat = min (a.toNat ^ (2 * (n / 2))) largest.toNat := by
        rw [ih (n / 2) (by omega), min_toNat_square_pow]
      rw [if_neg h0]
      by_cases h2 : n % 2 = 0
      · have hn : 2 * (n / 2) = n := by omega
        rw [if_pos h2, half, hn]
      · have hn : 2 * (n / 2) + 1 = n := by omega
        rw [if_neg h2, toNat_mul, half, min_mul_min, Nat.mul_comm, ← Nat.pow_add_one, hn]

end Saturating

namespace RetryPolicy

variable {p : RetryPolicy}

/-- Neither the power nor the product saturates where the bound would show it. -/
theorem toNat_wide (p : RetryPolicy) (n : Nat) :
    (min (Saturating.mul p.baseDelay.toUInt64 (Saturating.pow p.multiplier.toUInt64 n))
        p.maxDelay.toUInt64).toNat =
      min (p.baseDelay.toNat * p.multiplier.toNat ^ n) p.maxDelay.toNat := by
  have bound : p.maxDelay.toNat ≤ Saturating.largest.toNat := by
    have h := p.maxDelay.toNat_lt
    have hl : Saturating.largest.toNat = 2 ^ 64 - 1 := rfl
    omega
  rw [Saturating.toNat_min, Saturating.toNat_mul, Saturating.toNat_pow, Saturating.min_mul_min,
    UInt32.toNat_toUInt64, UInt32.toNat_toUInt64, UInt32.toNat_toUInt64, Nat.min_assoc,
    Nat.min_eq_right bound]

theorem toNat_delay (p : RetryPolicy) (attempt : UInt32) :
    (p.delay attempt).toNat =
      min (p.baseDelay.toNat * p.multiplier.toNat ^ (attempt.toNat - 1)) p.maxDelay.toNat := by
  have hd := p.maxDelay.toNat_lt
  have narrow : min (p.baseDelay.toNat * p.multiplier.toNat ^ (attempt.toNat - 1))
      p.maxDelay.toNat < 2 ^ 32 := by omega
  simp only [delay]
  rw [UInt64.toNat_toUInt32, toNat_wide, Nat.mod_eq_of_lt narrow]

/-- Unless the factor is zero, later attempts do not wait less. -/
theorem delay_mono (hm : 0 < p.multiplier.toNat) {a b : UInt32} (hab : a.toNat ≤ b.toNat) :
    p.delay a ≤ p.delay b := by
  have grows : p.multiplier.toNat ^ (a.toNat - 1) ≤ p.multiplier.toNat ^ (b.toNat - 1) :=
    Nat.pow_le_pow_right hm (by omega)
  have products := Nat.mul_le_mul_left p.baseDelay.toNat grows
  rw [UInt32.le_iff_toNat_le, toNat_delay, toNat_delay]
  omega

/-- Whatever the numbers of a policy are, a delay is the exact one: the saturated word that it is
taken from has the same value, so nothing is lost when that is made narrower. Unless the factor is
zero, delays do not fall as attempts go on. -/
theorem delay_exact (p : RetryPolicy) (attempt : UInt32) :
    (p.delay attempt).toNat =
        min (p.baseDelay.toNat * p.multiplier.toNat ^ (max attempt.toNat 1 - 1))
          p.maxDelay.toNat ∧
      (p.delay attempt).toUInt64 =
        min (Saturating.mul p.baseDelay.toUInt64
          (Saturating.pow p.multiplier.toUInt64 (attempt.toNat - 1))) p.maxDelay.toUInt64 ∧
      (1 ≤ p.multiplier → ∀ later, attempt ≤ later → p.delay attempt ≤ p.delay later) := by
  refine ⟨?_, ?_, fun hm later hl => ?_⟩
  · have exponent : max attempt.toNat 1 - 1 = attempt.toNat - 1 := by omega
    rw [toNat_delay, exponent]
  · rw [← UInt64.toNat_inj, UInt32.toNat_toUInt64, toNat_delay, toNat_wide]
  · rw [UInt32.le_iff_toNat_le] at hm hl
    exact delay_mono hm hl

/-- With the largest factor the second attempt waits as long as the bound allows, and so does the
last of all, whose power no word can hold. -/
theorem delay_exact_largest :
    let p : RetryPolicy := { baseDelay := 3, maxDelay := 0xFFFFFFFE, multiplier := 0xFFFFFFFF }
    1 ≤ p.multiplier ∧ (2 : UInt32) ≤ 0xFFFFFFFF ∧ (p.delay 1).toNat = 3 ∧
      (p.delay 2).toNat = 0xFFFFFFFE ∧ p.delay 2 ≤ p.delay 0xFFFFFFFF := by
  intro p
  have hm : 1 ≤ p.multiplier := by decide
  have hl : (2 : UInt32) ≤ 0xFFFFFFFF := by decide
  obtain ⟨first, -, -⟩ := delay_exact p 1
  obtain ⟨second, -, later⟩ := delay_exact p 2
  exact ⟨hm, hl, first.trans (by decide +kernel), second.trans (by decide +kernel), later hm _ hl⟩

theorem isExhausted_eq_false : p.isExhausted = false ↔ p.attempt.toNat < p.maxAttempts.toNat := by
  rw [isExhausted, decide_eq_false_iff_not, UInt32.le_iff_toNat_le, Nat.not_le]

/-- The count never wraps: it stops at the limit. -/
theorem toNat_advance_attempt (h : p.isExhausted = false) :
    p.advance.attempt.toNat = p.attempt.toNat + 1 := by
  have hlt := isExhausted_eq_false.mp h
  have hm := p.maxAttempts.toNat_lt
  show (p.attempt + 1).toNat = _
  rw [UInt32.toNat_add]
  exact Nat.mod_eq_of_lt (by simp; omega)

/-- A policy that the program can make: a new one, one that a retry was taken from, one reset. -/
inductive Attainable : RetryPolicy → Prop where
  | fresh (maxAttempts baseDelay maxDelay multiplier : UInt32) :
      Attainable { maxAttempts, baseDelay, maxDelay, multiplier }
  | next {p p' : RetryPolicy} {delay : UInt32} (h : Attainable p)
      (hn : p.next? = some (delay, p')) : Attainable p'
  | reset {p : RetryPolicy} (h : Attainable p) : Attainable p.reset

theorem Attainable.advance (h : p.Attainable) (hx : p.isExhausted = false) :
    p.advance.Attainable := by
  have hn : p.next? = some (p.delay (p.attempt + 1), p.advance) := by simp [next?, hx]
  exact h.next hn

theorem Attainable.attempt_le (h : p.Attainable) : p.attempt ≤ p.maxAttempts := by
  rw [UInt32.le_iff_toNat_le]
  induction h with
  | fresh => exact Nat.zero_le _
  | @next p p' delay _ hn _ =>
    cases hx : p.isExhausted with
    | true => simp [next?, hx] at hn
    | false =>
      obtain ⟨_, rfl⟩ : _ ∧ p.advance = p' := by simpa [next?, hx] using hn
      have hlt := isExhausted_eq_false.mp hx
      rw [toNat_advance_attempt hx]
      exact hlt
  | reset _ _ => exact Nat.zero_le _

end RetryPolicy

end WebTerminal
