import Designosaurs.Robot.Hardware
import Mathlib.Algebra.Order.Ring.Basic
import Mathlib.Data.Sign.Basic
import Mathlib.Topology.Order.IntermediateValue

/-!
# The stick response curve

`square` computes a power as the quotient of two running products, `base` multiplied into the one
`power + 16` times and into the other 16 times, and answers for zero separately.  `basen` and
`based` are the two products where the loops leave them.

`square_curve` is what the driver gets: the quotient is the power, for negative exponents too, and
for an odd exponent the zero branch fits into it, so that the curve keeps the sign and the order of
the stick deflections and reaches the ends of the range.
-/

namespace Designosaurs

section Products

variable {K : Type} [Field K]

/-- The numerator as its loop leaves it. -/
def basen (base : K) (n : ℤ) : K := (fun m => m * base)^[(toInt (n + 16)).toNat] base

/-- The denominator as its loop leaves it. -/
def based (base : K) : K := (fun m => m * base)^[16] base

lemma based_eq (base : K) : based base = base ^ 17 := by
  rw [based, mul_right_iterate]
  ring

lemma based_ne_zero {base : K} (hbase : base ≠ 0) : based base ≠ 0 := by
  rw [based_eq]
  exact pow_ne_zero 17 hbase

/-- The numerator's loop runs `n + 16` times when that is a nonnegative `int`. -/
lemma basen_eq {base : K} (hbase : base ≠ 0) {n : ℤ} (hlo : -16 ≤ n) (hhi : n + 16 < 2 ^ 31) :
    basen base n = base ^ (n + 17) := by
  have hint : toInt (n + 16) = n + 16 := Int.bmod_eq_of_le (by omega) (by omega)
  have hcount : ((n + 16).toNat : ℤ) = n + 16 := Int.toNat_of_nonneg (by omega)
  calc basen base n
      = base * base ^ (n + 16).toNat := by rw [basen, hint, mul_right_iterate]
    _ = base ^ (1 : ℤ) * base ^ (n + 16) := by rw [zpow_one, ← hcount, zpow_natCast]; rfl
    _ = base ^ (n + 17) := by rw [← zpow_add₀ hbase]; ring_nf

variable [LinearOrder K]

lemma square_zero (n : ℤ) : square (0 : K) n = 0 := if_pos rfl

/-- Away from zero `square` is the quotient of the two products. -/
lemma square_eq_div {base : K} (hbase : base ≠ 0) (n : ℤ) :
    square base n = basen base n / based base := if_neg hbase

/-- **The quotient is the power.** -/
theorem square_eq_zpow {base : K} (hbase : base ≠ 0) {n : ℤ} (hlo : -16 ≤ n)
    (hhi : n + 16 < 2 ^ 31) : square base n = base ^ n := by
  rw [square_eq_div hbase, basen_eq hbase hlo hhi, based_eq, div_eq_iff (pow_ne_zero 17 hbase),
    ← zpow_natCast, ← zpow_add₀ hbase]
  rfl

/-- For a positive exponent the branch at zero joins the quotient. -/
lemma square_eq_pow (base : K) {n : ℤ} (hpos : 1 ≤ n) (hhi : n + 16 < 2 ^ 31) :
    square base n = base ^ n.toNat := by
  by_cases hbase : base = 0
  · rw [hbase, square_zero, zero_pow (by omega)]
  · rw [square_eq_zpow hbase (by omega) hhi, ← zpow_natCast, Int.toNat_of_nonneg (by omega)]

end Products

/-- An odd power takes the interval onto itself. -/
lemma image_pow_Icc {n : ℕ} (hodd : Odd n) :
    (fun base : ℝ => base ^ n) '' Set.Icc (-1) 1 = Set.Icc (-1) 1 := by
  apply Set.Subset.antisymm
  · rintro _ ⟨base, ⟨hlo, hhi⟩, rfl⟩
    constructor
    · calc (-1 : ℝ) = (-1) ^ n := hodd.neg_one_pow.symm
        _ ≤ base ^ n := hodd.strictMono_pow.monotone hlo
    · calc base ^ n ≤ 1 ^ n := hodd.strictMono_pow.monotone hhi
        _ = 1 := one_pow n
  · have hvalues := intermediate_value_Icc (by norm_num : (-1 : ℝ) ≤ 1)
      (continuous_pow n).continuousOn
    simpa only [hodd.neg_one_pow, one_pow] using hvalues

/-- A strictly increasing odd function keeps signs. -/
lemma sign_of_strictMono {f : ℝ → ℝ} (hmono : StrictMono f) (h0 : f 0 = 0) (x : ℝ) :
    SignType.sign (f x) = SignType.sign x := by
  rcases lt_trichotomy x 0 with hx | hx | hx
  · rw [sign_neg hx, sign_neg (by simpa only [h0] using hmono hx)]
  · rw [hx, h0]
  · rw [sign_pos hx, sign_pos (by simpa only [h0] using hmono hx)]

/-- **The stick response curve.**  Away from zero `square` divides by a number that is not zero, and
the quotient is the power; at zero it is zero.  For an odd positive exponent the curve is odd,
strictly increasing, onto the range of the stick, and keeps signs; three, the exponent of the robot,
is one. -/
theorem square_curve :
    (∀ (base : ℝ) (n : ℤ), base ≠ 0 → -16 ≤ n → n + 16 < 2 ^ 31 →
      based base ≠ 0 ∧ square base n = basen base n / based base ∧ square base n = base ^ n)
    ∧ (∀ n : ℤ, square (0 : ℝ) n = 0)
    ∧ (∀ n : ℤ, Odd n → 1 ≤ n → n + 16 < 2 ^ 31 →
      (∀ base : ℝ, square (-base) n = -square base n)
      ∧ (StrictMono fun base : ℝ => square base n)
      ∧ (fun base : ℝ => square base n) '' Set.Icc (-1) 1 = Set.Icc (-1) 1
      ∧ square (1 : ℝ) n = 1
      ∧ ∀ base : ℝ, SignType.sign (square base n) = SignType.sign base)
    ∧ (Odd power ∧ 1 ≤ power ∧ power + 16 < 2 ^ 31) := by
  refine ⟨fun base n hbase hlo hhi => ?_, square_zero, fun n hodd hpos hhi => ?_, ?_⟩
  · exact ⟨based_ne_zero hbase, square_eq_div hbase n, square_eq_zpow hbase hlo hhi⟩
  · have hcurve : (fun base : ℝ => square base n) = fun base => base ^ n.toNat :=
      funext fun base => square_eq_pow base hpos hhi
    have hodd' : Odd n.toNat := by
      obtain ⟨k, hk⟩ := hodd
      exact ⟨k.toNat, by omega⟩
    have hmono : StrictMono fun base : ℝ => square base n := by
      rw [hcurve]
      exact hodd'.strictMono_pow
    refine ⟨fun base => ?_, hmono, ?_, ?_, sign_of_strictMono hmono (square_zero n)⟩
    · rw [square_eq_pow _ hpos hhi, square_eq_pow _ hpos hhi, hodd'.neg_pow]
    · rw [hcurve, image_pow_Icc hodd']
    · rw [square_eq_pow _ hpos hhi, one_pow]
  · exact ⟨⟨1, rfl⟩, by decide, by decide⟩

end Designosaurs
