import Mathlib.Algebra.Order.Floor.Ring
import Mathlib.Tactic.Linarith
import Mathlib.Tactic.NormNum

/-!
# The Java primitives the robot code uses

The op modes are Java, and three of its habits are visible in their behaviour.

* `(int) Math.round(x)` rounds half **up** — so `round (-x)` is not `-round x` on a half tick —
  saturates at the `long` range and then keeps the low 32 bits.
* `TimeUnit.convert` truncates towards zero.
* `==` on two `String`s compares references, not texts.

`double` arithmetic is taken exactly: `K` is any ordered field with a floor, so that the model can
be read over `ℝ`, where the constants of the source live, and run over `ℚ`.
-/

namespace Designosaurs

/-! ## Numerals

A numeral of `K` holds the fact that it is at least two.  The small ones that definitions share have
that fact under a name. -/

instance two_atLeastTwo : Nat.AtLeastTwo 2 := ⟨by decide⟩

instance three_atLeastTwo : Nat.AtLeastTwo 3 := ⟨by decide⟩

instance four_atLeastTwo : Nat.AtLeastTwo 4 := ⟨by decide⟩

instance ten_atLeastTwo : Nat.AtLeastTwo 10 := ⟨by decide⟩

/-! ## Rounding -/

section Rounding

variable {K : Type} [Field K] [LinearOrder K] [FloorRing K]

/-- `Math.round(double)`: the nearest `long`, ties upwards, saturated at the ends of the range. -/
def mathRound (x : K) : ℤ := max (-2 ^ 63) (min (2 ^ 63 - 1) ⌊x + 1 / 2⌋)

/-- The narrowing conversion `(int)` of a `long`: its low 32 bits, read as a signed number. -/
def toInt (n : ℤ) : ℤ := n.bmod (2 ^ 32)

/-- `(int) Math.round(x)`, the way every target position is computed. -/
def roundToInt (x : K) : ℤ := toInt (mathRound x)

/-- The rounded value of `x` is in the range of an `int`. -/
def FitsInt (x : K) : Prop := -2 ^ 31 ≤ ⌊x + 1 / 2⌋ ∧ ⌊x + 1 / 2⌋ < 2 ^ 31

instance (x : K) : Decidable (FitsInt x) := inferInstanceAs (Decidable (_ ∧ _))

/-- In range, neither the saturation nor the narrowing does anything. -/
lemma roundToInt_eq {x : K} (hx : FitsInt x) : roundToInt x = ⌊x + 1 / 2⌋ := by
  obtain ⟨hlo, hhi⟩ := hx
  have hround : mathRound x = ⌊x + 1 / 2⌋ := by
    unfold mathRound
    omega
  rw [roundToInt, toInt, hround]
  exact Int.bmod_eq_of_le (by omega) (by omega)

lemma roundToInt_le {x : K} (hx : FitsInt x) : (roundToInt x : K) ≤ x + 1 / 2 := by
  rw [roundToInt_eq hx]
  exact Int.floor_le (x + 1 / 2)

variable [IsStrictOrderedRing K]

lemma fitsInt_of_abs_le {x : K} (hx : |x| ≤ 2 ^ 30) : FitsInt x := by
  obtain ⟨hlo, hhi⟩ := abs_le.mp hx
  constructor
  · rw [Int.le_floor]
    push_cast
    linarith
  · rw [Int.floor_lt]
    push_cast
    linarith

lemma le_roundToInt {x : K} (hx : FitsInt x) : x - 1 / 2 ≤ roundToInt x := by
  rw [roundToInt_eq hx]
  linarith [Int.lt_floor_add_one (x + 1 / 2)]

lemma abs_roundToInt_sub_le {x : K} (hx : FitsInt x) : |(roundToInt x : K) - x| ≤ 1 / 2 :=
  abs_le.mpr ⟨by linarith [le_roundToInt hx], by linarith [roundToInt_le hx]⟩

/-- Rounding half up keeps a nonnegative number nonnegative. -/
lemma roundToInt_nonneg {x : K} (hx : FitsInt x) (h0 : 0 ≤ x) : 0 ≤ roundToInt x := by
  rw [roundToInt_eq hx]
  exact Int.floor_nonneg.mpr (by linarith)

/-- Rounding half up keeps a nonpositive number nonpositive: `-1/2` goes to `0`. -/
lemma roundToInt_nonpos {x : K} (hx : FitsInt x) (h0 : x ≤ 0) : roundToInt x ≤ 0 := by
  rw [roundToInt_eq hx]
  exact Int.lt_add_one_iff.mp (Int.floor_lt.mpr (by push_cast; linarith))

end Rounding

/-! ## Time units -/

/-- The two `TimeUnit`s the op modes ask for. -/
inductive TimeUnit where
  | SECONDS
  | MILLISECONDS
  deriving DecidableEq, Repr

namespace TimeUnit

/-- How many nanoseconds one unit has. -/
def nanos : TimeUnit → ℤ
  | SECONDS => 1000000000
  | MILLISECONDS => 1000000

/-- `unit.convert(ns, NANOSECONDS)`: whole units, truncated towards zero. -/
def convert (unit : TimeUnit) (ns : ℤ) : ℤ := ns.tdiv unit.nanos

/-- What the truncation of `convert` drops. -/
def phase (unit : TimeUnit) (ns : ℤ) : ℤ := ns.tmod unit.nanos

lemma nanos_pos (unit : TimeUnit) : 0 < unit.nanos := by cases unit <;> decide

lemma convert_add_phase (unit : TimeUnit) (ns : ℤ) :
    unit.nanos * unit.convert ns + unit.phase ns = ns :=
  Int.mul_tdiv_add_tmod ns unit.nanos

lemma convert_of_nonneg (unit : TimeUnit) {ns : ℤ} (h0 : 0 ≤ ns) :
    0 ≤ unit.convert ns ∧ 0 ≤ unit.phase ns ∧ unit.phase ns < unit.nanos :=
  ⟨Int.tdiv_nonneg h0 unit.nanos_pos.le, Int.tmod_nonneg _ h0,
    Int.tmod_lt_of_pos ns unit.nanos_pos⟩

lemma convert_of_nonpos (unit : TimeUnit) {ns : ℤ} (h0 : ns ≤ 0) :
    unit.convert ns ≤ 0 ∧ unit.phase ns ≤ 0 ∧ -unit.nanos < unit.phase ns := by
  have hneg := unit.convert_of_nonneg (neg_nonneg.mpr h0)
  have hconvert : unit.convert (-ns) = -unit.convert ns := Int.neg_tdiv ns unit.nanos
  have hphase : unit.phase (-ns) = -unit.phase ns := Int.neg_tmod ns unit.nanos
  omega

/-- **What a difference of truncated readings is worth.**  Once it has reached the limit, the time
between the readings has reached it too, unless the difference is the limit exactly and the later
reading is the less advanced in its unit. -/
theorem le_sub_iff_of_le_convert_sub (unit : TimeUnit) {limit s t : ℤ} (hst : s ≤ t)
    (hend : limit ≤ |unit.convert t - unit.convert s|) :
    limit * unit.nanos ≤ t - s
      ↔ limit < unit.convert t - unit.convert s ∨ unit.phase s ≤ unit.phase t := by
  have hs := unit.convert_add_phase s
  have ht := unit.convert_add_phase t
  have hsign : ∀ ns, (0 ≤ ns → 0 ≤ unit.convert ns ∧ 0 ≤ unit.phase ns ∧ unit.phase ns < unit.nanos)
      ∧ (ns ≤ 0 → unit.convert ns ≤ 0 ∧ unit.phase ns ≤ 0 ∧ -unit.nanos < unit.phase ns) :=
    fun _ => ⟨unit.convert_of_nonneg, unit.convert_of_nonpos⟩
  have hs0 := hsign s
  have ht0 := hsign t
  have hmono : unit.convert s ≤ unit.convert t := by
    cases unit <;> simp only [nanos] at * <;> omega
  rw [abs_of_nonneg (by omega)] at hend
  cases unit <;> simp only [nanos] at * <;> omega

/-- A difference of truncated readings is less than a unit more than the time between them. -/
lemma lt_sub_of_le_convert_sub (unit : TimeUnit) {limit s t : ℤ} (hst : s ≤ t)
    (hend : limit ≤ |unit.convert t - unit.convert s|) : (limit - 1) * unit.nanos < t - s := by
  have hs := unit.convert_add_phase s
  have ht := unit.convert_add_phase t
  have hsign : ∀ ns, (0 ≤ ns → 0 ≤ unit.convert ns ∧ 0 ≤ unit.phase ns ∧ unit.phase ns < unit.nanos)
      ∧ (ns ≤ 0 → unit.convert ns ≤ 0 ∧ unit.phase ns ≤ 0 ∧ -unit.nanos < unit.phase ns) :=
    fun _ => ⟨unit.convert_of_nonneg, unit.convert_of_nonpos⟩
  have hs0 := hsign s
  have ht0 := hsign t
  have hmono : unit.convert s ≤ unit.convert t := by
    cases unit <;> simp only [nanos] at * <;> omega
  rw [abs_of_nonneg (by omega)] at hend
  cases unit <;> simp only [nanos] at * <;> omega

/-- Two truncations lose less than two units. -/
lemma le_convert_sub_of_le_sub (unit : TimeUnit) {limit s t : ℤ}
    (hlasted : (limit + 2) * unit.nanos ≤ t - s) : limit ≤ unit.convert t - unit.convert s := by
  have hs := unit.convert_add_phase s
  have ht := unit.convert_add_phase t
  have hphase_s : -unit.nanos < unit.phase s := Int.lt_tmod_of_pos s unit.nanos_pos
  have hphase_t : unit.phase t < unit.nanos := Int.tmod_lt_of_pos t unit.nanos_pos
  cases unit <;> simp only [nanos] at * <;> omega

end TimeUnit

/-! ## Strings -/

/-- A reference to a Java `String`.  Literals with one text are one interned object; an object
made at run time is another one, whatever its text.  Equality here is Java's `==`. -/
inductive StringRef where
  | null
  | literal (text : String)
  | object (id : ℕ) (text : String)
  deriving DecidableEq, Repr

end Designosaurs
