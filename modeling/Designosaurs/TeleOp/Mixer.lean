import Designosaurs.Robot.Hardware
import Mathlib.Algebra.Order.Ring.Abs
import Mathlib.Tactic.FieldSimp
import Mathlib.Tactic.Ring

/-!
# The mecanum mixer of `StandardTeleOp`

`mix` is the sign table that turns the three shaped stick values — forward `lv`, sideways `lh`,
rotation `rh` — into one value per wheel; `unmix` recovers them.  `applied` is what the motors make
of a mixed vector: the low gear divides by three, and the SDK keeps a power inside `[-1, 1]`.

`proportional_iff` settles when the clipping bends the motion.  In low gear it never does,
three shaped sticks being worth at most three.  In high gear a vector survives unbent exactly when
no wheel saturates, or when all the wheels that turn are asked for the same magnitude.
-/

namespace Designosaurs

variable {K : Type} [Field K] [LinearOrder K]

/-- A motion in the frame of the robot. -/
@[ext] structure Motion (K : Type) where
  forward : K
  strafe : K
  rotate : K

/-- The motor powers for the mecanum drive. -/
def mix (lv lh rh : K) : Wheel → K
  | .frontLeft => -lv + lh + rh
  | .frontRight => -lv - lh - rh
  | .backLeft => lv - lh + rh
  | .backRight => lv + lh - rh

/-- The inverse of the mixer. -/
def unmix (v : Wheel → K) : Motion K where
  forward := (-v .frontLeft - v .frontRight + v .backLeft + v .backRight) / 4
  strafe := (v .frontLeft - v .frontRight - v .backLeft + v .backRight) / 4
  rotate := (v .frontLeft - v .frontRight + v .backLeft - v .backRight) / 4

/-- The power the SDK applies, kept in the documented interval. -/
def clip (p : K) : K := max (-1) (min 1 p)

/-- What `loop` passes to `setPower` for one wheel. -/
def geared (isLowGear : Bool) (v : Wheel → K) (w : Wheel) : K :=
  if isLowGear then v w / 3 else v w

/-- What the motors apply. -/
def applied (isLowGear : Bool) (v : Wheel → K) (w : Wheel) : K := clip (geared isLowGear v w)

variable [IsStrictOrderedRing K]

/-- `unmix` recovers the three stick values from the mixed wheel values. -/
lemma unmix_mix (lv lh rh : K) : unmix (mix lv lh rh) = ⟨lv, lh, rh⟩ := by
  ext
  all_goals
    simp only [unmix, mix]
    ring

lemma clip_of_abs_le {p : K} (hp : |p| ≤ 1) : clip p = p := by
  obtain ⟨hlo, hhi⟩ := abs_le.mp hp
  rw [clip, min_eq_right hhi, max_eq_right hlo]

/-- Outside the interval only the sign survives. -/
lemma clip_of_one_le_abs {p : K} (hp : 1 ≤ |p|) : clip p = p / |p| := by
  rcases le_abs.mp hp with h | h
  · have hpos : 0 < p := by linarith
    rw [clip, min_eq_left h, max_eq_right (by norm_num), abs_of_pos hpos, div_self hpos.ne']
  · have hneg : p < 0 := by linarith
    rw [clip, min_eq_right (by linarith), max_eq_left (by linarith), abs_of_neg hneg,
      div_neg, div_self hneg.ne]

/-- The shaped sticks are worth at most three together. -/
lemma abs_mix_le {lv lh rh : K} (hlv : |lv| ≤ 1) (hlh : |lh| ≤ 1) (hrh : |rh| ≤ 1) (w : Wheel) :
    |mix lv lh rh w| ≤ 3 := by
  obtain ⟨hv, hv'⟩ := abs_le.mp hlv
  obtain ⟨hh, hh'⟩ := abs_le.mp hlh
  obtain ⟨hr, hr'⟩ := abs_le.mp hrh
  cases w <;> rw [mix, abs_le] <;> constructor <;> linarith

/-- One common positive factor takes the mixed vector to the applied one. -/
def Proportional (isLowGear : Bool) (v : Wheel → K) : Prop :=
  ∃ k : K, 0 < k ∧ ∀ w, applied isLowGear v w = k * v w

/-- In low gear nothing saturates. -/
lemma proportional_lowGear {v : Wheel → K} (hv : ∀ w, |v w| ≤ 3) : Proportional true v := by
  refine ⟨1 / 3, by norm_num, fun w => ?_⟩
  have hthird : |v w / 3| ≤ 1 := by
    rw [abs_div, abs_of_pos (by norm_num : (0 : K) < 3), div_le_one (by norm_num)]
    exact hv w
  rw [applied, geared, if_pos rfl, clip_of_abs_le hthird]
  ring

/-- In high gear the clipping keeps the direction exactly when no wheel saturates or all the wheels
that turn are asked for one magnitude. -/
lemma proportional_highGear_iff (v : Wheel → K) :
    Proportional false v
      ↔ (∀ w, |v w| ≤ 1) ∨ (∀ w w', v w ≠ 0 → v w' ≠ 0 → |v w| = |v w'|) := by
  have happ : ∀ w, applied false v w = clip (v w) := fun w => rfl
  constructor
  · rintro ⟨k, hk, hall⟩
    by_cases hsat : ∀ w, |v w| ≤ 1
    · exact Or.inl hsat
    · -- a saturated wheel fixes the factor, and it is below one
      push Not at hsat
      obtain ⟨w₀, hw₀⟩ := hsat
      have hk₀ : k * |v w₀| = 1 := by
        have h := congrArg abs (hall w₀)
        rw [happ, clip_of_one_le_abs hw₀.le, abs_mul, abs_of_pos hk, abs_div, abs_abs,
          div_self (by linarith)] at h
        exact h.symm
      have hk1 : k < 1 := by nlinarith
      have hmag : ∀ w, v w ≠ 0 → k * |v w| = 1 := by
        intro w hw
        have h := congrArg abs (hall w)
        rw [happ, abs_mul, abs_of_pos hk] at h
        rcases le_total (|v w|) 1 with hle | hge
        · -- an unsaturated wheel that turns would need the factor one
          rw [clip_of_abs_le hle] at h
          have hpos : 0 < |v w| := abs_pos.mpr hw
          nlinarith
        · rw [clip_of_one_le_abs hge, abs_div, abs_abs, div_self (by linarith)] at h
          exact h.symm
      refine Or.inr fun w w' hw hw' => ?_
      exact mul_left_cancel₀ hk.ne' ((hmag w hw).trans (hmag w' hw').symm)
  · rintro (hsat | hmag)
    · exact ⟨1, one_pos, fun w => by rw [happ, clip_of_abs_le (hsat w), one_mul]⟩
    · by_cases hzero : ∀ w, v w = 0
      · refine ⟨1, one_pos, fun w => ?_⟩
        rw [happ, hzero w, mul_zero]
        exact clip_of_abs_le (by simp)
      · push Not at hzero
        obtain ⟨w₀, hw₀⟩ := hzero
        have hpos : 0 < |v w₀| := abs_pos.mpr hw₀
        rcases le_total (|v w₀|) 1 with hle | hge
        · refine ⟨1, one_pos, fun w => ?_⟩
          rw [happ, one_mul]
          refine clip_of_abs_le ?_
          by_cases hw : v w = 0
          · simp [hw]
          · exact (hmag w w₀ hw hw₀).trans_le hle
        · refine ⟨1 / |v w₀|, by positivity, fun w => ?_⟩
          rw [happ]
          by_cases hw : v w = 0
          · rw [hw, mul_zero]
            exact clip_of_abs_le (by simp)
          · have heq := hmag w w₀ hw hw₀
            rw [clip_of_one_le_abs (heq ▸ hge), heq]
            ring

/-- **When the applied powers keep the direction of the mixed vector**, for both gears. -/
theorem proportional_iff {lv lh rh : K} (hlv : |lv| ≤ 1) (hlh : |lh| ≤ 1) (hrh : |rh| ≤ 1)
    (isLowGear : Bool) :
    Proportional isLowGear (mix lv lh rh)
      ↔ isLowGear = true ∨ (∀ w, |mix lv lh rh w| ≤ 1)
        ∨ (∀ w w', mix lv lh rh w ≠ 0 → mix lv lh rh w' ≠ 0 →
            |mix lv lh rh w| = |mix lv lh rh w'|) := by
  cases isLowGear with
  | true =>
      exact iff_of_true (proportional_lowGear (abs_mix_le hlv hlh hrh)) (Or.inl rfl)
  | false =>
      rw [proportional_highGear_iff]
      simp

end Designosaurs
