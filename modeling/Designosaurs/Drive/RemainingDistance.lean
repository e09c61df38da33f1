import Designosaurs.Drive.Ramp
import Designosaurs.Drive.Targets

/-!
# The ramp down and the distance that is left

The comment over the ramp-down line of `moveRTP` states a law: the speed is the remaining distance
over ten, and no less than `minSpeed`.  The code measures the remaining distance as the difference
between the travel of the front-right wheel and the `distance` of the call.  For `"forward"` and
`"backward"` that is where the wheel was sent.  For `"left"` and `"right"` the wheel was sent
`sideBias` times as far, and the formula still uses the plain distance: it slows the robot down too
early, and speeds it up again once the wheel is past `distance`.

`rampDownSpeed_law_iff` says where on the way the law holds all the same, for every direction and
every reading between zero and the target, to within the half tick the target was rounded by.
-/

namespace Designosaurs

variable {K : Type} [Field K] [LinearOrder K]

/-- Two numbers cut off below at `m` are within `h` of each other when they were before, or when
both are cut off, to within `h`. -/
lemma abs_max_sub_max_le_iff [IsStrictOrderedRing K] {a b m h : K} (hh : 0 ≤ h) :
    |max a m - max b m| ≤ h ↔ |a - b| ≤ h ∨ (a ≤ m + h ∧ b ≤ m + h) := by
  constructor
  · intro hle
    obtain ⟨hlo, hhi⟩ := abs_le.mp hle
    rcases le_total a m with ha | ha <;> rcases le_total b m with hb | hb
    · exact Or.inr ⟨by linarith, by linarith⟩
    · rw [max_eq_right ha, max_eq_left hb] at hlo
      exact Or.inr ⟨by linarith, by linarith⟩
    · rw [max_eq_left ha, max_eq_right hb] at hhi
      exact Or.inr ⟨by linarith, by linarith⟩
    · rw [max_eq_left ha, max_eq_left hb] at hle
      exact Or.inl hle
  · rintro (hle | ⟨ha, hb⟩)
    · exact (abs_max_sub_max_le_abs a b m).trans hle
    · have h₁ := le_max_right a m
      have h₂ := le_max_right b m
      have h₃ : max a m ≤ m + h := max_le ha (by linarith)
      have h₄ : max b m ≤ m + h := max_le hb (by linarith)
      exact abs_le.mpr ⟨by linarith, by linarith⟩

variable [FloorRing K]

section Law

variable (hw : HardwareDesignosaurs K) (heading : Heading) (distance : K)

/-- Half a tick, in inches. -/
def halfTick : K := hw.encoderTicksPerInch / 2

/-- The inches the front-right wheel still has to turn. -/
def remaining (position : ℤ) : K :=
  |((target hw heading distance .frontRight - position : ℤ) : K)| * hw.encoderTicksPerInch

/-- The encoder reading lies between the reset and the target of the front-right wheel. -/
def OnTheWay (position : ℤ) : Prop :=
  (0 ≤ position ∧ position ≤ target hw heading distance .frontRight)
    ∨ (target hw heading distance .frontRight ≤ position ∧ position ≤ 0)

/-- What the comment of the source says of the ramp-down speed of an iteration, up to the rounding
of the target. -/
def DriveLoop.RampDownLaw (d : DriveLoop K) (heading : Heading) (s : RampState K) (x : Sample K) :
    Prop :=
  |(d.rampStep s x).rampDownSpeed
      - max d.hw.minSpeed (remaining d.hw heading d.distance x.position / 10)| ≤ halfTick d.hw / 10

end Law

variable {hw : HardwareDesignosaurs K} {heading : Heading} {distance : K}

lemma onTheWay_zero : OnTheWay hw heading distance 0 := by
  rcases le_total 0 (target hw heading distance .frontRight) with h | h
  · exact Or.inl ⟨le_refl 0, h⟩
  · exact Or.inr ⟨h, le_refl 0⟩

variable [IsStrictOrderedRing K]

/-- On the way, what is left is the travel to the target less the travel so far. -/
lemma remaining_eq {position : ℤ} (hway : OnTheWay hw heading distance position) :
    remaining hw heading distance position
        = travel hw (target hw heading distance .frontRight) - travel hw position
      ∧ travel hw position ≤ travel hw (target hw heading distance .frontRight) := by
  have htick := hw.encoderTicksPerInch_pos
  unfold OnTheWay at hway
  unfold remaining travel
  generalize target hw heading distance .frontRight = goal at hway ⊢
  rcases hway with ⟨h0, hle⟩ | ⟨hle, h0⟩
  · have h0' : (0 : K) ≤ position := by exact_mod_cast h0
    have hle' : (position : K) ≤ goal := by exact_mod_cast hle
    rw [abs_mul, abs_mul, abs_of_pos htick, abs_of_nonneg h0', abs_of_nonneg (h0'.trans hle'),
      abs_of_nonneg (by push_cast; linarith)]
    push_cast
    exact ⟨by ring, mul_le_mul_of_nonneg_right hle' htick.le⟩
  · have h0' : (position : K) ≤ 0 := by exact_mod_cast h0
    have hle' : (goal : K) ≤ position := by exact_mod_cast hle
    rw [abs_mul, abs_mul, abs_of_pos htick, abs_of_nonpos h0', abs_of_nonpos (hle'.trans h0'),
      abs_of_nonpos (by push_cast; linarith)]
    push_cast
    exact ⟨by ring, mul_le_mul_of_nonneg_right (by linarith) htick.le⟩

/-- Where the law holds: the wheel was sent the plain distance to within half a tick; or the
reading is midway between the distance and the target, to within half a tick; or both are within
half a tick of the ten `minSpeed`s where the speed is `minSpeed`. -/
def LawRegion (hw : HardwareDesignosaurs K) (heading : Heading) (distance : K) (position : ℤ) :
    Prop :=
  let goal := travel hw (target hw heading distance .frontRight)
  |goal - distance| ≤ halfTick hw
    ∨ |2 * travel hw position - distance - goal| ≤ halfTick hw
    ∨ (|travel hw position - distance| ≤ 10 * hw.minSpeed + halfTick hw
        ∧ goal - travel hw position ≤ 10 * hw.minSpeed + halfTick hw)

/-- The distance the code computes with and the one that is left agree on three stretches. -/
lemma lawRegion_iff {position : ℤ}
    (hle : travel hw position ≤ travel hw (target hw heading distance .frontRight)) :
    LawRegion hw heading distance position
      ↔ |(|travel hw position - distance|
            - (travel hw (target hw heading distance .frontRight) - travel hw position))|
          ≤ halfTick hw
        ∨ (|travel hw position - distance| ≤ 10 * hw.minSpeed + halfTick hw
          ∧ travel hw (target hw heading distance .frontRight) - travel hw position
            ≤ 10 * hw.minSpeed + halfTick hw) := by
  unfold LawRegion
  generalize travel hw position = covered at hle ⊢
  generalize travel hw (target hw heading distance .frontRight) = goal at hle ⊢
  simp only [abs_le]
  rw [← or_assoc]
  refine or_congr_left' fun _ => ?_
  rcases le_total covered distance with hshort | hpast
  · rw [abs_of_nonpos (by linarith)]
    constructor
    · rintro (⟨h₁, h₂⟩ | ⟨h₁, h₂⟩) <;> constructor <;> linarith
    · rintro ⟨h₁, h₂⟩
      exact Or.inl ⟨by linarith, by linarith⟩
  · rw [abs_of_nonneg (by linarith)]
    constructor
    · rintro (⟨h₁, h₂⟩ | ⟨h₁, h₂⟩) <;> constructor <;> linarith
    · rintro ⟨h₁, h₂⟩
      exact Or.inr ⟨by linarith, by linarith⟩

/-- The front-right wheel is sent the distance, stretched by `sideBias` when the robot strafes, to
within half a tick. -/
lemma target_travel (h0 : 0 ≤ distance) (hfit : TicksFit hw heading distance) :
    |travel hw (target hw heading distance .frontRight)
        - (if heading.strafes then distance * hw.sideBias else distance)| ≤ halfTick hw := by
  have htick := hw.encoderTicksPerInch_pos
  have hinches : (if heading.strafes then distance * hw.sideBias else distance)
      = reach hw heading distance * hw.encoderTicksPerInch := by
    unfold reach encDist
    split_ifs
    · field_simp
    · field_simp
  have hsize : |wheelDistance hw (encDist hw distance) heading .frontRight|
      = reach hw heading distance := by
    rcases wheelDistance_eq hw heading distance .frontRight with h | h <;> rw [h]
    · exact abs_of_nonneg (reach_nonneg h0)
    · rw [abs_neg, abs_of_nonneg (reach_nonneg h0)]
  have hticks : |(|(target hw heading distance .frontRight : K)|)
      - reach hw heading distance| ≤ 1 / 2 := by
    rw [← hsize]
    exact (abs_abs_sub_abs_le _ _).trans (abs_roundToInt_sub_le (hfit .frontRight))
  calc |travel hw (target hw heading distance .frontRight)
          - (if heading.strafes then distance * hw.sideBias else distance)|
      = |(|(target hw heading distance .frontRight : K)|) - reach hw heading distance|
          * hw.encoderTicksPerInch := by
        rw [hinches, travel, abs_mul, abs_of_pos htick, ← sub_mul, abs_mul, abs_of_pos htick]
    _ ≤ 1 / 2 * hw.encoderTicksPerInch := mul_le_mul_of_nonneg_right hticks htick.le
    _ = halfTick hw := by rw [halfTick]; ring

lemma rampDownLaw_iff_lawRegion {d : DriveLoop K} {s : RampState K} {x : Sample K}
    (hway : OnTheWay d.hw heading d.distance x.position) (hopen : s.rampDownLock = false) :
    d.RampDownLaw heading s x ↔ LawRegion d.hw heading d.distance x.position := by
  obtain ⟨hleft, hle⟩ := remaining_eq hway
  have hhalf : 0 ≤ halfTick d.hw := div_nonneg d.hw.encoderTicksPerInch_pos.le (by norm_num)
  have hten : (0 : K) < 10 := by norm_num
  have hspeed : (d.rampStep s x).rampDownSpeed
      = max (|travel d.hw x.position - d.distance| / 10) d.hw.minSpeed := by
    simp [DriveLoop.rampStep, hopen]
  rw [DriveLoop.RampDownLaw, hspeed, max_comm d.hw.minSpeed, abs_max_sub_max_le_iff (by positivity),
    hleft, lawRegion_iff hle, ← sub_div, abs_div, abs_of_pos hten]
  refine or_congr (div_le_div_iff_of_pos_right hten) (and_congr ?_ ?_)
  · rw [div_le_iff₀ hten, add_mul, div_mul_cancel₀ _ hten.ne', mul_comm d.hw.minSpeed]
  · rw [div_le_iff₀ hten, add_mul, div_mul_cancel₀ _ hten.ne', mul_comm d.hw.minSpeed]

/-- **When the ramp down follows the remaining distance.**  While the latch is open, the law of the
comment holds exactly in `LawRegion`; forward and backward, that is everywhere on the way. -/
theorem rampDownSpeed_law_iff {d : DriveLoop K} (h0 : 0 < d.distance) {s : RampState K}
    {x : Sample K} (hway : OnTheWay d.hw heading d.distance x.position)
    (hopen : s.rampDownLock = false) :
    (d.RampDownLaw heading s x ↔ LawRegion d.hw heading d.distance x.position)
    ∧ (heading.strafes = false → TicksFit d.hw heading d.distance →
        d.RampDownLaw heading s x) := by
  have hiff := rampDownLaw_iff_lawRegion hway hopen
  refine ⟨hiff, fun hstraight hfit => hiff.mpr (Or.inl ?_)⟩
  have hgoal := target_travel h0.le hfit
  rw [hstraight] at hgoal
  exact hgoal

/-- The way of a forward move of ten inches begins at zero, where the law holds. -/
theorem rampDownSpeed_law_forward :
    (⟨designosaurs, 0.4, 10, 0⟩ : DriveLoop ℝ).RampDownLaw .forward (.start 0) ⟨0, 0⟩ :=
  (rampDownSpeed_law_iff (by norm_num) onTheWay_zero rfl).2 rfl
    (designosaurs_ticksFit _ (by norm_num) (by norm_num))

/-- A strafe of 24 inches breaks the law with its first reading: nearly 34 inches are left, and the
ramp down is computed from 24. -/
theorem rampDownSpeed_law_fails_left :
    ¬ ∀ (heading : Heading) (distance maxSpeed prevTime : ℝ) (s : RampState ℝ) (x : Sample ℝ),
      0 < distance → OnTheWay designosaurs heading distance x.position →
        s.rampDownLock = false →
          (⟨designosaurs, maxSpeed, distance, prevTime⟩ : DriveLoop ℝ).RampDownLaw heading s x := by
  intro h
  obtain ⟨htick, htick'⟩ := designosaurs_encoderTicksPerInch_bounds
  obtain ⟨hbias, -⟩ := designosaurs_sideBias_bounds
  have hhalf : halfTick designosaurs < 0.015 := by
    rw [halfTick]
    linarith
  have hfit : TicksFit designosaurs .left 24 :=
    designosaurs_ticksFit _ (by norm_num) (by norm_num)
  have hgoal := target_travel (by norm_num) hfit
  simp only [Heading.strafes, if_true] at hgoal
  obtain ⟨hgoal, -⟩ := abs_le.mp hgoal
  have hlaw := h .left 24 0.4 0 (.start 0) ⟨0, 0⟩ (by norm_num) onTheWay_zero rfl
  have hregion := (rampDownLaw_iff_lawRegion onTheWay_zero rfl).mp hlaw
  have hzero : travel designosaurs 0 = 0 := by simp [travel]
  have hmin : designosaurs.minSpeed = 0.2 := rfl
  rcases hregion with h₁ | h₂ | ⟨h₃, -⟩
  · have := (abs_le.mp h₁).2
    linarith
  · rw [hzero] at h₂
    have := (abs_le.mp h₂).1
    linarith
  · rw [hzero, hmin] at h₃
    have := (abs_le.mp h₃).1
    linarith

end Designosaurs
