import Designosaurs.Robot.Hardware
import Mathlib.Tactic.Ring

/-!
# The speed ramps of `moveRTP`

The body of `moveRTP`'s drive loop turns one reading of the clock and one of the front-right encoder
into a motor power.  `rampStep` is that computation on the loop's local variables;
`DriveLoop.after` runs it over all the samples the loop has taken, **newest first**, so that
`x :: past` is the iteration that read `x` after the iterations that read `past`.

The loop is written with accumulators: a ramp-up speed that grows by increments and is clamped only
when it is looked at again, and a latch on the ramp-down speed that is set by an equality test.
This file solves both recurrences.

* `rampUpSpeed_eq` — the ramp-up speed is `accelPerSec` times the elapsed time until that has
  reached `maxSpeed`, and exactly `maxSpeed` ever after.
* `rampDownLock_iff`, `rampDownSpeed_eq` — the latch is set by the first sample within ten
  `minSpeed`s of the distance, and from the next sample on the ramp-down speed is `minSpeed`.

Neither needs the clock to be monotone.
-/

namespace Designosaurs

variable {K : Type} [Field K] [LinearOrder K]

/-- What one iteration of the drive loop reads: `time.time()`, then the front-right encoder. -/
structure Sample (K : Type) where
  nowTime : K
  position : ℤ

/-- The local variables of the drive loop.  `deltaTime` has no value before the first iteration
and is not read before it gets one. -/
structure RampState (K : Type) where
  prevTime : K
  deltaTime : K
  rampUpSpeed : K
  rampDownSpeed : K
  currentSpeed : K
  rampDownLock : Bool

/-- The local variables as the loop is entered. -/
def RampState.start (prevTime : K) : RampState K where
  prevTime := prevTime
  deltaTime := 0
  rampUpSpeed := 0
  rampDownSpeed := 0
  currentSpeed := 0
  rampDownLock := false

/-- A property of every iteration of a run, taken apart at the newest one. -/
lemma forall_suffix_cons {α : Type} {P : α → List α → Prop} {y : α} {run : List α} :
    (∀ x past, x :: past <:+ y :: run → P x past)
      ↔ P y run ∧ ∀ x past, x :: past <:+ run → P x past := by
  constructor
  · intro h
    refine ⟨h y run (List.suffix_refl _), fun x past hx => ?_⟩
    exact h x past (hx.trans (List.suffix_cons y run))
  · rintro ⟨hy, hrun⟩ x past hx
    rcases List.suffix_cons_iff.mp hx with heq | hx
    · obtain ⟨rfl, rfl⟩ := List.cons.inj heq
      exact hy
    · exact hrun x past hx

lemma forall_suffix_nil {α : Type} {P : α → List α → Prop} :
    (∀ x past, x :: past <:+ [] → P x past) ↔ True :=
  iff_true_intro fun _ _ hx => absurd hx (by simp)

/-- The inches the front-right wheel has turned, whichever way, at an encoder reading. -/
def travel (hw : HardwareDesignosaurs K) (position : ℤ) : K :=
  |(position : K) * hw.encoderTicksPerInch|

/-- What the drive loop of one `moveRTP` call computes with: the robot's constants, two arguments
of the call, and the clock reading `prevTime` taken before the loop. -/
structure DriveLoop (K : Type) [Field K] [LinearOrder K] where
  hw : HardwareDesignosaurs K
  maxSpeed : K
  distance : K
  prevTime : K

namespace DriveLoop

variable (d : DriveLoop K)

/-- One iteration of the drive loop, from the sample it reads to the speed it commands. -/
def rampStep (s : RampState K) (x : Sample K) : RampState K :=
  let deltaTime := x.nowTime - s.prevTime
  let rampUpSpeed :=
    if s.rampUpSpeed < d.maxSpeed then s.rampUpSpeed + deltaTime * d.hw.accelPerSec
    else d.maxSpeed
  let rampDownSpeed := max (|travel d.hw x.position - d.distance| * 1 / 10) d.hw.minSpeed
  -- the latch overrides the value just computed, or is set by it, in that order
  let locked := if s.rampDownLock then d.hw.minSpeed else rampDownSpeed
  { prevTime := x.nowTime
    deltaTime := deltaTime
    rampUpSpeed := rampUpSpeed
    rampDownSpeed := locked
    currentSpeed := min rampUpSpeed locked
    rampDownLock := s.rampDownLock || decide (d.hw.minSpeed = rampDownSpeed) }

/-- The local variables after the loop has read the samples of a run, newest first. -/
def after : List (Sample K) → RampState K
  | [] => .start d.prevTime
  | x :: past => d.rampStep (after past) x

/-- The clock reading before the next sample of a run. -/
def lastTime : List (Sample K) → K
  | [] => d.prevTime
  | x :: _ => x.nowTime

/-- The sample is within ten `minSpeed`s of the distance, where the ramp-down speed is
`minSpeed`. -/
def Near (x : Sample K) : Prop := |travel d.hw x.position - d.distance| ≤ 10 * d.hw.minSpeed

instance (x : Sample K) : Decidable (d.Near x) := inferInstanceAs (Decidable (_ ≤ _))

@[simp] lemma after_prevTime (run : List (Sample K)) :
    (d.after run).prevTime = d.lastTime run := by
  cases run <;> rfl

/-- The commanded speed is the lower of the two ramps, also before the first iteration. -/
lemma currentSpeed_eq_min (run : List (Sample K)) :
    (d.after run).currentSpeed
      = min (d.after run).rampUpSpeed (d.after run).rampDownSpeed := by
  cases run with
  | nil => simp [after, RampState.start]
  | cons x past => rfl

/-! ## The ramp up -/

lemma rampUpSpeed_cons (x : Sample K) (past : List (Sample K)) :
    (d.after (x :: past)).rampUpSpeed
      = if (d.after past).rampUpSpeed < d.maxSpeed then
          (d.after past).rampUpSpeed + (x.nowTime - d.lastTime past) * d.hw.accelPerSec
        else d.maxSpeed := by
  rw [← d.after_prevTime]
  rfl

/-- As long as no sample had reached `maxSpeed`, the accumulated increments are the whole elapsed
time; once one had, the accumulator is at least `maxSpeed`.  The two halves need each other: the
clamp compares the *old* value, so each step looks one sample back. -/
lemma rampUpSpeed_accumulates (hmax : 0 < d.maxSpeed) (run : List (Sample K)) :
    ((∀ y ∈ run, d.hw.accelPerSec * (y.nowTime - d.prevTime) < d.maxSpeed) →
      (d.after run).rampUpSpeed = d.hw.accelPerSec * (d.lastTime run - d.prevTime))
    ∧ ((∃ y ∈ run, d.maxSpeed ≤ d.hw.accelPerSec * (y.nowTime - d.prevTime)) →
      d.maxSpeed ≤ (d.after run).rampUpSpeed) := by
  induction run with
  | nil =>
      refine ⟨fun _ => ?_, fun ⟨y, hy, _⟩ => absurd hy (by simp)⟩
      simp [after, RampState.start, lastTime]
  | cons x past ih =>
      obtain ⟨ihBelow, ihAbove⟩ := ih
      rw [rampUpSpeed_cons]
      by_cases hpast : ∀ y ∈ past, d.hw.accelPerSec * (y.nowTime - d.prevTime) < d.maxSpeed
      · -- nothing was clamped yet, and this step adds its increment as well
        have hlast : d.hw.accelPerSec * (d.lastTime past - d.prevTime) < d.maxSpeed := by
          cases past with
          | nil => simpa [lastTime] using hmax
          | cons y earlier => exact hpast y (by simp)
        have hsum : (if (d.after past).rampUpSpeed < d.maxSpeed then
              (d.after past).rampUpSpeed + (x.nowTime - d.lastTime past) * d.hw.accelPerSec
            else d.maxSpeed) = d.hw.accelPerSec * (x.nowTime - d.prevTime) := by
          rw [ihBelow hpast, if_pos hlast]
          ring
        rw [hsum]
        refine ⟨fun _ => rfl, ?_⟩
        rintro ⟨y, hy, hge⟩
        rcases List.mem_cons.mp hy with rfl | hy
        · exact hge
        · exact absurd (hpast y hy) (not_lt.mpr hge)
      · -- an earlier sample had reached `maxSpeed`: the clamp is taken, now and ever after
        push Not at hpast
        have hclamp := ihAbove hpast
        rw [if_neg (not_lt.mpr hclamp)]
        refine ⟨fun hall => ?_, fun _ => le_refl _⟩
        obtain ⟨y, hy, hge⟩ := hpast
        exact absurd (hall y (List.mem_cons_of_mem x hy)) (not_lt.mpr hge)

/-- **The ramp-up speed in closed form.**  It depends on the elapsed time alone, not on how many
iterations it was cut into. -/
theorem rampUpSpeed_eq (hmax : 0 < d.maxSpeed) (x : Sample K) (past : List (Sample K)) :
    (d.after (x :: past)).rampUpSpeed
      = if ∀ y ∈ past, d.hw.accelPerSec * (y.nowTime - d.prevTime) < d.maxSpeed then
          d.hw.accelPerSec * (x.nowTime - d.prevTime)
        else d.maxSpeed := by
  obtain ⟨hbelow, habove⟩ := d.rampUpSpeed_accumulates hmax past
  rw [rampUpSpeed_cons]
  split_ifs with hlt hall hall
  · rw [hbelow hall]
    ring
  · push Not at hall
    exact absurd hlt (not_lt.mpr (habove hall))
  · -- below `maxSpeed` at every earlier sample, so the accumulator was too
    exfalso
    apply hlt
    rw [hbelow hall]
    cases past with
    | nil => simpa [lastTime] using hmax
    | cons y earlier => exact hall y (by simp)
  · rfl

/-- With `maxSpeed = 0` the ramp never leaves zero. -/
lemma rampUpSpeed_zero (hmax : d.maxSpeed = 0) (run : List (Sample K)) :
    (d.after run).rampUpSpeed = 0 := by
  induction run with
  | nil => rfl
  | cons x past ih => rw [rampUpSpeed_cons, ih, hmax, if_neg (lt_irrefl 0)]

/-! ## The ramp down and its latch -/

lemma rampDownLock_cons (x : Sample K) (past : List (Sample K)) :
    (d.after (x :: past)).rampDownLock
      = ((d.after past).rampDownLock
        || decide (d.hw.minSpeed
            = max (|travel d.hw x.position - d.distance| * 1 / 10) d.hw.minSpeed)) := rfl

lemma rampDownSpeed_cons (x : Sample K) (past : List (Sample K)) :
    (d.after (x :: past)).rampDownSpeed
      = if (d.after past).rampDownLock then d.hw.minSpeed
        else max (|travel d.hw x.position - d.distance| * 1 / 10) d.hw.minSpeed := rfl

/-- The ramp-down speed never falls below `minSpeed`. -/
lemma minSpeed_le_rampDownSpeed (x : Sample K) (past : List (Sample K)) :
    d.hw.minSpeed ≤ (d.after (x :: past)).rampDownSpeed := by
  rw [rampDownSpeed_cons]
  split_ifs
  · exact le_refl _
  · exact le_max_right _ _

/-- It is the ramp up alone that can hold the power at zero. -/
lemma currentSpeed_eq_zero_iff (run : List (Sample K)) :
    (d.after run).currentSpeed = 0 ↔ (d.after run).rampUpSpeed = 0 := by
  cases run with
  | nil => exact Iff.rfl
  | cons x past =>
      have hdown : 0 < (d.after (x :: past)).rampDownSpeed :=
        d.hw.minSpeed_pos.trans_le (d.minSpeed_le_rampDownSpeed x past)
      rw [currentSpeed_eq_min]
      constructor
      · intro hzero
        rcases min_choice (d.after (x :: past)).rampUpSpeed (d.after (x :: past)).rampDownSpeed
          with h | h
        · rw [← h, hzero]
        · exact absurd (h.symm.trans hzero) hdown.ne'
      · intro hzero
        rw [hzero, min_eq_left hdown.le]

/-- With `maxSpeed = 0` the loop commands nothing. -/
lemma currentSpeed_zero (hmax : d.maxSpeed = 0) (run : List (Sample K)) :
    (d.after run).currentSpeed = 0 :=
  (d.currentSpeed_eq_zero_iff run).mpr (d.rampUpSpeed_zero hmax run)

/-- The power is at least what the ramp up is worth, or the lower of `maxSpeed` and `minSpeed`. -/
lemma le_currentSpeed (hmax : 0 < d.maxSpeed) (x : Sample K) (past : List (Sample K)) :
    min (d.hw.accelPerSec * (x.nowTime - d.prevTime)) (min d.maxSpeed d.hw.minSpeed)
      ≤ (d.after (x :: past)).currentSpeed := by
  rw [currentSpeed_eq_min, d.rampUpSpeed_eq hmax]
  refine le_min ?_ ?_
  · split_ifs
    · exact min_le_left _ _
    · exact (min_le_right _ _).trans (min_le_left _ _)
  · calc min (d.hw.accelPerSec * (x.nowTime - d.prevTime)) (min d.maxSpeed d.hw.minSpeed)
        ≤ min d.maxSpeed d.hw.minSpeed := min_le_right _ _
      _ ≤ d.hw.minSpeed := min_le_right _ _
      _ ≤ (d.after (x :: past)).rampDownSpeed := d.minSpeed_le_rampDownSpeed x past

variable [IsStrictOrderedRing K]

/-- The equality test of the source asks whether the sample is near. -/
lemma minSpeed_eq_max_iff (x : Sample K) :
    d.hw.minSpeed = max (|travel d.hw x.position - d.distance| * 1 / 10) d.hw.minSpeed
      ↔ d.Near x := by
  rw [eq_comm, max_eq_right_iff, mul_one, div_le_iff₀ (by norm_num : (0 : K) < 10), mul_comm]
  rfl

/-- **The latch is set by the first near sample and never lost.** -/
theorem rampDownLock_iff (run : List (Sample K)) :
    (d.after run).rampDownLock = true ↔ ∃ y ∈ run, d.Near y := by
  induction run with
  | nil => simp [after, RampState.start]
  | cons x past ih =>
      rw [rampDownLock_cons, Bool.or_eq_true, ih, decide_eq_true_iff, minSpeed_eq_max_iff,
        List.exists_mem_cons_iff]
      exact or_comm

/-- **The ramp-down speed in closed form**: a tenth of the distance that is left until a sample is
near, and `minSpeed` ever after. -/
theorem rampDownSpeed_eq (x : Sample K) (past : List (Sample K)) :
    (d.after (x :: past)).rampDownSpeed
      = if ∃ y ∈ past, d.Near y then d.hw.minSpeed
        else max (|travel d.hw x.position - d.distance| / 10) d.hw.minSpeed := by
  rw [rampDownSpeed_cons, mul_one]
  exact if_congr (d.rampDownLock_iff past) rfl rfl

/-- Once a sample was near, the ramp-down speed is `minSpeed`. -/
lemma rampDownSpeed_eq_minSpeed {x : Sample K} {past : List (Sample K)}
    (hnear : ∃ y ∈ x :: past, d.Near y) :
    (d.after (x :: past)).rampDownSpeed = d.hw.minSpeed := by
  rw [rampDownSpeed_eq]
  split_ifs with hpast
  · rfl
  · -- no earlier sample was near, so the near one is the newest
    have hx : d.Near x := (List.exists_mem_cons_iff _ _ _).mp hnear |>.resolve_right hpast
    rw [max_eq_right_iff, div_le_iff₀ (by norm_num : (0 : K) < 10), mul_comm]
    exact hx

/-- An iteration commands a power once the clock has moved on. -/
lemma currentSpeed_pos (hmax : 0 < d.maxSpeed) (x : Sample K) (past : List (Sample K))
    (htime : d.prevTime < x.nowTime) : 0 < (d.after (x :: past)).currentSpeed := by
  have helapsed : 0 < d.hw.accelPerSec * (x.nowTime - d.prevTime) :=
    mul_pos d.hw.accelPerSec_pos (sub_pos.mpr htime)
  exact (lt_min helapsed (lt_min hmax d.hw.minSpeed_pos)).trans_le (d.le_currentSpeed hmax x past)

end DriveLoop

end Designosaurs
