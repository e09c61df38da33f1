import Designosaurs.Drive.Ramp

/-!
# What the drive loop commands: ramps, cap and profile

Four results about every run of the drive loop, whatever it reads.

**The ramp up follows the clock, the ramp down follows the wheel until it locks.**
`rampUp_follows_clock`: the ramp-up speed is worth the time since the loop was entered, up to
`maxSpeed`, however irregular the iterations are, so a power is positive once the clock has moved
on.  `rampDown_locks`: the first near sample ends the ramp down at `minSpeed`, and no later reading,
however noisy, starts it again.

**The cap leaks once.**  The ramp-up speed is compared with `maxSpeed` *before* the increment, so
the iteration in which the elapsed time first passes `maxSpeed / accelPerSec` commands more than
`maxSpeed`, unless the ramp-down speed happens to hold it back; the next iteration clamps.
`currentSpeed_le_maxSpeed_iff` says exactly when a run stays under the cap.

**The profile is a trapezoid all the same.**  `currentSpeed_trapezoid`: the power rises no faster
than `accelPerSec`, and once it has fallen it never rises again.  The invariant behind the second
half is `Descending`: either the ramp-up speed sits at `maxSpeed` for good, or the ramp-down speed
is the lower of the two — and both persist.
-/

namespace Designosaurs

namespace DriveLoop

variable {K : Type} [Field K] [LinearOrder K] (d : DriveLoop K)

/-! ## The two ramps along a run -/

section Ramps

variable [IsStrictOrderedRing K]

/-- **The ramp up follows the clock.**  In every iteration of a run the ramp-up speed is
`accelPerSec` times the time since the loop was entered, as long as that had not reached `maxSpeed`
before, and exactly `maxSpeed` otherwise.  So the power is at least the lowest of that product,
`maxSpeed` and `minSpeed`, whatever the encoder says, and positive once the clock has advanced. -/
theorem rampUp_follows_clock (hmax : 0 < d.maxSpeed) (run : List (Sample K)) :
    ∀ x past, x :: past <:+ run →
      ((∀ y ∈ past, d.hw.accelPerSec * (y.nowTime - d.prevTime) < d.maxSpeed) →
        (d.after (x :: past)).rampUpSpeed = d.hw.accelPerSec * (x.nowTime - d.prevTime))
      ∧ (¬ (∀ y ∈ past, d.hw.accelPerSec * (y.nowTime - d.prevTime) < d.maxSpeed) →
        (d.after (x :: past)).rampUpSpeed = d.maxSpeed)
      ∧ min (d.hw.accelPerSec * (x.nowTime - d.prevTime)) (min d.maxSpeed d.hw.minSpeed)
        ≤ (d.after (x :: past)).currentSpeed
      ∧ (d.prevTime < x.nowTime → 0 < (d.after (x :: past)).currentSpeed) := by
  intro x past _
  have hup := d.rampUpSpeed_eq hmax x past
  exact ⟨fun hall => hup.trans (if_pos hall), fun hall => hup.trans (if_neg hall),
    d.le_currentSpeed hmax x past, d.currentSpeed_pos hmax x past⟩

/-- **The first near sample locks the ramp down.**  Before it the ramp-down speed is a tenth of the
distance that is left, and above `minSpeed`; from it on the ramp-down speed is `minSpeed` and no
power is above that, whatever is read later; and without a near sample the latch stays open. -/
theorem rampDown_locks (run : List (Sample K)) :
    (∀ m early, m :: early <:+ run → d.Near m → (∀ y ∈ early, ¬ d.Near y) →
      (∀ x past, x :: past <:+ early →
        (d.after (x :: past)).rampDownSpeed = |travel d.hw x.position - d.distance| / 10
          ∧ d.hw.minSpeed < (d.after (x :: past)).rampDownSpeed)
      ∧ (∀ x past, m :: early <:+ x :: past → x :: past <:+ run →
        (d.after (x :: past)).rampDownSpeed = d.hw.minSpeed
          ∧ (d.after (x :: past)).currentSpeed ≤ d.hw.minSpeed))
    ∧ ((∀ y ∈ run, ¬ d.Near y) → ∀ late, late <:+ run → (d.after late).rampDownLock = false) := by
  refine ⟨fun m early _ hm hearly => ⟨fun x past hx => ?_, fun x past hx _ => ?_⟩, ?_⟩
  · have hopen : ¬ ∃ y ∈ past, d.Near y := fun ⟨y, hy, hnear⟩ =>
      hearly y (hx.subset (List.mem_cons_of_mem x hy)) hnear
    have hfar : 10 * d.hw.minSpeed < |travel d.hw x.position - d.distance| :=
      not_le.mp (hearly x (hx.subset List.mem_cons_self))
    have habove : d.hw.minSpeed < |travel d.hw x.position - d.distance| / 10 := by
      rw [lt_div_iff₀ (by norm_num : (0 : K) < 10), mul_comm]
      exact hfar
    rw [rampDownSpeed_eq, if_neg hopen, max_eq_left habove.le]
    exact ⟨rfl, habove⟩
  · have hlocked : (d.after (x :: past)).rampDownSpeed = d.hw.minSpeed :=
      d.rampDownSpeed_eq_minSpeed ⟨m, hx.subset List.mem_cons_self, hm⟩
    refine ⟨hlocked, ?_⟩
    rw [currentSpeed_eq_min, hlocked]
    exact min_le_right _ _
  · intro hfar late hlate
    rw [Bool.eq_false_iff, Ne, rampDownLock_iff]
    rintro ⟨y, hy, hnear⟩
    exact hfar y (hlate.subset hy) hnear

/-- A move of three inches at `maxSpeed` 0.4. -/
noncomputable abbrev threeInches : DriveLoop ℝ := ⟨designosaurs, 0.4, 3, 0⟩

/-- Four samples of it. -/
noncomputable def threeInchesRun : List (Sample ℝ) := [⟨0.7, 30⟩, ⟨0.6, 20⟩, ⟨0.5, 10⟩, ⟨0.25, 0⟩]

/-- Its first quarter of a second is worth half of `maxSpeed`, and its first six tenths of a second
are worth no more than `maxSpeed`. -/
theorem rampUp_follows_clock_clamped :
    (threeInches.after [⟨0.25, 0⟩]).rampUpSpeed = 0.2
      ∧ (threeInches.after [⟨0.6, 20⟩, ⟨0.5, 10⟩, ⟨0.25, 0⟩]).rampUpSpeed = 0.4
      ∧ 0.2 ≤ (threeInches.after threeInchesRun).currentSpeed
      ∧ 0 < (threeInches.after threeInchesRun).currentSpeed := by
  have hall := rampUp_follows_clock threeInches (show (0 : ℝ) < 0.4 by norm_num) threeInchesRun
  obtain ⟨hearly, -⟩ := hall ⟨0.25, 0⟩ [] (List.suffix_append [_, _, _] _)
  obtain ⟨-, hlate, -⟩ := hall ⟨0.6, 20⟩ [⟨0.5, 10⟩, ⟨0.25, 0⟩] (List.suffix_cons _ _)
  obtain ⟨-, -, hbound, hpos⟩ := hall ⟨0.7, 30⟩ _ (List.suffix_refl _)
  refine ⟨?_, hlate ?_, le_trans ?_ hbound, hpos (by norm_num)⟩
  · rw [hearly (by simp)]
    norm_num [designosaurs]
  · norm_num [designosaurs]
  · norm_num [designosaurs]

/-- It is near at its hundredth tick, and a reading of zero after that does not unlock it. -/
theorem rampDown_locks_for_good :
    (threeInches.after [⟨0.75, 0⟩, ⟨0.5, 100⟩, ⟨0.25, 0⟩]).rampDownSpeed = 0.2 := by
  obtain ⟨hlo, hhi⟩ := designosaurs_encoderTicksPerInch_bounds
  have h100 : travel designosaurs 100 = 100 * designosaurs.encoderTicksPerInch := by
    rw [travel, abs_of_nonneg] <;> push_cast <;> linarith
  have hnear : threeInches.Near ⟨0.5, 100⟩ := by
    rw [Near, h100, abs_le]
    constructor <;> norm_num [designosaurs] at * <;> linarith
  have hfar : ∀ y ∈ [(⟨0.25, 0⟩ : Sample ℝ)], ¬ threeInches.Near y := by
    norm_num [Near, travel, designosaurs]
  exact (((rampDown_locks threeInches _).1 ⟨0.5, 100⟩ [⟨0.25, 0⟩] (List.suffix_cons _ _) hnear
    hfar).2 ⟨0.75, 0⟩ _ (List.suffix_cons _ _) (List.suffix_refl _)).1

end Ramps

/-! ## The cap -/

/-- The clock of a run, from the reading before the loop on, never goes back. -/
def ClockAdvances (run : List (Sample K)) : Prop :=
  ∀ x past, x :: past <:+ run → d.lastTime past ≤ x.nowTime

/-- `x` is the first sample whose elapsed time is worth `maxSpeed` or more, and it is worth more. -/
def Overshoots (x : Sample K) (past : List (Sample K)) : Prop :=
  (∀ y ∈ past, d.hw.accelPerSec * (y.nowTime - d.prevTime) < d.maxSpeed)
    ∧ d.maxSpeed < d.hw.accelPerSec * (x.nowTime - d.prevTime)

/-- At `x` the ramp down allows no more than `maxSpeed`: a sample before was near, or the distance
that is left is at most ten `maxSpeed`s. -/
def HeldBack (x : Sample K) (past : List (Sample K)) : Prop :=
  d.hw.minSpeed ≤ d.maxSpeed
    ∧ ((∃ y ∈ past, d.Near y) ∨ |travel d.hw x.position - d.distance| / 10 ≤ d.maxSpeed)

variable [IsStrictOrderedRing K]

lemma rampDownSpeed_le_iff (x : Sample K) (past : List (Sample K)) :
    (d.after (x :: past)).rampDownSpeed ≤ d.maxSpeed
      ↔ d.HeldBack x past := by
  rw [rampDownSpeed_eq, HeldBack]
  split_ifs with hnear
  · exact ⟨fun h => ⟨h, Or.inl hnear⟩, fun h => h.1⟩
  · rw [max_le_iff]
    constructor
    · rintro ⟨hleft, hmin⟩
      exact ⟨hmin, Or.inr hleft⟩
    · rintro ⟨hmin, hor⟩
      exact ⟨hor.resolve_left hnear, hmin⟩

/-- One iteration stays under the cap exactly when it does not overshoot, or is held back. -/
lemma currentSpeed_cons_le_iff (hmax : 0 < d.maxSpeed) (x : Sample K) (past : List (Sample K)) :
    (d.after (x :: past)).currentSpeed ≤ d.maxSpeed
      ↔ (d.Overshoots x past → d.HeldBack x past) := by
  rw [currentSpeed_eq_min, min_le_iff, rampDownSpeed_le_iff, d.rampUpSpeed_eq hmax, Overshoots]
  split_ifs with hall
  · constructor
    · rintro (hup | hheld) ⟨_, hover⟩
      · exact absurd hover (not_lt.mpr hup)
      · exact hheld
    · intro h
      by_cases hover : d.maxSpeed < d.hw.accelPerSec * (x.nowTime - d.prevTime)
      · exact Or.inr (h ⟨hall, hover⟩)
      · exact Or.inl (not_lt.mp hover)
  · exact ⟨fun _ h => absurd h.1 hall, fun _ => Or.inl (le_refl _)⟩

/-- **When the speed cap holds.**  Every power of a run is at most `maxSpeed` exactly when the
iteration that overshoots, if the run has one, is held back by the ramp down. -/
theorem currentSpeed_le_maxSpeed_iff (hmax : 0 < d.maxSpeed) (run : List (Sample K)) :
    (∀ x past, x :: past <:+ run →
        (d.after (x :: past)).currentSpeed ≤ d.maxSpeed)
      ↔ ∀ x past, x :: past <:+ run →
          d.Overshoots x past → d.HeldBack x past := by
  constructor
  · intro h x past hx
    exact (d.currentSpeed_cons_le_iff hmax x past).mp (h x past hx)
  · intro h x past hx
    exact (d.currentSpeed_cons_le_iff hmax x past).mpr (h x past hx)

/-- An iteration period is enough: with readings at 0.49 s and 0.51 s a move at `maxSpeed` 0.4 is
commanded 0.408. -/
theorem currentSpeed_exceeds_maxSpeed :
    ¬ ∀ (d : DriveLoop ℝ) (run : List (Sample ℝ)), 0 < d.maxSpeed → d.ClockAdvances run →
      ∀ x past, x :: past <:+ run → (d.after (x :: past)).currentSpeed ≤ d.maxSpeed := by
  intro h
  have hclock : (⟨designosaurs, 0.4, 24, 0⟩ : DriveLoop ℝ).ClockAdvances
      [⟨0.51, 0⟩, ⟨0.49, 0⟩] := by
    simp only [ClockAdvances, forall_suffix_cons, forall_suffix_nil, lastTime]
    norm_num
  have hle := h ⟨designosaurs, 0.4, 24, 0⟩ [⟨0.51, 0⟩, ⟨0.49, 0⟩] (by norm_num) hclock ⟨0.51, 0⟩
    [⟨0.49, 0⟩] (List.suffix_refl _)
  rw [currentSpeed_eq_min, rampUpSpeed_eq _ (by norm_num), rampDownSpeed_eq] at hle
  norm_num [travel, Near, designosaurs] at hle

/-- A move of three inches is held back by its ramp down, however long the first iteration is. -/
theorem currentSpeed_le_maxSpeed_short_move :
    (0 : ℝ) < 0.4 ∧ ∀ x past, x :: past <:+ [(⟨1, 0⟩ : Sample ℝ)] →
      ((⟨designosaurs, 0.4, 3, 0⟩ : DriveLoop ℝ).after (x :: past)).currentSpeed ≤ 0.4 := by
  have hmax : (0 : ℝ) < 0.4 := by norm_num
  refine ⟨hmax, (currentSpeed_le_maxSpeed_iff ⟨designosaurs, 0.4, 3, 0⟩ hmax _).mpr ?_⟩
  rw [forall_suffix_cons]
  refine ⟨fun _ => ⟨?_, Or.inr ?_⟩, fun x past hx => absurd hx (by simp)⟩
  · norm_num [designosaurs]
  · norm_num [travel]

/-! ## On a clock that never goes back -/

section Advancing

variable {d}

lemma rampUpSpeed_le_add {x : Sample K} {past : List (Sample K)}
    (hclock : d.lastTime past ≤ x.nowTime) :
    (d.after (x :: past)).rampUpSpeed
      ≤ (d.after past).rampUpSpeed + d.hw.accelPerSec * (x.nowTime - d.lastTime past) := by
  rw [rampUpSpeed_cons]
  have hgain : 0 ≤ d.hw.accelPerSec * (x.nowTime - d.lastTime past) :=
    mul_nonneg d.hw.accelPerSec_pos.le (by linarith)
  split_ifs with hlt
  · linarith
  · linarith [not_lt.mp hlt]

/-- The ramp up falls only by being clamped. -/
lemma rampUpSpeed_mono_or_clamped {x : Sample K} {past : List (Sample K)}
    (hclock : d.lastTime past ≤ x.nowTime) :
    (d.after (x :: past)).rampUpSpeed = d.maxSpeed
      ∨ (d.after past).rampUpSpeed ≤ (d.after (x :: past)).rampUpSpeed := by
  rw [rampUpSpeed_cons]
  split_ifs with hlt
  · right
    have hgain : 0 ≤ (x.nowTime - d.lastTime past) * d.hw.accelPerSec :=
      mul_nonneg (by linarith) d.hw.accelPerSec_pos.le
    linarith
  · exact Or.inl rfl

/-- The ramp up stays on its side of zero. -/
lemma min_le_rampUpSpeed {run : List (Sample K)} (hclock : d.ClockAdvances run) :
    min 0 d.maxSpeed ≤ (d.after run).rampUpSpeed := by
  induction run with
  | nil => exact min_le_left _ _
  | cons x past ih =>
      obtain ⟨hx, hpast⟩ := forall_suffix_cons.mp hclock
      rcases rampUpSpeed_mono_or_clamped hx with hclamped | hmono
      · exact hclamped ▸ min_le_right _ _
      · exact (ih hpast).trans hmono

/-- **A power that is on stays on.** -/
lemma currentSpeed_ne_zero {x : Sample K} {past : List (Sample K)}
    (hclock : d.ClockAdvances (x :: past)) (hpast : (d.after past).currentSpeed ≠ 0) :
    (d.after (x :: past)).currentSpeed ≠ 0 := by
  have hmax : d.maxSpeed ≠ 0 := fun hzero => hpast (d.currentSpeed_zero hzero past)
  rw [Ne, currentSpeed_eq_zero_iff] at hpast ⊢
  obtain ⟨hx, hearlier⟩ := forall_suffix_cons.mp hclock
  rw [rampUpSpeed_cons]
  split_ifs with hlt
  · -- below `maxSpeed` the ramp up is at least zero, and it gains
    have hside := min_le_rampUpSpeed hearlier
    have hnonneg : 0 ≤ (d.after past).rampUpSpeed := by
      rcases min_choice 0 d.maxSpeed with h | h
      · rwa [h] at hside
      · exact absurd hlt (not_lt.mpr (h ▸ hside))
    have hgain : 0 ≤ (x.nowTime - d.lastTime past) * d.hw.accelPerSec :=
      mul_nonneg (sub_nonneg.mpr hx) d.hw.accelPerSec_pos.le
    exact (add_pos_of_pos_of_nonneg (hnonneg.lt_of_ne' hpast) hgain).ne'
  · exact hmax

lemma currentSpeed_nonneg (hmax : 0 ≤ d.maxSpeed) {run : List (Sample K)}
    (hclock : d.ClockAdvances run) : 0 ≤ (d.after run).currentSpeed := by
  have hup : 0 ≤ (d.after run).rampUpSpeed := by
    rw [← min_eq_left hmax]
    exact min_le_rampUpSpeed hclock
  cases run with
  | nil => exact le_rfl
  | cons x past =>
      rw [currentSpeed_eq_min]
      exact le_min hup (d.hw.minSpeed_pos.le.trans (d.minSpeed_le_rampDownSpeed x past))

/-- **The cap leaks by one gain at most.** -/
lemma currentSpeed_le_maxSpeed_add {x : Sample K} {past : List (Sample K)} {gain : K}
    (hclock : d.lastTime past ≤ x.nowTime)
    (hgain : (x.nowTime - d.lastTime past) * d.hw.accelPerSec ≤ gain) :
    (d.after (x :: past)).currentSpeed ≤ d.maxSpeed + gain := by
  have hgain0 : 0 ≤ (x.nowTime - d.lastTime past) * d.hw.accelPerSec :=
    mul_nonneg (sub_nonneg.mpr hclock) d.hw.accelPerSec_pos.le
  rw [currentSpeed_eq_min, rampUpSpeed_cons]
  refine (min_le_left _ _).trans ?_
  split_ifs with hlt <;> linarith

end Advancing

/-! ## The profile -/

/-- The travel of the front-right wheel never decreases. -/
def TravelAdvances (run : List (Sample K)) : Prop :=
  ∀ x past, x :: past <:+ run → ∀ y ∈ past.head?, travel d.hw y.position ≤ travel d.hw x.position

/-- While the ramp-down latch is open the wheel has not gone past the distance. -/
def ShortOfDistance (run : List (Sample K)) : Prop :=
  ∀ x past, x :: past <:+ run →
    (d.after (x :: past)).rampDownLock = false → travel d.hw x.position ≤ d.distance

/-- The power can only fall from here: the ramp-up speed is at `maxSpeed` for good, or it is
above the ramp-down speed. -/
def Descending (run : List (Sample K)) : Prop :=
  (d.after run).rampUpSpeed = d.maxSpeed
    ∨ (d.after run).rampDownSpeed < (d.after run).rampUpSpeed

variable {d}

/-- **The ramp down never rises** on a run that approaches its distance. -/
theorem rampDownSpeed_antitone {run : List (Sample K)} (htravel : d.TravelAdvances run)
    (hshort : d.ShortOfDistance run) {x y : Sample K}
    {past : List (Sample K)} (hrun : x :: y :: past <:+ run) :
    (d.after (x :: y :: past)).rampDownSpeed
      ≤ (d.after (y :: past)).rampDownSpeed := by
  have hmin := d.minSpeed_le_rampDownSpeed y past
  rw [d.rampDownSpeed_eq x (y :: past)]
  split_ifs with hnear
  · exact hmin
  · -- the latch was open at `y`, so `y` is short of the distance and shows what is left of it
    have hopen : (d.after (y :: past)).rampDownLock = false := by
      rw [Bool.eq_false_iff, Ne, rampDownLock_iff]
      exact hnear
    have hy := hshort y past ((List.suffix_cons x _).trans hrun) hopen
    have hpast : ¬ ∃ z ∈ past, d.Near z :=
      fun ⟨z, hz, hz'⟩ => hnear ⟨z, List.mem_cons_of_mem y hz, hz'⟩
    refine max_le ?_ hmin
    by_cases hx : d.Near x
    · refine le_trans ?_ hmin
      rw [div_le_iff₀ (by norm_num : (0 : K) < 10), mul_comm]
      exact hx
    · have hx' := hshort x (y :: past) hrun (by
        rw [Bool.eq_false_iff, Ne, rampDownLock_iff, List.exists_mem_cons_iff, not_or]
        exact ⟨hx, hnear⟩)
      have hmove := htravel x (y :: past) hrun y rfl
      rw [d.rampDownSpeed_eq y past, if_neg hpast, abs_of_nonpos (by linarith),
        abs_of_nonpos (by linarith)]
      exact le_max_of_le_left (by linarith)

/-- A power that has just fallen leaves the run descending. -/
lemma descending_of_fall {x : Sample K} {past : List (Sample K)}
    (hclock : d.lastTime past ≤ x.nowTime)
    (hfall : (d.after (x :: past)).currentSpeed < (d.after past).currentSpeed) :
    d.Descending (x :: past) := by
  rcases rampUpSpeed_mono_or_clamped hclock with hclamped | hmono
  · exact Or.inl hclamped
  · -- the ramp up has not fallen, so it was the ramp down that pulled the minimum down
    right
    rw [currentSpeed_eq_min, d.currentSpeed_eq_min past] at hfall
    have hup : min (d.after past).rampUpSpeed (d.after past).rampDownSpeed
        ≤ (d.after (x :: past)).rampUpSpeed :=
      (min_le_left _ _).trans hmono
    rcases min_lt_iff.mp (hfall.trans_le hup) with h | h
    · exact absurd h (lt_irrefl _)
    · exact h

/-- **One iteration of a descending run**: the power does not rise, and the run stays descending. -/
theorem descending_step {run : List (Sample K)} (hclock : d.ClockAdvances run)
    (htravel : d.TravelAdvances run) (hshort : d.ShortOfDistance run)
    {x y : Sample K} {past : List (Sample K)} (hrun : x :: y :: past <:+ run)
    (hdesc : d.Descending (y :: past)) :
    d.Descending (x :: y :: past)
      ∧ (d.after (x :: y :: past)).currentSpeed
        ≤ (d.after (y :: past)).currentSpeed := by
  have hdown := rampDownSpeed_antitone htravel hshort hrun
  have hx := hclock x (y :: past) hrun
  rw [currentSpeed_eq_min, d.currentSpeed_eq_min (y :: past)]
  rcases hdesc with hflat | habove
  · -- at `maxSpeed` the clamp is taken again
    have hflat' : (d.after (x :: y :: past)).rampUpSpeed = d.maxSpeed := by
      rw [rampUpSpeed_cons, hflat, if_neg (lt_irrefl d.maxSpeed)]
    refine ⟨Or.inl hflat', ?_⟩
    rw [hflat, hflat']
    exact min_le_min_left d.maxSpeed hdown
  · constructor
    · rcases rampUpSpeed_mono_or_clamped hx with hclamped | hmono
      · exact Or.inl hclamped
      · exact Or.inr (hdown.trans_lt (habove.trans_le hmono))
    · rw [min_eq_right habove.le]
      exact (min_le_right _ _).trans hdown

/-- From a fall on, every iteration is descending. -/
lemma descending_after_fall {run : List (Sample K)} (hclock : d.ClockAdvances run)
    (htravel : d.TravelAdvances run) (hshort : d.ShortOfDistance run)
    {x : Sample K} {early : List (Sample K)}
    (hfall : (d.after (x :: early)).currentSpeed < (d.after early).currentSpeed) :
    ∀ late : List (Sample K), x :: early <:+ late → late <:+ run →
      d.Descending late := by
  intro late
  induction late with
  | nil => intro hearly; exact absurd hearly (by simp)
  | cons z later ih =>
      intro hearly hrun
      rcases List.suffix_cons_iff.mp hearly with heq | hearly
      · obtain ⟨rfl, rfl⟩ := List.cons.inj heq
        exact descending_of_fall (hclock x early hrun) hfall
      · have hlater := ih hearly ((List.suffix_cons z later).trans hrun)
        cases later with
        | nil => exact absurd hearly (by simp)
        | cons y past => exact (descending_step hclock htravel hshort hrun hlater).1

/-- The power rises no faster than `accelPerSec`. -/
lemma currentSpeed_sub_le {run : List (Sample K)} (hclock : d.ClockAdvances run)
    (htravel : d.TravelAdvances run) (hshort : d.ShortOfDistance run) {x : Sample K}
    {past : List (Sample K)} (hrun : x :: past <:+ run) :
    (d.after (x :: past)).currentSpeed - (d.after past).currentSpeed
      ≤ d.hw.accelPerSec * (x.nowTime - d.lastTime past) := by
  have hx := hclock x past hrun
  have hgain : 0 ≤ d.hw.accelPerSec * (x.nowTime - d.lastTime past) :=
    mul_nonneg d.hw.accelPerSec_pos.le (by linarith)
  have hup := rampUpSpeed_le_add hx
  have hle := d.currentSpeed_eq_min (x :: past)
  cases past with
  | nil =>
      have hmin := min_le_left (d.after [x]).rampUpSpeed
        (d.after [x]).rampDownSpeed
      have h0 : (d.after []).rampUpSpeed
          = (d.after []).currentSpeed := rfl
      linarith
  | cons y earlier =>
      -- the minimum before was one of the two ramps, and neither rises faster
      have hdown := rampDownSpeed_antitone htravel hshort hrun
      rcases min_choice (d.after (y :: earlier)).rampUpSpeed
        (d.after (y :: earlier)).rampDownSpeed with h | h
      · rw [hle, d.currentSpeed_eq_min (y :: earlier), h]
        linarith [min_le_left (d.after (x :: y :: earlier)).rampUpSpeed
          (d.after (x :: y :: earlier)).rampDownSpeed]
      · rw [hle, d.currentSpeed_eq_min (y :: earlier), h]
        linarith [min_le_right (d.after (x :: y :: earlier)).rampUpSpeed
          (d.after (x :: y :: earlier)).rampDownSpeed]

/-- Once the power has fallen it does not rise. -/
lemma currentSpeed_le_after_fall {run : List (Sample K)} (hclock : d.ClockAdvances run)
    (htravel : d.TravelAdvances run) (hshort : d.ShortOfDistance run) {x y : Sample K}
    {early late : List (Sample K)} (hearly : x :: early <:+ late) (hrun : y :: late <:+ run)
    (hfall : (d.after (x :: early)).currentSpeed < (d.after early).currentSpeed) :
    (d.after (y :: late)).currentSpeed ≤ (d.after late).currentSpeed := by
  have hdesc := descending_after_fall hclock htravel hshort hfall late hearly
    ((List.suffix_cons y late).trans hrun)
  cases late with
  | nil => exact absurd hearly (by simp)
  | cons z past => exact (descending_step hclock htravel hshort hrun hdesc).2

/-- For the first thirty ticks of a move of three inches more than two inches are left. -/
lemma threeInches_left {n : ℤ} (hn : 0 ≤ n) (hle : n ≤ 30) :
    |travel threeInches.hw n - 3| = 3 - travel threeInches.hw n
      ∧ 2 < 3 - travel threeInches.hw n
      ∧ travel threeInches.hw n = n * designosaurs.encoderTicksPerInch := by
  obtain ⟨hlo, hhi⟩ := designosaurs_encoderTicksPerInch_bounds
  have hcast : (n : ℝ) ≤ 30 := by exact_mod_cast hle
  have htravel : travel threeInches.hw n = n * designosaurs.encoderTicksPerInch :=
    abs_of_nonneg (mul_nonneg (Int.cast_nonneg hn) (by linarith))
  have hshort : 2 < 3 - travel threeInches.hw n := by
    rw [htravel]
    nlinarith
  rw [abs_sub_comm]
  exact ⟨abs_of_nonneg (by linarith), hshort, htravel⟩

lemma threeInches_far {n : ℤ} (t : ℝ) (hn : 0 ≤ n) (hle : n ≤ 30) :
    ¬ threeInches.Near ⟨t, n⟩ := by
  obtain ⟨heq, hshort, -⟩ := threeInches_left hn hle
  have hmin : 10 * threeInches.hw.minSpeed = 2 := by norm_num [designosaurs]
  rw [Near, show threeInches.distance = 3 from rfl, heq, hmin, not_le]
  exact hshort

/-- So the ramp down shows what is left. -/
lemma threeInches_rampDownSpeed {n : ℤ} (t : ℝ) {past : List (Sample ℝ)} (hn : 0 ≤ n)
    (hle : n ≤ 30) (hpast : ¬ ∃ y ∈ past, threeInches.Near y) :
    (threeInches.after (⟨t, n⟩ :: past)).rampDownSpeed
      = (3 - n * designosaurs.encoderTicksPerInch) / 10 := by
  obtain ⟨heq, hshort, htravel⟩ := threeInches_left hn hle
  have hmin : threeInches.hw.minSpeed = 2 / 10 := by norm_num [designosaurs]
  rw [rampDownSpeed_eq, if_neg hpast, show threeInches.distance = 3 from rfl, heq, hmin, ← htravel,
    max_eq_left]
  linarith

lemma threeInches_falls :
    (threeInches.after [⟨0.6, 20⟩, ⟨0.5, 10⟩, ⟨0.25, 0⟩]).currentSpeed
      < (threeInches.after [⟨0.5, 10⟩, ⟨0.25, 0⟩]).currentSpeed := by
  obtain ⟨hlo, hhi⟩ := designosaurs_encoderTicksPerInch_bounds
  have hfar₀ := threeInches_far 0.25 (le_refl 0) (by norm_num)
  have hfar₁ := threeInches_far 0.5 (show (0 : ℤ) ≤ 10 by norm_num) (by norm_num)
  have hup : (threeInches.after [⟨0.5, 10⟩, ⟨0.25, 0⟩]).rampUpSpeed = 0.4 := by
    rw [rampUpSpeed_eq _ (by norm_num)]
    norm_num [designosaurs]
  calc (threeInches.after [⟨0.6, 20⟩, ⟨0.5, 10⟩, ⟨0.25, 0⟩]).currentSpeed
      ≤ (threeInches.after [⟨0.6, 20⟩, ⟨0.5, 10⟩, ⟨0.25, 0⟩]).rampDownSpeed :=
        (currentSpeed_eq_min _ _).trans_le (min_le_right _ _)
    _ = (3 - (20 : ℤ) * designosaurs.encoderTicksPerInch) / 10 :=
        threeInches_rampDownSpeed _ (by norm_num) (by norm_num) (by simp [hfar₀, hfar₁])
    _ < (threeInches.after [⟨0.5, 10⟩, ⟨0.25, 0⟩]).currentSpeed := by
        rw [currentSpeed_eq_min, hup,
          threeInches_rampDownSpeed _ (by norm_num) (by norm_num) (by simp [hfar₀])]
        push_cast
        exact lt_min (by linarith) (by linarith)

/-- **The trapezoidal profile.**  On a run whose clock and travel never go back and that does not
go past its distance while the latch is open, (a) the power rises no faster than `accelPerSec`,
and (b) once it has strictly decreased it never strictly increases again. -/
theorem currentSpeed_trapezoid (run : List (Sample K))
    (hclock : d.ClockAdvances run) (htravel : d.TravelAdvances run)
    (hshort : d.ShortOfDistance run) :
    (∀ x past, x :: past <:+ run →
      (d.after (x :: past)).currentSpeed - (d.after past).currentSpeed
        ≤ d.hw.accelPerSec * (x.nowTime - d.lastTime past))
    ∧ (∀ x early y late, x :: early <:+ late → y :: late <:+ run →
      (d.after (x :: early)).currentSpeed < (d.after early).currentSpeed →
      (d.after (y :: late)).currentSpeed ≤ (d.after late).currentSpeed) :=
  ⟨fun _ _ hrun => currentSpeed_sub_le hclock htravel hshort hrun,
    fun _ _ _ _ hearly hrun hfall =>
      currentSpeed_le_after_fall hclock htravel hshort hearly hrun hfall⟩

/-- The run over three inches rises, falls and goes on falling. -/
theorem currentSpeed_trapezoid_falling :
    (threeInches.after [⟨0.5, 10⟩, ⟨0.25, 0⟩]).currentSpeed
        - (threeInches.after [⟨0.25, 0⟩]).currentSpeed ≤ 0.2
      ∧ (threeInches.after [⟨0.6, 20⟩, ⟨0.5, 10⟩, ⟨0.25, 0⟩]).currentSpeed
        < (threeInches.after [⟨0.5, 10⟩, ⟨0.25, 0⟩]).currentSpeed
      ∧ (threeInches.after threeInchesRun).currentSpeed
        ≤ (threeInches.after [⟨0.6, 20⟩, ⟨0.5, 10⟩, ⟨0.25, 0⟩]).currentSpeed := by
  obtain ⟨hlo, hhi⟩ := designosaurs_encoderTicksPerInch_bounds
  have hclock : threeInches.ClockAdvances threeInchesRun := by
    simp only [ClockAdvances, threeInchesRun, forall_suffix_cons, forall_suffix_nil, lastTime]
    norm_num
  have hadvances : threeInches.TravelAdvances threeInchesRun := by
    have htravel : ∀ n : ℤ, 0 ≤ n → n ≤ 30 → travel threeInches.hw n = _ :=
      fun n hn hle => (threeInches_left hn hle).2.2
    simp only [TravelAdvances, threeInchesRun, forall_suffix_cons, forall_suffix_nil,
      List.head?_cons, List.head?_nil, Option.mem_def, Option.some.injEq, forall_eq']
    norm_num [htravel]
    exact ⟨by linarith, by linarith, by linarith, by simp⟩
  have hshort : threeInches.ShortOfDistance threeInchesRun := by
    have hle : ∀ n : ℤ, 0 ≤ n → n ≤ 30 → travel threeInches.hw n ≤ threeInches.distance :=
      fun n hn hle => by
        linarith [(threeInches_left hn hle).2.1, show threeInches.distance = 3 from rfl]
    simp only [ShortOfDistance, threeInchesRun, forall_suffix_cons, forall_suffix_nil]
    exact ⟨fun _ => hle 30 (by norm_num) (by norm_num), fun _ => hle 20 (by norm_num) (by norm_num),
      fun _ => hle 10 (by norm_num) (by norm_num), fun _ => hle 0 le_rfl (by norm_num), trivial⟩
  obtain ⟨hrise, hdescend⟩ := currentSpeed_trapezoid threeInchesRun hclock hadvances hshort
  refine ⟨(hrise _ _ (List.suffix_append [_, _] _)).trans ?_, threeInches_falls, ?_⟩
  · norm_num [designosaurs, lastTime]
  · exact hdescend _ _ _ _ (List.suffix_refl _) (List.suffix_refl _) threeInches_falls

end DriveLoop

end Designosaurs
