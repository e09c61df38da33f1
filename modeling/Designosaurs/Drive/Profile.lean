import Designosaurs.Drive.MoveRTP

/-!
# The powers of a call of `moveRTP`

`RampProfile` is about runs of samples.  Here its results become results about what `moveRTP` sends.
`wp_moveRTP_drove` says of every call, returned or cut, which samples it has taken, and that each
wheel was given the powers of these samples, one for one, and a zero after them if it has returned.

* `Drove.capped_iff` — when no power of a call is above `maxSpeed`.
* `Drove.positive` — on a clock that ticks every power before the stop is positive.
* `Drove.locked` — from a near sample on no power is above `minSpeed`.
* `Drove.rises` — the powers rise no faster than `accelPerSec`.
* `Drove.descends` — once they have fallen they do not rise again.
-/

namespace Designosaurs

open Interact

variable {K : Type} [Field K] [LinearOrder K]

namespace DriveLoop

variable (d : DriveLoop K)

/-- A property of all powers of a run is one of each of its iterations. -/
lemma forall_mem_commanded {P : K → Prop} {run : List (Sample K)} :
    (∀ power ∈ d.commanded run, P power)
      ↔ ∀ x past, x :: past <:+ run → P (d.after (x :: past)).currentSpeed := by
  induction run with
  | nil => simp [commanded]
  | cons x past ih =>
      rw [commanded, List.forall_mem_cons, ih,
        forall_suffix_cons (P := fun y earlier => P (d.after (y :: earlier)).currentSpeed)]

/-- The newest power of a run. -/
lemma commanded_headD (run : List (Sample K)) :
    (d.commanded run).headD 0 = (d.after run).currentSpeed := by
  cases run <;> rfl

/-- The powers since a part of a run. -/
lemma commanded_append (late early : List (Sample K)) :
    ∃ newer, d.commanded (late ++ early) = newer ++ d.commanded early
      ∧ ∀ power ∈ newer, ∃ x past, early <:+ past ∧ power = (d.after (x :: past)).currentSpeed := by
  induction late with
  | nil => exact ⟨[], rfl, by simp⟩
  | cons x past ih =>
      obtain ⟨newer, hnewer, hall⟩ := ih
      refine ⟨(d.after (x :: (past ++ early))).currentSpeed :: newer, ?_, ?_⟩
      · rw [List.cons_append, commanded, hnewer, List.cons_append]
      · exact List.forall_mem_cons.mpr ⟨⟨x, past ++ early, List.suffix_append _ _, rfl⟩, hall⟩

/-- The powers since a fall, newest first: each is at most the one before it. -/
lemma commanded_chain [IsStrictOrderedRing K] {run : List (Sample K)}
    (hclock : d.ClockAdvances run) (htravel : d.TravelAdvances run)
    (hshort : d.ShortOfDistance run) {x : Sample K} {early : List (Sample K)}
    (hfall : (d.after (x :: early)).currentSpeed < (d.after early).currentSpeed) :
    ∀ late, late ++ x :: early <:+ run →
      ∃ newer, d.commanded (late ++ x :: early)
          = (d.after (late ++ x :: early)).currentSpeed :: (newer ++ d.commanded early)
        ∧ ((d.after (late ++ x :: early)).currentSpeed :: newer).IsChain (· ≤ ·)
  | [], _ => ⟨[], rfl, .singleton _⟩
  | y :: late, hrun => by
      obtain ⟨newer, hnewer, hchain⟩ := commanded_chain hclock htravel hshort hfall late
        ((List.suffix_cons y _).trans hrun)
      refine ⟨(d.after (late ++ x :: early)).currentSpeed :: newer, ?_, .cons_cons ?_ hchain⟩
      · rw [List.cons_append, commanded, hnewer, List.cons_append]
      · exact currentSpeed_le_after_fall hclock htravel hshort (List.suffix_append late _) hrun
          hfall

end DriveLoop

/-! ## One call -/

section Call

variable {env : Environment (robot K)}

variable (env) in
/-- A call that began at `start` has come to `h`.  It has read the clock before its drive loop,
taken the samples `run` on the timer `time` in it, and given each wheel the powers of these and then
`stop`. -/
structure Drove (d : DriveLoop K) (time : ElapsedTime) (start : History (robot K))
    (run : List (Sample K)) (stop : List K) (h : History (robot K)) : Prop where
  entered : ∃ entry, start <:+ entry ∧ entry <:+ h ∧ samples time entry = samples time start
    ∧ ∃ t ∈ lastReading entry, d.prevTime = time.seconds t
  taken : samples time h = run ++ samples time start
  given : ∀ wheel, powers wheel h = stop ++ d.commanded run ++ powers wheel start
  stopped : ∀ power ∈ stop, power = 0
  clock : ClockRuns env → d.ClockAdvances run
  ticks : ClockTicks env → ∀ x ∈ run, d.prevTime < x.nowTime

variable {d : DriveLoop K} {time : ElapsedTime} {start h : History (robot K)}
  {run : List (Sample K)} {stop : List K}

/-- What takes no sample and gives no power. -/
lemma keeps_drove {α : Type} {p : RobotProgram K α}
    (hp : Emits (fun e => Unsampled e ∧ Unpowered e) p) :
    Keeps env (Drove env d time start run stop) p := by
  refine hp.keeps fun e h he hdrove => ?_
  obtain ⟨entry, hstart, hentry, hread⟩ := hdrove.entered
  refine ⟨⟨entry, hstart, hentry.trans (List.suffix_cons e h), hread⟩, ?_, fun wheel => ?_,
    hdrove.stopped, hdrove.clock, hdrove.ticks⟩
  · rw [he.1.samples_cons, hdrove.taken]
  · rw [he.2 wheel, hdrove.given]

/-- The end of a call gives every wheel one more power, zero. -/
lemma wp_settleAndStop_drove (fuel : ℕ) (hdrove : Drove env d time start run [] h) :
    wp env (settleAndStop fuel) (fun _ => Drove env d time start run [0])
      (Drove env d time start run []) h := by
  refine wp_seq (keeps_drove (by simp [ElapsedTime.reset]) h hdrove) fun timer h₁ hdrove₁ => ?_
  refine wp_seq (keeps_drove ((emits_settle timer fuel).mono fun _ he =>
    ⟨he.unsampled, he.passive.unpowered⟩) h₁ hdrove₁) fun _ h₂ hdrove₂ => ?_
  simp only [setPowers, restoreDirections, wp_bind, wp_command, wp_done, wp_pure]
  obtain ⟨entry, hstart, hentry, hread⟩ := hdrove₂.entered
  refine ⟨⟨entry, hstart, ?_, hread⟩, hdrove₂.taken, fun wheel => ?_, by simp, hdrove₂.clock,
    hdrove₂.ticks⟩
  · exact hentry.trans (List.suffix_append [_, _, _, _, _, _, _, _] _)
  · have hgiven := hdrove₂.given wheel
    cases wheel <;> simp [powers, hgiven]

variable [IsStrictOrderedRing K] [FloorRing K] {hw : HardwareDesignosaurs K}
  {direction : StringRef} {maxSpeed distance : K}

/-- **What a call commands**, whether it returns or is cut. -/
theorem wp_moveRTP_drove (fuel : ℕ) :
    wp env (moveRTP hw fuel direction maxSpeed distance)
      (fun _ h' => ∃ time prevTime run,
        Drove env ⟨hw, maxSpeed, distance, prevTime⟩ time start run [0] h')
      (fun h' => ∃ time prevTime run,
        Drove env ⟨hw, maxSpeed, distance, prevTime⟩ time start run [] h') start := by
  have hprepare : Keeps env (fun h => (∀ time, samples time h = samples time start)
      ∧ ∀ wheel, powers wheel h = powers wheel start) (prepare hw direction distance) := by
    refine Emits.keeps (φ := fun e => Unsampled e ∧ Unpowered e) ?_ fun e h he hh => ⟨?_, ?_⟩
    · exact emits_prepare (fun _ he => ⟨he.unsampled, he.passive.unpowered⟩) (by simp) (by simp) hw
        direction distance
    · exact fun time => (he.1.samples_cons time h).trans (hh.1 time)
    · exact fun wheel => (he.2 wheel h).trans (hh.2 wheel)
  have hentry := wp_conj (wp_prepare_returns env hw direction distance start)
    (wp_conj (wp_suffix env _ start) (wp_conj (wp_prepare_read env hw direction distance start)
      (hprepare start ⟨fun _ => rfl, fun _ => rfl⟩)))
  refine wp_seq (wp_mono (fun _ _ => And.right) (fun _ hcut => hcut.1.elim) hentry) ?_
  rintro ⟨time, prevTime⟩ entry ⟨hstart, hread, htaken, hgiven⟩
  have hdrove : ∀ {run s h'}, entry <:+ h' →
      Driven env ⟨hw, maxSpeed, distance, prevTime⟩ time entry run s h' →
      Drove env ⟨hw, maxSpeed, distance, prevTime⟩ time start run [] h' := by
    intro run s h' hsuffix hdriven
    refine ⟨⟨entry, hstart, hsuffix, htaken time, hread⟩, ?_, fun wheel => ?_, by simp,
      hdriven.clock, hdriven.ticks⟩
    · rw [hdriven.taken, htaken]
    · rw [hdriven.given, hgiven, List.nil_append]
  refine wp_seq (wp_mono (fun _ _ => id) ?_
    (wp_conj (wp_driveLoop fuel hread) (wp_suffix env _ entry))) ?_
  · rintro h' ⟨⟨run, s, hdriven⟩, hsuffix⟩
    exact ⟨time, prevTime, run, hdrove hsuffix hdriven⟩
  · rintro s h' ⟨⟨run, hdriven⟩, hsuffix⟩
    exact wp_mono (fun _ _ hh => ⟨time, prevTime, run, hh⟩) (fun _ hh => ⟨time, prevTime, run, hh⟩)
      (wp_settleAndStop_drove fuel (hdrove hsuffix hdriven))

end Call

/-! ## What that is worth -/

section Powers

variable {env : Environment (robot K)} {d : DriveLoop K} {time : ElapsedTime}
  {start h : History (robot K)} {run : List (Sample K)} {stop given : List K} {wheel : Wheel}
  (hdrove : Drove env d time start run stop h)
include hdrove

/-- Each sample has its place in the powers of a wheel. -/
lemma Drove.powers_since {past : List (Sample K)} (hpast : past <:+ run) (wheel : Wheel) :
    ∃ newer, powers wheel h = newer ++ (d.commanded past ++ powers wheel start)
      ∧ ∀ power ∈ newer, power = 0
        ∨ ∃ x late, past <:+ late ∧ power = (d.after (x :: late)).currentSpeed := by
  obtain ⟨late, rfl⟩ := hpast
  obtain ⟨newer, hnewer, hall⟩ := d.commanded_append late past
  refine ⟨stop ++ newer, ?_, ?_⟩
  · rw [hdrove.given, hnewer, List.append_assoc, List.append_assoc, List.append_assoc]
  · rw [List.forall_mem_append]
    exact ⟨fun power hpower => .inl (hdrove.stopped power hpower), fun power hpower =>
      .inr (hall power hpower)⟩

variable [IsStrictOrderedRing K]

/-- **When the cap holds.**  No power of the call is above `maxSpeed` if and only if the iteration
that overshoots, if there was one, was held back. -/
theorem Drove.capped_iff (hmax : 0 < d.maxSpeed)
    (hgiven : powers wheel h = given ++ powers wheel start) :
    (∀ power ∈ given, power ≤ d.maxSpeed)
      ↔ ∀ x past, x :: past <:+ run → d.Overshoots x past → d.HeldBack x past := by
  obtain rfl : given = stop ++ d.commanded run :=
    List.append_cancel_right (hgiven.symm.trans (hdrove.given wheel))
  have hstop : ∀ power ∈ stop, power ≤ d.maxSpeed := fun power hpower =>
    (hdrove.stopped power hpower).trans_le hmax.le
  rw [List.forall_mem_append, d.forall_mem_commanded, and_iff_right hstop]
  exact forall₃_congr fun x past _ => d.currentSpeed_cons_le_iff hmax x past

/-- **No power before the stop is zero**, on a clock that ticks. -/
theorem Drove.positive (hticks : ClockTicks env) (hmax : 0 < d.maxSpeed)
    (hgiven : powers wheel h = stop ++ given ++ powers wheel start) :
    ∀ power ∈ given, 0 < power := by
  obtain rfl : given = d.commanded run :=
    List.append_cancel_left (List.append_cancel_right (hgiven.symm.trans (hdrove.given wheel)))
  rw [d.forall_mem_commanded]
  exact fun x past hx =>
    d.currentSpeed_pos hmax x past (hdrove.ticks hticks x (hx.subset List.mem_cons_self))

/-- **A near sample locks the powers.**  From it on none is above `minSpeed`, whatever is read. -/
theorem Drove.locked {m : Sample K} {early : List (Sample K)} (hm : m :: early <:+ run)
    (hnear : d.Near m) (wheel : Wheel) :
    ∃ newer, powers wheel h = newer ++ (d.commanded (m :: early) ++ powers wheel start)
      ∧ (d.after (m :: early)).currentSpeed ≤ d.hw.minSpeed
      ∧ ∀ power ∈ newer, power ≤ d.hw.minSpeed := by
  have hlocked : ∀ x past, (∃ y ∈ x :: past, d.Near y) →
      (d.after (x :: past)).currentSpeed ≤ d.hw.minSpeed := by
    intro x past hpast
    rw [d.currentSpeed_eq_min, d.rampDownSpeed_eq_minSpeed hpast]
    exact min_le_right _ _
  obtain ⟨newer, hnewer, hall⟩ := hdrove.powers_since hm wheel
  refine ⟨newer, hnewer, hlocked m early ⟨m, List.mem_cons_self, hnear⟩, fun power hpower => ?_⟩
  rcases hall power hpower with rfl | ⟨x, late, hlate, rfl⟩
  · exact d.hw.minSpeed_pos.le
  · exact hlocked x late ⟨m, List.mem_cons_of_mem x (hlate.subset List.mem_cons_self), hnear⟩

variable (hclock : ClockRuns env) (htravel : d.TravelAdvances run)
  (hshort : d.ShortOfDistance run)
include hclock htravel hshort

/-- **The powers rise no faster than `accelPerSec`**, on a clock that never goes back and a wheel
that approaches its distance. -/
theorem Drove.rises {x : Sample K} {past : List (Sample K)} (hx : x :: past <:+ run)
    (wheel : Wheel) :
    ∃ newer power, powers wheel h = newer ++ power :: (d.commanded past ++ powers wheel start)
      ∧ power ≤ (d.commanded past).headD 0 + d.hw.accelPerSec * (x.nowTime - d.lastTime past) := by
  obtain ⟨newer, hnewer, -⟩ := hdrove.powers_since hx wheel
  refine ⟨newer, (d.after (x :: past)).currentSpeed, hnewer, ?_⟩
  rw [d.commanded_headD, ← sub_le_iff_le_add']
  exact DriveLoop.currentSpeed_sub_le (hdrove.clock hclock) htravel hshort hx

/-- **Once the powers have fallen they do not rise again**: since the fall each is at most the one
before it. -/
theorem Drove.descends {x : Sample K} {early : List (Sample K)} (hx : x :: early <:+ run)
    (hfall : (d.after (x :: early)).currentSpeed < (d.after early).currentSpeed) (wheel : Wheel) :
    ∃ newer, powers wheel h = stop ++ newer ++ d.commanded early ++ powers wheel start
      ∧ newer.IsChain (· ≤ ·) := by
  obtain ⟨late, rfl⟩ := hx
  obtain ⟨newer, hnewer, hchain⟩ := d.commanded_chain (hdrove.clock hclock) htravel hshort hfall
    late (List.suffix_refl _)
  refine ⟨_, ?_, hchain⟩
  rw [hdrove.given, hnewer, ← List.cons_append, ← List.append_assoc]

end Powers

end Designosaurs
