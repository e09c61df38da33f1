import Designosaurs.Drive.RampProfile
import Designosaurs.Drive.Targets
import Designosaurs.Robot.TimedWait

/-!
# `moveRTP`

The whole function, cut where the Java has its comments: reset the encoders, set the targets from
the direction, drive until a motor is in position, let the PIDs settle, stop, and restore the motor
directions.

`samples` reads off a history what drive loops have read: a clock reading and the answer of the
front-right encoder right after it, one pair for each iteration.  `wp_driveLoop` connects the drive
loop to `DriveLoop.after`: at the head of every iteration, and when it ends, the local variables are
those that the samples since its start lead to, and the powers each wheel was given are, one for
one, the `currentSpeed`s of these samples.  What `RampProfile` proves of runs of samples is thereby
proved of `moveRTP`.
-/

namespace Designosaurs

open Interact

variable {K : Type}

section Source

variable [Field K] [LinearOrder K]

/-- The four `setMode` calls at the top. -/
def resetEncoders : RobotProgram K Unit := do
  setMode (.drive .frontRight) .STOP_AND_RESET_ENCODER
  setMode (.drive .frontLeft) .STOP_AND_RESET_ENCODER
  setMode (.drive .backRight) .STOP_AND_RESET_ENCODER
  setMode (.drive .backLeft) .STOP_AND_RESET_ENCODER

/-- The `if` chain on the direction.  Its last branch reports the invalid input and nothing else:
control goes on below. -/
def setTargets [FloorRing K] (hw : HardwareDesignosaurs K) (direction : StringRef) (distance : K) :
    RobotProgram K Unit :=
  match Heading.ofString direction with
  | some heading => do
      setTargetPos (.drive .frontLeft) (wheelDistance hw (encDist hw distance) heading .frontLeft)
      setTargetPos (.drive .frontRight) (wheelDistance hw (encDist hw distance) heading .frontRight)
      setTargetPos (.drive .backLeft) (wheelDistance hw (encDist hw distance) heading .backLeft)
      setTargetPos (.drive .backRight) (wheelDistance hw (encDist hw distance) heading .backRight)
  | none => do
      addData "failure" (.text "invalid input")
      updateTelemetry

/-- The busy test of the drive loop, asked motor by motor. -/
def busyCheck : RobotProgram K Bool :=
  (((isBusy (.drive .frontRight)).and (isBusy (.drive .frontLeft))).and
    (isBusy (.drive .backRight))).and (isBusy (.drive .backLeft))

/-- The condition of the drive loop. -/
def driveGuard : RobotProgram K Bool := busyCheck.and opModeIsActive

/-- The debug lines at the end of the drive loop's body. -/
def showDrive (s : RampState K) : RobotProgram K Unit := do
  addData "fr" (.count (← getCurrentPosition (.drive .frontRight)))
  addData "fl" (.count (← getCurrentPosition (.drive .frontLeft)))
  addData "br" (.count (← getCurrentPosition (.drive .backRight)))
  addData "bl" (.count (← getCurrentPosition (.drive .backLeft)))
  addData "loop ps" (.rate s.deltaTime)
  addData "ramp up speed" (.number s.rampUpSpeed)
  addData "ramp down speed" (.number s.rampDownSpeed)
  addData "target speed" (.number s.currentSpeed)
  updateTelemetry

/-- The body of the drive loop. -/
def driveBody (d : DriveLoop K) (time : ElapsedTime) (s : RampState K) :
    RobotProgram K (RampState K) := do
  let nowTime ← time.time
  let position ← getCurrentPosition (.drive .frontRight)
  let s' := d.rampStep s ⟨nowTime, position⟩
  setPowers s'.currentSpeed
  showDrive s'
  return s'

/-- The drive loop. -/
def driveLoop (d : DriveLoop K) (time : ElapsedTime) (fuel : ℕ) : RobotProgram K (RampState K) :=
  Program.whileLoop driveGuard (driveBody d time) fuel (.start d.prevTime)

/-- The wait for the PIDs to settle. -/
def settle (time : ElapsedTime) (fuel : ℕ) : RobotProgram K Unit :=
  waitWhile (time.timeIn .MILLISECONDS) 500
    (showReading "time until quit" do return 500 - (← time.timeIn .MILLISECONDS)) fuel

/-- The four `setDirection` calls at the end. -/
def restoreDirections : RobotProgram K Unit := do
  setDirection (.drive .frontRight) .REVERSE
  setDirection (.drive .frontLeft) .FORWARD
  setDirection (.drive .backRight) .REVERSE
  setDirection (.drive .backLeft) .FORWARD

/-- `moveRTP` up to its drive loop: the reset timer, and what it shows at once. -/
def prepare [FloorRing K] (hw : HardwareDesignosaurs K) (direction : StringRef) (distance : K) :
    RobotProgram K (ElapsedTime × K) := do
  resetEncoders
  setTargets hw direction distance
  let time ← ElapsedTime.reset
  let prevTime ← time.time
  return (time, prevTime)

/-- `moveRTP` after its drive loop. -/
def settleAndStop (fuel : ℕ) : RobotProgram K ElapsedTime := do
  let time ← ElapsedTime.reset
  settle time fuel
  setPowers 0
  restoreDirections
  return time

/-- `moveRTP`.  It returns the timer, which it has reset twice; `fuel` bounds each of its loops. -/
def moveRTP [FloorRing K] (hw : HardwareDesignosaurs K) (fuel : ℕ) (direction : StringRef)
    (maxSpeed distance : K) : RobotProgram K ElapsedTime := do
  let (time, prevTime) ← prepare hw direction distance
  let _ ← driveLoop ⟨hw, maxSpeed, distance, prevTime⟩ time fuel
  settleAndStop fuel

end Source

/-! ## What the drive loop reads -/

/-- An event that is no reading of the front-right encoder. -/
def Unsampled (e : Event (robot K)) : Prop :=
  ∀ position, e ≠ .answer (.getCurrentPosition (.drive .frontRight)) position

@[simp] lemma unsampled_command (c : Command K) : Unsampled (.command c : Event (robot K)) :=
  fun _ heq => by cases heq

@[simp] lemma unsampled_answer {q : Query} (hq : q ≠ .getCurrentPosition (.drive .frontRight))
    (a : Query.Answer K q) : Unsampled (.answer q a : Event (robot K)) :=
  fun _ heq => hq (by cases heq; rfl)

lemma Waiting.unsampled {e : Event (robot K)} (he : Waiting e) : Unsampled e := by
  rintro position rfl
  exact he

/-- The samples of the drive loops in a history, newest first, on the timer `time`: a reading of the
clock, and the answer of the front-right encoder right after it. -/
def samples [Field K] (time : ElapsedTime) : History (robot K) → List (Sample K)
  | .answer (.getCurrentPosition (.drive .frontRight)) position :: .answer .nsNow t :: h =>
      ⟨time.seconds t, position⟩ :: samples time h
  | _ :: h => samples time h
  | [] => []

/-- Another event takes no sample. -/
lemma Unsampled.samples_cons [Field K] {e : Event (robot K)} (he : Unsampled e)
    (time : ElapsedTime) (h : History (robot K)) : samples time (e :: h) = samples time h :=
  samples.eq_2 time e h fun position _ _ heq _ => he position heq

lemma keeps_samples [Field K] {α : Type} {env : Environment (robot K)} {p : RobotProgram K α}
    (hp : Emits Unsampled p) (time : ElapsedTime) (run : List (Sample K)) :
    Keeps env (fun h => samples time h = run) p :=
  (hp.mono fun _ he => he.samples_cons time).keeps_reading run

/-! ## What each part does

Beside what a wait does, the parts of `moveRTP` do little, and what holds of that little holds of
them. -/

section Parts

variable {φ : Event (robot K) → Prop}

/-- The busy test asks drive motors, and nothing else. -/
lemma emits_busyCheck (hbusy : ∀ wheel a, φ (.answer (.isBusy (.drive wheel)) a)) :
    Emits φ (busyCheck : RobotProgram K Bool) := by
  refine emits_and (emits_and (emits_and ?_ ?_) ?_) ?_
  · exact fun a => ⟨hbusy .frontRight a, trivial⟩
  · exact fun a => ⟨hbusy .frontLeft a, trivial⟩
  · exact fun a => ⟨hbusy .backRight a, trivial⟩
  · exact fun a => ⟨hbusy .backLeft a, trivial⟩

lemma emits_driveGuard (hbusy : ∀ wheel a, φ (.answer (.isBusy (.drive wheel)) a))
    (hactive : ∀ a, φ (.answer .opModeIsActive a)) : Emits φ (driveGuard : RobotProgram K Bool) :=
  emits_and (emits_busyCheck hbusy) fun a => ⟨hactive a, trivial⟩

lemma emits_settle (time : ElapsedTime) (fuel : ℕ) :
    Emits Waiting (settle time fuel : RobotProgram K Unit) := by
  refine emits_waiting ?_ ?_ 500 "time until quit" fuel
  · simp [ElapsedTime.timeIn, Waiting]
  · simp [ElapsedTime.timeIn, Waiting]

variable [Field K] (hwait : ∀ e, Waiting e → φ e)
include hwait

/-- After the drive loop there is a wait, and no power but zero. -/
lemma emits_settleAndStop (hstop : ∀ wheel, φ (.command (.setPower (.drive wheel) 0)))
    (hmounted : ∀ wheel direction, φ (.command (.setDirection (.drive wheel) direction)))
    (fuel : ℕ) : Emits φ (settleAndStop fuel : RobotProgram K ElapsedTime) := by
  have hnow : ∀ t, φ (.answer .nsNow t) := fun t => hwait _ trivial
  refine emits_bind (by simp [ElapsedTime.reset, hnow]) fun time => ?_
  refine emits_bind ((emits_settle time fuel).mono fun e => hwait e) fun _ => ?_
  simp [setPowers, restoreDirections, hstop, hmounted]

variable [LinearOrder K]

/-- Before the drive loop there is none. -/
lemma emits_prepare [FloorRing K]
    (hmode : ∀ wheel mode, φ (.command (.setMode (.drive wheel) mode)))
    (htarget : ∀ wheel position, φ (.command (.setTargetPosition (.drive wheel) position)))
    (hw : HardwareDesignosaurs K) (direction : StringRef) (distance : K) :
    Emits φ (prepare hw direction distance) := by
  have hnow : ∀ t, φ (.answer .nsNow t) := fun t => hwait _ trivial
  have hline : ∀ caption value, φ (.command (.addData caption value)) := fun _ _ => hwait _ trivial
  have hupdate : φ (.command .updateTelemetry) := hwait _ trivial
  refine emits_bind (by simp [resetEncoders, hmode]) fun _ => emits_bind ?_ fun _ => ?_
  · unfold setTargets
    cases Heading.ofString direction <;> simp [setTargetPos, hmode, htarget, hline, hupdate]
  · simp [ElapsedTime.reset, ElapsedTime.time, hnow]

lemma emits_driveBody
    (hposition : ∀ wheel position, φ (.answer (.getCurrentPosition (.drive wheel)) position))
    (hpower : ∀ wheel power, φ (.command (.setPower (.drive wheel) power)))
    (d : DriveLoop K) (time : ElapsedTime) (s : RampState K) : Emits φ (driveBody d time s) := by
  have hnow : ∀ t, φ (.answer .nsNow t) := fun t => hwait _ trivial
  have hline : ∀ caption value, φ (.command (.addData caption value)) := fun _ _ => hwait _ trivial
  have hupdate : φ (.command .updateTelemetry) := hwait _ trivial
  simp [driveBody, ElapsedTime.time, setPowers, showDrive, hnow, hposition, hpower, hline, hupdate]

/-- **What a call does.** -/
lemma emits_moveRTP [FloorRing K]
    (hmode : ∀ wheel mode, φ (.command (.setMode (.drive wheel) mode)))
    (htarget : ∀ wheel position, φ (.command (.setTargetPosition (.drive wheel) position)))
    (hbusy : ∀ wheel a, φ (.answer (.isBusy (.drive wheel)) a))
    (hposition : ∀ wheel position, φ (.answer (.getCurrentPosition (.drive wheel)) position))
    (hpower : ∀ wheel power, φ (.command (.setPower (.drive wheel) power)))
    (hmounted : ∀ wheel direction, φ (.command (.setDirection (.drive wheel) direction)))
    (hw : HardwareDesignosaurs K) (fuel : ℕ) (direction : StringRef) (maxSpeed distance : K) :
    Emits φ (moveRTP hw fuel direction maxSpeed distance) := by
  have hactive : ∀ a, φ (.answer .opModeIsActive a) := fun a => hwait _ trivial
  refine emits_bind (emits_prepare hwait hmode htarget hw direction distance) fun s => ?_
  refine emits_bind ?_ fun _ => ?_
  · exact emits_whileLoop (emits_driveGuard hbusy hactive)
      (emits_driveBody hwait hposition hpower _ s.1) fuel _
  · exact emits_settleAndStop hwait (fun wheel => hpower wheel 0) hmounted fuel

end Parts

variable [Field K]

/-- Nothing after the drive loop gives a power but zero. -/
lemma emits_quiet_settleAndStop (fuel : ℕ) :
    Emits Quiet (settleAndStop fuel : RobotProgram K ElapsedTime) :=
  emits_settleAndStop (fun _ he => he.passive.unpowered.quiet) (by simp) (by simp) fuel

variable [LinearOrder K]

/-- Nothing before the drive loop gives a power. -/
lemma emits_unpowered_prepare [FloorRing K] (hw : HardwareDesignosaurs K) (direction : StringRef)
    (distance : K) : Emits Unpowered (prepare hw direction distance) :=
  emits_prepare (fun _ he => he.passive.unpowered) (by simp) (by simp) hw direction distance

/-- There is no loop in what comes before the drive loop, nor in its test. -/
lemma wp_prepare_returns [FloorRing K] (env : Environment (robot K)) (hw : HardwareDesignosaurs K)
    (direction : StringRef) (distance : K) (h : History (robot K)) :
    wp env (prepare hw direction distance) (fun _ _ => True) (fun _ => False) h := by
  cases hdirection : Heading.ofString direction <;>
    simp [prepare, resetEncoders, setTargets, setTargetPos, hdirection, ElapsedTime.reset,
      ElapsedTime.time]

omit [Field K] [LinearOrder K] in
lemma wp_driveGuard_returns (env : Environment (robot K)) (h : History (robot K)) :
    wp env driveGuard (fun _ _ => True) (fun _ => False) h := by
  simp [driveGuard, busyCheck, wp_and]

/-- The last thing `moveRTP` does before its drive loop is to read the clock. -/
lemma wp_prepare_read [FloorRing K] (env : Environment (robot K)) (hw : HardwareDesignosaurs K)
    (direction : StringRef) (distance : K) (h : History (robot K)) :
    wp env (prepare hw direction distance)
      (fun s h' => ∃ t ∈ lastReading h', s.2 = s.1.seconds t) (fun _ => True) h := by
  refine wp_seq (wp_true env _ h) fun _ h₁ _ => wp_seq (wp_true env _ h₁) fun _ h₂ _ => ?_
  simp [ElapsedTime.reset, ElapsedTime.time]

/-! ## What the drive loop commands -/

/-- The sample that the body of the drive loop takes at a history. -/
def sampleAt (env : Environment (robot K)) (time : ElapsedTime) (h : History (robot K)) :
    Sample K where
  nowTime := time.seconds (env h .nsNow)
  position := env (.answer .nsNow (env h .nsNow) :: h) (.getCurrentPosition (.drive .frontRight))

/-- The history when it has been taken. -/
def sampled (env : Environment (robot K)) (h : History (robot K)) : History (robot K) :=
  .answer (.getCurrentPosition (.drive .frontRight))
      (env (.answer .nsNow (env h .nsNow) :: h) (.getCurrentPosition (.drive .frontRight)))
    :: .answer .nsNow (env h .nsNow) :: h

/-- The powers of a run of the drive loop, newest first. -/
def DriveLoop.commanded (d : DriveLoop K) : List (Sample K) → List K
  | [] => []
  | x :: past => (d.after (x :: past)).currentSpeed :: d.commanded past

section FirstIteration

variable {env : Environment (robot K)} {d : DriveLoop K} {time : ElapsedTime}
  {h : History (robot K)}

/-- The body of the drive loop from its sample on. -/
lemma wp_driveBody_iff (s : RampState K) {Q : RampState K → History (robot K) → Prop}
    {R : History (robot K) → Prop} :
    wp env (driveBody d time s) Q R h
      ↔ wp env (do
          setPowers (d.rampStep s (sampleAt env time h)).currentSpeed
          showDrive (d.rampStep s (sampleAt env time h))
          return d.rampStep s (sampleAt env time h)) Q R (sampled env h) := Iff.rfl

/-- The first thing an iteration does with its sample is to give the front-right motor a power. -/
lemma wp_driveBody_power (s : RampState K) :
    wp env (driveBody d time s)
      (fun _ h' => .command (.setPower (.drive .frontRight)
        (d.rampStep s (sampleAt env time h)).currentSpeed) :: sampled env h <:+ h')
      (fun h' => .command (.setPower (.drive .frontRight)
        (d.rampStep s (sampleAt env time h)).currentSpeed) :: sampled env h <:+ h') h := by
  rw [wp_driveBody_iff]
  simp only [setPowers, wp_bind, wp_command, wp_done]
  exact keeps_suffix env _ _ _ (List.suffix_append [_, _, _] _)

/-- **The first power of a call** whose drive loop is entered. -/
theorem moveRTP_first_power [FloorRing K] {hw : HardwareDesignosaurs K} {fuel : ℕ}
    {direction : StringRef} {maxSpeed distance prevTime : K} {start h₁ h₂ : History (robot K)}
    (hprepare : Program.run env (prepare hw direction distance) start = (some (time, prevTime), h₁))
    (hguard : Program.run env driveGuard h₁ = (some true, h₂)) :
    .command (.setPower (.drive .frontRight)
        (DriveLoop.after ⟨hw, maxSpeed, distance, prevTime⟩ [sampleAt env time h₂]).currentSpeed)
      :: sampled env h₂
        <:+ (Program.run env (moveRTP hw (fuel + 1) direction maxSpeed distance) start).2 := by
  refine wp_final (S := fun h' => _ <:+ h') ?_
  refine wp_seq (M := fun s h' => s = (time, prevTime) ∧ h' = h₁)
    (wp_of_run hprepare ⟨rfl, rfl⟩) ?_
  rintro _ _ ⟨rfl, rfl⟩
  refine wp_seq ?_ fun _ h' hh' => keeps_suffix env _ _ h' hh'
  refine wp_seq (M := fun b h' => b = true ∧ h' = h₂) (wp_of_run hguard ⟨rfl, rfl⟩) ?_
  rintro _ _ ⟨rfl, rfl⟩
  -- from the power on, it does not matter what is run
  exact wp_seq (wp_driveBody_power _) fun _ h' hh' => keeps_suffix env _ _ h' hh'

end FirstIteration

/-! ### One iteration -/

section Iteration

variable {env : Environment (robot K)}

omit [Field K] [LinearOrder K] in
/-- The tests of the loop neither read the clock nor touch a motor. -/
lemma wp_driveGuard_passive (h : History (robot K)) :
    wp env driveGuard
      (fun _ h' => lastReading h' = lastReading h ∧ ∀ wheel, powers wheel h' = powers wheel h)
      (fun h' => lastReading h' = lastReading h ∧ ∀ wheel, powers wheel h' = powers wheel h)
      h := by
  have hemits : Emits (fun e => Passive e ∧ ∀ past, lastReading (e :: past) = lastReading past)
      (driveGuard : RobotProgram K Bool) := emits_driveGuard (by simp) (by simp)
  have hkeeps : Keeps env (fun h' => lastReading h' = lastReading h
      ∧ ∀ wheel, powers wheel h' = powers wheel h) driveGuard :=
    hemits.keeps fun e past he hpast =>
      ⟨(he.2 past).trans hpast.1, fun wheel => (he.1.unpowered wheel past).trans (hpast.2 wheel)⟩
  exact hkeeps h ⟨rfl, fun _ => rfl⟩

omit [LinearOrder K] in
/-- Nor do they take a sample. -/
lemma keeps_samples_driveGuard (time : ElapsedTime) (run : List (Sample K)) :
    Keeps env (fun h => samples time h = run) driveGuard :=
  keeps_samples (emits_driveGuard (by simp) (by simp)) time run

/-- The body reads one sample, and gives every wheel the speed the ramps have for it. -/
lemma wp_driveBody_sample (d : DriveLoop K) (time : ElapsedTime) (s : RampState K)
    {R : History (robot K) → Prop} (h : History (robot K)) :
    wp env (driveBody d time s)
      (fun s' h' => s' = d.rampStep s (sampleAt env time h)
        ∧ lastReading h' = some (env h .nsNow)
        ∧ samples time h' = sampleAt env time h :: samples time h
        ∧ ∀ wheel, powers wheel h' = s'.currentSpeed :: powers wheel h) R h := by
  rw [wp_driveBody_iff]
  simp only [setPowers, showDrive, wp_bind, wp_ask, wp_command, wp_done, wp_pure]
  refine ⟨trivial, by simp [sampled], rfl, fun wheel => ?_⟩
  cases wheel <;> simp [powers, sampled]

end Iteration

/-! ### The loop -/

variable [IsStrictOrderedRing K] {env : Environment (robot K)}

lemma ElapsedTime.seconds_mono (time : ElapsedTime) {s t : ℤ} (hst : s ≤ t) :
    (time.seconds s : K) ≤ time.seconds t := by
  unfold ElapsedTime.seconds
  gcongr

lemma ElapsedTime.seconds_strictMono (time : ElapsedTime) {s t : ℤ} (hst : s < t) :
    (time.seconds s : K) < time.seconds t := by
  unfold ElapsedTime.seconds
  gcongr

variable (env) in
/-- Since `start` the drive loop has taken the samples `run`: its variables are what they lead to,
each wheel was given their powers, and their times are in order if the clock never goes back, and
later than that of the reading before the loop if it ticks. -/
structure Driven (d : DriveLoop K) (time : ElapsedTime) (start : History (robot K))
    (run : List (Sample K)) (s : RampState K) (h : History (robot K)) : Prop where
  taken : samples time h = run ++ samples time start
  locals : s = d.after run
  given : ∀ wheel, powers wheel h = d.commanded run ++ powers wheel start
  reading : ∃ t ∈ lastReading h, d.lastTime run = time.seconds t
  clock : ClockRuns env → d.ClockAdvances run
  ticks : ClockTicks env → ∀ x ∈ run, d.prevTime < x.nowTime

variable {d : DriveLoop K} {time : ElapsedTime} {start h : History (robot K)}
  {run : List (Sample K)} {s : RampState K}

omit [IsStrictOrderedRing K] in
/-- The tests of the loop change nothing of that. -/
lemma wp_driveGuard_driven (hs : Driven env d time start run s h) :
    wp env driveGuard (fun _ => Driven env d time start run s)
      (Driven env d time start run s) h := by
  have hkeeps : ∀ h', (lastReading h' = lastReading h ∧ ∀ wheel, powers wheel h' = powers wheel h)
      ∧ samples time h' = run ++ samples time start → Driven env d time start run s h' := by
    rintro h' ⟨⟨hread, hsame⟩, htaken⟩
    exact ⟨htaken, hs.locals, fun wheel => (hsame wheel).trans (hs.given wheel),
      hread ▸ hs.reading, hs.clock, hs.ticks⟩
  exact wp_mono (fun _ => hkeeps) hkeeps
    (wp_conj (wp_driveGuard_passive h) (keeps_samples_driveGuard time _ h hs.taken))

/-- One iteration takes one sample more. -/
lemma wp_driveBody_driven {R : History (robot K) → Prop} (hs : Driven env d time start run s h) :
    wp env (driveBody d time s)
      (Driven env d time start (sampleAt env time h :: run)) R h := by
  refine wp_mono ?_ (fun _ => id) (wp_driveBody_sample d time s h)
  rintro _ h' ⟨rfl, hread, htaken, hspeed⟩
  obtain ⟨t, ht, hlast⟩ := hs.reading
  refine ⟨?_, ?_, fun wheel => ?_, ⟨env h .nsNow, hread, rfl⟩, fun hclock => ?_, fun hticks => ?_⟩
  · rw [htaken, hs.taken, List.cons_append]
  · rw [hs.locals, DriveLoop.after]
  · rw [hspeed wheel, hs.given wheel, hs.locals]
    rfl
  · rw [DriveLoop.ClockAdvances, forall_suffix_cons]
    refine ⟨?_, hs.clock hclock⟩
    rw [hlast]
    exact time.seconds_mono (hclock h t ht)
  · have hnow : d.lastTime run < time.seconds (env h .nsNow) := by
      rw [hlast]
      exact time.seconds_strictMono (hticks h t ht)
    have hentered : d.prevTime ≤ d.lastTime run := by
      cases run with
      | nil => exact le_rfl
      | cons y earlier => exact (hs.ticks hticks y List.mem_cons_self).le
    rw [List.forall_mem_cons]
    exact ⟨hentered.trans_lt hnow, hs.ticks hticks⟩

/-- **The rule of the drive loop.**  On any clock, at the head of every iteration and when it ends,
its variables and its powers are those of the samples it has taken; and what the tests and the debug
lines of the loop keep, and the powers of each further sample lead on to, holds there too. -/
theorem wp_driveLoop_rule (Inv : List (Sample K) → History (robot K) → Prop)
    (hguard : ∀ run, Keeps env (Inv run) driveGuard)
    (hshow : ∀ run s, Keeps env (Inv run) (showDrive s))
    (hpowers : ∀ run h', Driven env d time h run (d.after run) h' → Inv run h' →
      wp env (setPowers (d.after (sampleAt env time h' :: run)).currentSpeed)
        (fun _ => Inv (sampleAt env time h' :: run)) (fun _ => True) (sampled env h'))
    (fuel : ℕ) (hprev : ∃ t ∈ lastReading h, d.prevTime = time.seconds t) (hinv : Inv [] h) :
    wp env (driveLoop d time fuel) (fun s h' => ∃ run, Driven env d time h run s h' ∧ Inv run h')
      (fun h' => ∃ run s, Driven env d time h run s h' ∧ Inv run h') h := by
  have hstart : Driven env d time h [] (.start d.prevTime) h :=
    ⟨rfl, rfl, fun _ => rfl, hprev, fun _ => by simp [DriveLoop.ClockAdvances], by simp⟩
  refine wp_whileLoop (fun s h' => ∃ run, Driven env d time h run s h' ∧ Inv run h')
    (fun s _ hs => hs.imp fun _ hrun => ⟨s, hrun⟩) ?_ fuel _ h ⟨[], hstart, hinv⟩
  rintro s h₁ ⟨run, hs, hrun⟩
  refine wp_mono ?_ (fun h₂ hh₂ => ⟨run, s, hh₂⟩)
    (wp_conj (wp_driveGuard_driven hs) (hguard run h₁ hrun))
  rintro (_ | _) h₂ ⟨hs₂, hrun₂⟩
  · exact ⟨run, hs₂, hrun₂⟩
  · obtain rfl := hs₂.locals
    have hinv₂ : wp env (driveBody d time (d.after run))
        (fun _ => Inv (sampleAt env time h₂ :: run)) (fun _ => True) h₂ := by
      rw [wp_driveBody_iff]
      refine wp_seq (hpowers run h₂ hs₂ hrun₂) fun _ h₃ hrun₃ => ?_
      exact wp_seq (wp_mono (fun _ _ => id) (fun _ _ => trivial) (hshow _ _ h₃ hrun₃))
        fun _ _ => id
    have hboth := wp_conj (wp_driveBody_driven (R := fun _ => False) hs₂) hinv₂
    rw [if_pos rfl]
    exact wp_mono (fun _ _ hh₃ => ⟨_, hh₃⟩) (fun _ hfalse => hfalse.1.elim) hboth

/-- **The drive loop commands the ramps**, whether it ends or is cut. -/
theorem wp_driveLoop (fuel : ℕ) (hprev : ∃ t ∈ lastReading h, d.prevTime = time.seconds t) :
    wp env (driveLoop d time fuel) (fun s h' => ∃ run, Driven env d time h run s h')
      (fun h' => ∃ run s, Driven env d time h run s h') h := by
  have hkeeps : ∀ {α : Type} (p : RobotProgram K α), Keeps env (fun _ => True) p :=
    fun p h' _ => wp_true env p h'
  refine wp_mono (fun s h' ⟨run, hs, _⟩ => ⟨run, hs⟩) (fun h' ⟨run, s, hs, _⟩ => ⟨run, s, hs⟩)
    (wp_driveLoop_rule (fun _ _ => True) (fun _ => hkeeps _) (fun _ s => hkeeps _)
      (fun _ h' _ _ => wp_true env _ _) fuel hprev trivial)

end Designosaurs
