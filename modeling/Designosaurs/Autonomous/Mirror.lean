import Designosaurs.Autonomous.OpMode
import Designosaurs.Interact.Simulation

/-!
# The alliance mirror

`RedFoundationMove` is `BlueFoundationMove` with left and right exchanged.  That it drives the
mirror image of the blue path, in lockstep with it, takes three facts about `moveRTP`.

* The table of signs is the same under the exchange of left and right in the direction and among the
  wheels; the two targets are rounded from one number, so they agree to the tick.
* The ramps look at the front-right encoder through an absolute value, so they do not see that in a
  sideways move it runs the other way.
* The busy test asks motor by motor and stops at the first `false`, so the two runs may ask
  different motors; only the outcome goes into the program.

A `Feed` is what the outside world tells both robots.  It answers from the `trace` of a history,
which is also what the two runs are to have in common: telemetry is left out of it, targets are
blank, and of the encoders only the front right one is kept, without its sign.
-/

namespace Designosaurs

open Interact

variable {K : Type}

/-! ## What both robots show -/

/-- A step that the two runs have in common. -/
inductive Observed (K : Type) where
  /-- any call that acts, but for telemetry and targets -/
  | command (c : Command K)
  /-- `setTargetPosition` on a drive motor, to whatever position -/
  | sent (wheel : Wheel)
  /-- the busy test is begun -/
  | check
  | active (a : Bool)
  | now (t : ℤ)
  /-- the front-right encoder is read -/
  | turned (ticks : ℕ)

/-- What is observed of an event, if anything. -/
def observe : Event (robot K) → Option (Observed K)
  | .command (.addData _ _) => none
  | .command .updateTelemetry => none
  | .command (.setTargetPosition (.drive wheel) _) => some (.sent wheel)
  | .command c => some (.command c)
  | .answer (.isBusy (.drive .frontRight)) _ => some .check
  | .answer .opModeIsActive a => some (.active a)
  | .answer .nsNow t => some (.now t)
  | .answer (.getCurrentPosition (.drive .frontRight)) position => some (.turned position.natAbs)
  | .answer _ _ => none

/-- The observed steps of a history, newest first. -/
def trace (h : History (robot K)) : List (Observed K) := h.filterMap observe

/-- What the outside world tells, from what has been observed so far: the clock, whether the op mode
is active, the outcome of the busy test and how far the front-right encoder is from zero.  A feed
that looks at nothing but how often it was asked is a fixed sequence of readings. -/
structure Feed (K : Type) where
  now : List (Observed K) → ℤ
  active : List (Observed K) → Bool
  busy : List (Observed K) → Bool
  turned : List (Observed K) → ℕ

/-- The environment tells what the feed says, and is free in everything else. -/
structure Fed (feed : Feed K) (env : Environment (robot K)) : Prop where
  now : ∀ h, env h .nsNow = feed.now (trace h)
  active : ∀ h, env h .opModeIsActive = feed.active (trace h)
  busy : ∀ h, (Program.run env busyCheck h).1 = some (feed.busy (trace h))
  turned : ∀ h, (env h (.getCurrentPosition (.drive .frontRight))).natAbs = feed.turned (trace h)

/-- The wheel on the other side. -/
def Wheel.opposite : Wheel → Wheel
  | frontRight => frontLeft
  | frontLeft => frontRight
  | backRight => backLeft
  | backLeft => backRight

/-- The direction that is the mirror image. -/
def Heading.mirror : Heading → Heading
  | forward => forward
  | backward => backward
  | left => right
  | right => left

/-- The two histories show the same, and each target is the other side's. -/
structure Mirrored (blue red : History (robot K)) : Prop where
  trace : trace red = trace blue
  targets : ∀ wheel, targets wheel red = targets wheel.opposite blue

/-- Two events that look alike and send no wheel anywhere. -/
lemma Mirrored.cons {blue red : History (robot K)} {e e' : Event (robot K)}
    (hm : Mirrored blue red) (hlook : observe e' = observe e) (he : Untargeted e)
    (he' : Untargeted e') : Mirrored (e :: blue) (e' :: red) where
  trace := by
    have htrace := hm.trace
    unfold Designosaurs.trace at htrace ⊢
    rw [List.filterMap_cons, List.filterMap_cons, hlook, htrace]
  targets wheel := by rw [he' wheel, he wheel.opposite, hm.targets]

/-- What both runs do alike: they act, but send no drive motor anywhere, and they ask the clock and
whether the op mode is active. -/
def Shared : Event (robot K) → Prop
  | .command (.setTargetPosition (.drive _) _) => False
  | .command _ => True
  | .answer .nsNow _ => True
  | .answer .opModeIsActive _ => True
  | .answer _ _ => False

lemma Waiting.shared {e : Event (robot K)} (he : Waiting e) : Shared e := by
  cases e with
  | answer q a =>
      cases q with
      | nsNow => trivial
      | opModeIsActive => trivial
      | _ => exact he.elim
  | command c =>
      cases c with
      | setTargetPosition motor position => exact he.elim
      | _ => trivial

section Lockstep

variable {feed : Feed K} {blue red : Environment (robot K)}

lemma simulates_shared (hblue : Fed feed blue) (hred : Fed feed red) {α : Type}
    {p : RobotProgram K α} (hp : Emits Shared p) : Simulates blue red Mirrored p p (· = ·) := by
  refine simulates_self (fun c hc h h' hm => ?_) (fun q a hq h h' hm => ?_) hp
  · have hc' : Untargeted (.command c) := by
      apply untargeted_command
      rintro wheel position rfl
      exact hc
    exact hm.cons rfl hc' hc'
  · have heq : blue h q = red h' q := by
      cases q with
      | nsNow => rw [hblue.now, hred.now, hm.trace]
      | opModeIsActive => rw [hblue.active, hred.active, hm.trace]
      | _ => exact hq.elim
    refine ⟨heq, ?_⟩
    rw [heq]
    exact hm.cons rfl (untargeted_answer q _) (untargeted_answer q _)

/-- Telemetry may differ. -/
lemma simulates_addData (caption caption' : String) (value value' : Shown K) :
    Simulates blue red Mirrored (addData caption value) (addData caption' value')
      (fun _ _ => True) := by
  refine simulates_command (fun h h' hm => ?_) (simulates_pure trivial)
  exact hm.cons rfl (fun _ _ => rfl) (fun _ _ => rfl)

/-- The front-right encoder agrees up to sign; of the others nothing is known. -/
lemma simulates_getCurrentPosition (hblue : Fed feed blue) (hred : Fed feed red) (wheel : Wheel) :
    Simulates blue red Mirrored (getCurrentPosition (.drive wheel))
      (getCurrentPosition (.drive wheel))
      (fun position position' => wheel = .frontRight → position'.natAbs = position.natAbs) := by
  refine simulates_ask _ (fun h h' hm => ?_) fun _ _ hposition => simulates_pure hposition
  have hfront : (red h' (.getCurrentPosition (.drive .frontRight))).natAbs
      = (blue h (.getCurrentPosition (.drive .frontRight))).natAbs := by
    rw [hred.turned, hblue.turned, hm.trace]
  refine ⟨fun hwheel => hwheel ▸ hfront, hm.cons ?_ (untargeted_answer _ _) (untargeted_answer _ _)⟩
  cases wheel with
  | frontRight => exact congrArg (fun ticks => some (Observed.turned ticks)) hfront
  | _ => rfl

/-- The busy test comes out the same, whichever motors were asked. -/
lemma simulates_busyCheck (hblue : Fed feed blue) (hred : Fed feed red) :
    Simulates blue red Mirrored busyCheck busyCheck (· = ·) := by
  have hrun : ∀ (env : Environment (robot K)) h, ∃ busy g,
      Program.run env busyCheck h = (some busy, g)
        ∧ trace g = .check :: trace h ∧ ∀ wheel, targets wheel g = targets wheel h := by
    intro env h
    apply exists_run_of_wp
    simp only [busyCheck, wp_and, wp_ask, wp_done]
    split_ifs <;> exact ⟨rfl, fun _ => rfl⟩
  intro h h' hm
  obtain ⟨busy, g, hb, htrace, htargets⟩ := hrun blue h
  obtain ⟨busy', g', hr, htrace', htargets'⟩ := hrun red h'
  have hbusy := hblue.busy h
  have hbusy' := hred.busy h'
  rw [hb] at hbusy ⊢
  rw [hr, hm.trace] at hbusy'
  rw [hr]
  refine ⟨Option.some.inj (hbusy.trans hbusy'.symm), ?_, fun wheel => ?_⟩
  · rw [htrace', htrace, hm.trace]
  · rw [htargets', htargets, hm.targets]

lemma simulates_showDrive (hblue : Fed feed blue) (hred : Fed feed red) (s : RampState K) :
    Simulates blue red Mirrored (showDrive s) (showDrive s) (fun _ _ => True) := by
  refine simulates_bind (simulates_getCurrentPosition hblue hred _) fun _ _ _ => ?_
  refine simulates_bind (simulates_addData _ _ _ _) fun _ _ _ => ?_
  refine simulates_bind (simulates_getCurrentPosition hblue hred _) fun _ _ _ => ?_
  refine simulates_bind (simulates_addData _ _ _ _) fun _ _ _ => ?_
  refine simulates_bind (simulates_getCurrentPosition hblue hred _) fun _ _ _ => ?_
  refine simulates_bind (simulates_addData _ _ _ _) fun _ _ _ => ?_
  refine simulates_bind (simulates_getCurrentPosition hblue hred _) fun _ _ _ => ?_
  refine simulates_bind (simulates_addData _ _ _ _) fun _ _ _ => ?_
  exact (simulates_shared hblue hred (by simp [Shared])).mono fun _ _ _ => trivial

variable [Field K] [LinearOrder K]

/-- The ramps do not see the sign of the front-right encoder. -/
lemma travel_of_natAbs {hw : HardwareDesignosaurs K} {position position' : ℤ}
    (h : position'.natAbs = position.natAbs) : travel hw position' = travel hw position := by
  rcases Int.natAbs_eq_natAbs_iff.mp h with rfl | rfl
  · rfl
  · rw [travel, travel, Int.cast_neg, neg_mul, abs_neg]

/-- One iteration of the drive loop computes the same on both sides. -/
lemma simulates_driveBody (hblue : Fed feed blue) (hred : Fed feed red) (d : DriveLoop K)
    (time : ElapsedTime) (s : RampState K) :
    Simulates blue red Mirrored (driveBody d time s) (driveBody d time s) (· = ·) := by
  refine simulates_bind (simulates_shared hblue hred (by simp [ElapsedTime.time, Shared])) ?_
  rintro nowTime _ rfl
  refine simulates_bind (simulates_getCurrentPosition hblue hred .frontRight) ?_
  intro position position' hposition
  have hstep : d.rampStep s ⟨nowTime, position'⟩ = d.rampStep s ⟨nowTime, position⟩ := by
    simp only [DriveLoop.rampStep, travel_of_natAbs (hposition rfl)]
  simp only [hstep]
  refine simulates_bind (simulates_shared hblue hred (by simp [setPowers, Shared])) fun _ _ _ => ?_
  exact simulates_bind (simulates_showDrive hblue hred _) fun _ _ _ => simulates_pure rfl

/-- The drive loops take the same number of iterations. -/
lemma simulates_driveLoop (hblue : Fed feed blue) (hred : Fed feed red) (d : DriveLoop K)
    (time : ElapsedTime) (fuel : ℕ) :
    Simulates blue red Mirrored (driveLoop d time fuel) (driveLoop d time fuel) (· = ·) := by
  refine simulates_whileLoop ?_ ?_ fuel rfl
  · exact simulates_and (simulates_busyCheck hblue hred)
      (simulates_shared hblue hred (by simp [Shared]))
  · rintro s _ rfl
    exact simulates_driveBody hblue hred d time s

/-- **The table of signs is its own mirror image.** -/
theorem wheelDistance_mirror (hw : HardwareDesignosaurs K) (encDist : K) (heading : Heading)
    (wheel : Wheel) :
    wheelDistance hw encDist heading.mirror wheel
      = wheelDistance hw encDist heading wheel.opposite := by
  cases heading <;> cases wheel <;> rfl

variable [FloorRing K] {hw : HardwareDesignosaurs K} {fuel : ℕ}

/-- Each wheel is sent to the target of the other side. -/
lemma simulates_setTargets (heading : Heading) (distance : K) :
    Simulates blue red Mirrored (setTargets hw heading.literal distance)
      (setTargets hw heading.mirror.literal distance) (fun _ _ => True) := by
  intro h h' hm
  simp only [setTargets, Heading.ofString_literal, wheelDistance_mirror, setTargetPos]
  refine ⟨trivial, ?_, fun wheel => ?_⟩
  · simpa [trace, observe] using hm.trace
  · have htargets := hm.targets wheel
    cases wheel <;> simpa [targets, Wheel.opposite] using htargets

/-- **A move and its mirror image.** -/
theorem simulates_moveRTP (hblue : Fed feed blue) (hred : Fed feed red) (heading : Heading)
    (maxSpeed distance : K) :
    Simulates blue red Mirrored (moveRTP hw fuel heading.literal maxSpeed distance)
      (moveRTP hw fuel heading.mirror.literal maxSpeed distance) (· = ·) := by
  have hprepare : Simulates blue red Mirrored (prepare hw heading.literal distance)
      (prepare hw heading.mirror.literal distance) (· = ·) := by
    have hreset : Emits Shared (resetEncoders : RobotProgram K Unit) := by
      simp [resetEncoders, Shared]
    refine simulates_bind (simulates_shared hblue hred hreset) fun _ _ _ => ?_
    refine simulates_bind (simulates_setTargets heading distance) fun _ _ _ => ?_
    exact simulates_shared hblue hred (by simp [ElapsedTime.reset, ElapsedTime.time, Shared])
  refine simulates_bind hprepare ?_
  rintro ⟨time, prevTime⟩ _ rfl
  refine simulates_bind (simulates_driveLoop hblue hred _ time fuel) fun _ _ _ => ?_
  exact simulates_shared hblue hred
    (emits_settleAndStop (fun _ => Waiting.shared) (by simp [Shared]) (by simp [Shared]) fuel)

/-! ## The two programs -/

/-- A statement and its mirror image; what it shows need not be the same. -/
inductive Statement.Mirrors : Statement K → Statement K → Prop where
  | moveRTP (heading : Heading) (maxSpeed distance : K) :
      Mirrors (.moveRTP heading.literal maxSpeed distance)
        (.moveRTP heading.mirror.literal maxSpeed distance)
  | setPosition (servo : Servo) (position : K) :
      Mirrors (.setPosition servo position) (.setPosition servo position)
  | waitDifference (millis : ℤ) : Mirrors (.waitDifference millis) (.waitDifference millis)
  | hold (matchStartTime seconds : ℤ) (caption caption' : String) :
      Mirrors (.hold matchStartTime seconds caption) (.hold matchStartTime seconds caption')

lemma simulates_statement (hblue : Fed feed blue) (hred : Fed feed red)
    {statement statement' : Statement K} (hmirrors : statement.Mirrors statement')
    (runtime : ElapsedTime) :
    Simulates blue red Mirrored (statement.program hw fuel runtime)
      (statement'.program hw fuel runtime) (· = ·) := by
  cases hmirrors with
  | moveRTP heading maxSpeed distance =>
      exact simulates_moveRTP hblue hred heading maxSpeed distance
  | setPosition servo position =>
      exact simulates_shared hblue hred (by simp [Statement.program, Shared])
  | waitDifference millis =>
      have hwaits := Statement.emits_waiting hw fuel runtime (.waitDifference millis) trivial
      exact simulates_shared hblue hred (hwaits.mono fun _ => Waiting.shared)
  | hold matchStartTime seconds caption caption' =>
      refine simulates_bind (simulates_whileLoop (Q := (· = ·)) ?_ ?_ fuel rfl)
        fun _ _ _ => simulates_pure rfl
      · exact simulates_shared hblue hred
          (emits_and (by simp [ElapsedTime.now, Shared]) (by simp [Shared]))
      · intro _ _ _
        refine simulates_bind (simulates_shared hblue hred ?_) fun _ _ _ => ?_
        · simp [ElapsedTime.timeIn, Shared]
        refine simulates_bind (simulates_addData _ _ _ _) fun _ _ _ => ?_
        exact simulates_shared hblue hred (by simp [Shared])

/-- **Programs that are mirror images statement by statement.** -/
theorem simulates_steps (hblue : Fed feed blue) (hred : Fed feed red)
    {statements statements' : List (Statement K)}
    (hmirrors : List.Forall₂ Statement.Mirrors statements statements') (runtime : ElapsedTime) :
    Simulates blue red Mirrored ((Auto.steps statements .done).program hw fuel runtime)
      ((Auto.steps statements' .done).program hw fuel runtime) (· = ·) := by
  induction hmirrors generalizing runtime with
  | nil => exact simulates_pure rfl
  | cons hstatement _ ih =>
      refine simulates_bind (simulates_statement hblue hred hstatement runtime) ?_
      rintro runtime' _ rfl
      exact ih runtime'

/-- **The alliance mirror.**  Two robots that are fed the same run through `BlueFoundationMove` and
`RedFoundationMove` in lockstep: both runs get to the end or neither does, they show the same trace
of commands, powers, servo positions, tests, clock and encoder readings, and every wheel is sent,
move by move, to the targets of the wheel on the other side. -/
theorem alliance_mirror (hw : HardwareDesignosaurs K) (fuel : ℕ) (hblue : Fed feed blue)
    (hred : Fed feed red) :
    (Program.run red (RedFoundationMove.runOpMode hw fuel) []).1
        = (Program.run blue (BlueFoundationMove.runOpMode hw fuel) []).1
      ∧ trace (Program.run red (RedFoundationMove.runOpMode hw fuel) []).2
        = trace (Program.run blue (BlueFoundationMove.runOpMode hw fuel) []).2
      ∧ ∀ wheel, targets wheel (Program.run red (RedFoundationMove.runOpMode hw fuel) []).2
        = targets wheel.opposite
          (Program.run blue (BlueFoundationMove.runOpMode hw fuel) []).2 := by
  have hstart : Simulates blue red Mirrored BlueFoundationMove.start RedFoundationMove.start
      (· = · : ElapsedTime × ℤ → ElapsedTime × ℤ → Prop) :=
    simulates_shared (p := BlueFoundationMove.start) hblue hred
      (by simp [OpMode.start, BlueFoundationMove, ElapsedTime.reset, ElapsedTime.now, init, Shared])
  have hrun : Simulates blue red Mirrored (BlueFoundationMove.runOpMode hw fuel)
      (RedFoundationMove.runOpMode hw fuel) (· = ·) := by
    refine simulates_bind hstart ?_
    rintro ⟨runtime, matchStartTime⟩ _ rfl
    refine simulates_steps hblue hred ?_ runtime
    exact .cons (.moveRTP .backward _ _) <| .cons (.moveRTP .right _ _) <|
      .cons (.moveRTP .backward _ _) <| .cons (.setPosition _ _) <| .cons (.waitDifference _) <|
      .cons (.moveRTP .forward _ _) <| .cons (.setPosition _ _) <| .cons (.waitDifference _) <|
      .cons (.hold _ _ _ _) <| .cons (.moveRTP .left _ _) .nil
  obtain ⟨hresult, hmirrored⟩ := (hrun [] [] ⟨rfl, fun _ => rfl⟩).eq
  exact ⟨hresult, hmirrored.trace, hmirrored.targets⟩

end Lockstep

/-! ## A pair of robots -/

/-- A robot that hears a feed; its front-right encoder may be mounted the other way round. -/
def Feed.robot (feed : Feed K) (reversed : Bool) : Environment (robot K)
  | h, .isBusy (.drive .frontRight) => feed.busy (trace h)
  | _, .isBusy _ => true
  | h, .getCurrentPosition (.drive .frontRight) =>
      if reversed then -(feed.turned (trace h) : ℤ) else feed.turned (trace h)
  | _, .getCurrentPosition _ => 0
  | h, .opModeIsActive => feed.active (trace h)
  | h, .nsNow => feed.now (trace h)
  | _, .canCreateTFObjectDetector => false
  | _, .getUpdatedRecognitions => none

/-- Every feed can be heard. -/
lemma Feed.fed_robot (feed : Feed K) (reversed : Bool) : Fed feed (feed.robot reversed) where
  now _ := rfl
  active _ := rfl
  busy h := by
    cases hbusy : feed.busy (trace h) <;>
      simp [busyCheck, Program.and, Feed.robot, hbusy]
  turned h := by
    cases reversed <;> simp [Feed.robot]

/-- The wheels were sent somewhere and have had no power since. -/
def begun : List (Observed K) → Bool
  | .sent _ :: _ => true
  | .command (.setPower (.drive _) _) :: _ => false
  | _ :: seen => begun seen
  | [] => false

/-- A feed with a clock that goes half a minute with every step, on which each move takes one
sample. -/
def hurriedFeed : Feed ℝ where
  now seen := 30000000000 * seen.length
  active _ := true
  busy := begun
  turned _ := 5

/-- The blue run. -/
noncomputable def hurriedBlue : Option Unit × History (robot ℝ) :=
  Program.run (hurriedFeed.robot false) (BlueFoundationMove.runOpMode designosaurs 2) []

/-- The red run, on a robot with its front-right encoder the other way round. -/
noncomputable def hurriedRed : Option Unit × History (robot ℝ) :=
  Program.run (hurriedFeed.robot true) (RedFoundationMove.runOpMode designosaurs 2) []

/-- Both robots drive and get to the end, and the red one mirrors the blue one. -/
theorem hurried_mirror :
    (∃ power, 0 < power ∧ (powers .frontRight hurriedBlue.2).reverse.take 3 = [0, power, 0])
      ∧ hurriedRed.1 = some ()
      ∧ trace hurriedRed.2 = trace hurriedBlue.2
      ∧ ∀ wheel, targets wheel hurriedRed.2 = targets wheel.opposite hurriedBlue.2 := by
  have hmax : (0 : ℝ) < 0.4 := by norm_num
  have htime : ((⟨1080000000000⟩ : ElapsedTime).seconds 1110000000000 : ℝ)
      < (⟨1080000000000⟩ : ElapsedTime).seconds 1200000000000 :=
    ElapsedTime.seconds_strictMono _ (by norm_num)
  obtain ⟨-, htrace, htargets⟩ := alliance_mirror designosaurs 2 (hurriedFeed.fed_robot false)
    (hurriedFeed.fed_robot true)
  have hpos := DriveLoop.currentSpeed_pos ⟨designosaurs, 0.4, 24.0, _⟩ hmax ⟨_, 5⟩ [] htime
  exact ⟨⟨_, hpos, rfl⟩, rfl, htrace, htargets⟩

end Designosaurs
