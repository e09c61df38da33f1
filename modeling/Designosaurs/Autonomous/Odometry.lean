import Designosaurs.Autonomous.Script
import Designosaurs.Route.Course

/-!
# Where a program sends the robot

A program of statements is meant as a route: so many inches backward, so many to the right, then the
gripper.  What the motors are told is something else, four tick counts a move, rounded one by one
and counted from a new zero each time.  This file relates the two.

* `planned` is the route, in inches on the plane; `odometer` reads off a history where each wheel
  has been sent, through all the resets of its encoder.
* `wp_statement_sent` — a statement sends the wheels exactly its own targets further.
* `commanded_pose_near_plan` — wherever a run comes, the wheels have been sent to the place of the
  plan, up to half a tick a move in each component, and have not been turned at all.
* `delivered_pose_near_plan` — the error budget: with wheels that make each move good up to `τ`
  ticks, the robot is off by at most `τ` and a half a move.
-/

namespace Designosaurs

open Interact Route

variable {K : Type}

/-! ## The odometer -/

/-- What a wheel has been told: the ticks it was sent before the last reset of its encoder, and its
target since. -/
structure Odometer where
  base : ℤ
  target : ℤ

/-- The odometer of a wheel after a history.  A reset keeps what the wheel was sent so far, a new
target takes the place of the old one. -/
def odometer (wheel : Wheel) : History (robot K) → Odometer
  | [] => ⟨0, 0⟩
  | .command (.setMode (.drive w) .STOP_AND_RESET_ENCODER) :: h =>
      if w = wheel then ⟨(odometer wheel h).base + (odometer wheel h).target, 0⟩
      else odometer wheel h
  | .command (.setTargetPosition (.drive w) position) :: h =>
      if w = wheel then ⟨(odometer wheel h).base, position⟩ else odometer wheel h
  | _ :: h => odometer wheel h

/-- Where the wheels have been sent, in ticks from where they stood at first. -/
def sent (h : History (robot K)) (wheel : Wheel) : ℤ :=
  (odometer wheel h).base + (odometer wheel h).target

/-- An event that the odometers do not see. -/
def Unmetered (e : Event (robot K)) : Prop :=
  ∀ wheel h, odometer wheel (e :: h) = odometer wheel h

@[simp] lemma unmetered_answer (q : Query) (a : Query.Answer K q) :
    Unmetered (.answer q a : Event (robot K)) := fun _ _ => rfl

lemma Passive.unmetered {e : Event (robot K)} (he : Passive e) : Unmetered e := by
  intro wheel h
  cases e with
  | answer q a => rfl
  | command c =>
      cases c with
      | setMode motor mode => exact he.elim
      | setTargetPosition motor position => exact he.elim
      | _ => rfl

@[simp] lemma unmetered_setPower (motor : Motor) (power : K) :
    Unmetered (.command (.setPower motor power) : Event (robot K)) := fun _ _ => rfl

@[simp] lemma unmetered_setDirection (motor : Motor) (direction : Direction) :
    Unmetered (.command (.setDirection motor direction) : Event (robot K)) := fun _ _ => rfl

@[simp] lemma unmetered_setPosition (servo : Servo) (position : K) :
    Unmetered (.command (.setPosition servo position) : Event (robot K)) := fun _ _ => rfl

@[simp] lemma unmetered_addData (caption : String) (value : Shown K) :
    Unmetered (.command (.addData caption value) : Event (robot K)) := fun _ _ => rfl

@[simp] lemma unmetered_updateTelemetry :
    Unmetered (.command .updateTelemetry : Event (robot K)) := fun _ _ => rfl

@[simp] lemma unmetered_pitchTarget (position : ℤ) :
    Unmetered (.command (.setTargetPosition .pitchMotor position) : Event (robot K)) :=
  fun _ _ => rfl

@[simp] lemma unmetered_setMode {motor : Motor} {mode : RunMode}
    (hmode : mode ≠ .STOP_AND_RESET_ENCODER) :
    Unmetered (.command (.setMode motor mode) : Event (robot K)) := by
  intro wheel h
  cases motor <;> cases mode <;> first | rfl | exact absurd rfl hmode

lemma Unmetered.sent_eq {e : Event (robot K)} (he : Unmetered e) (h : History (robot K)) :
    sent (e :: h) = sent h := by
  funext wheel
  rw [sent, sent, he wheel h]

lemma keeps_sent {α : Type} {env : Environment (robot K)} {p : RobotProgram K α}
    (hp : Emits Unmetered p) (v : Wheel → ℤ) : Keeps env (fun h => sent h = v) p :=
  (hp.mono fun _ he => he.sent_eq).keeps_reading v

/-! ## Statements as steps of a course -/

/-- The step of a statement, with the displacement that `f` has for a move. -/
def Statement.course {V : Type} (f : Heading → K → V) :
    Statement K → List (Step V (Servo × K))
  | .moveRTP direction _ distance =>
      match Heading.ofString direction with
      | some heading => [.move (f heading distance)]
      | none => []
  | .setPosition servo position => [.act (servo, position)]
  | _ => []

/-- The course of a line of statements. -/
def course {V : Type} (f : Heading → K → V) (script : List (Statement K)) :
    List (Step V (Servo × K)) :=
  script.flatMap (Statement.course f)

/-- The number of moves in it. -/
def calls (script : List (Statement K)) : ℕ := moves (course (fun _ _ => ()) script)

/-- How many moves there are does not depend on where they lead. -/
lemma moves_course {V : Type} (f : Heading → K → V) (script : List (Statement K)) :
    moves (course f script) = calls script := by
  induction script with
  | nil => rfl
  | cons s rest ih =>
      have hone : moves (s.course f) = moves (s.course fun _ _ => ()) := by
        cases s with
        | moveRTP direction maxSpeed distance =>
            simp only [Statement.course]
            cases Heading.ofString direction <;> rfl
        | _ => rfl
      rw [calls, course, course, List.flatMap_cons, List.flatMap_cons, moves_append, moves_append,
        hone]
      exact congrArg _ ih

lemma displacement_course {V : Type} [AddMonoid V] (f : Heading → K → V)
    (script : List (Statement K)) :
    displacement (course f script) = (script.map fun s => displacement (s.course f)).sum := by
  induction script with
  | nil => rfl
  | cons s rest ih =>
      rw [course, List.flatMap_cons, displacement_append, List.map_cons, List.sum_cons, ← ih]
      rfl

/-! ## What a statement sends the wheels -/

section Sent

variable [Field K] [LinearOrder K] [FloorRing K] {env : Environment (robot K)}
  (hw : HardwareDesignosaurs K) (fuel : ℕ)

/-- After its first two blocks `moveRTP` has sent the wheels its targets, if it knows the
direction, and nowhere if it does not. -/
lemma wp_prepare_sent (direction : StringRef) (maxSpeed distance : K) (h : History (robot K)) :
    wp env (prepare hw direction distance)
      (fun _ h' => sent h'
        = sent h
          + displacement ((Statement.moveRTP direction maxSpeed distance).course (target hw)))
      (fun _ => False) h := by
  simp only [prepare, setTargets, Statement.course]
  cases Heading.ofString direction with
  | none =>
      simp only [resetEncoders, ElapsedTime.reset, ElapsedTime.time, wp_bind, wp_command, wp_ask,
        wp_done, wp_pure, displacement, add_zero]
      funext wheel
      cases wheel <;> simp [sent, odometer]
  | some heading =>
      simp only [resetEncoders, setTargetPos, ElapsedTime.reset, ElapsedTime.time, wp_bind,
        wp_command, wp_ask, wp_done, wp_pure, displacement, add_zero]
      funext wheel
      cases wheel <;> simp [sent, odometer, target]

omit [FloorRing K] in
/-- After that it sends them nowhere. -/
lemma emits_driveLoop_unmetered (d : DriveLoop K) (time : ElapsedTime) :
    Emits Unmetered (do let _ ← driveLoop d time fuel; settleAndStop fuel : RobotProgram K _) := by
  refine emits_bind ?_ fun _ => ?_
  · exact emits_whileLoop (emits_driveGuard (by simp) (by simp))
      (emits_driveBody (fun _ he => he.passive.unmetered) (by simp) (by simp) d time) fuel _
  · exact emits_settleAndStop (fun _ he => he.passive.unmetered) (by simp) (by simp) fuel

/-- **A statement sends the wheels its own targets further**, however long its loops go on. -/
theorem wp_statement_sent (statement : Statement K) (time : ElapsedTime) (h : History (robot K)) :
    wp env (statement.program hw fuel time)
      (fun _ h' => sent h' = sent h + displacement (statement.course (target hw)))
      (fun h' => sent h' = sent h + displacement (statement.course (target hw))) h := by
  have hkeeps : ∀ {α : Type} {p : RobotProgram K α}, Emits Unmetered p →
      wp env p (fun _ h' => sent h' = sent h + 0) (fun h' => sent h' = sent h + 0) h := by
    intro α p hp
    rw [add_zero]
    exact keeps_sent hp _ h rfl
  cases statement with
  | moveRTP direction maxSpeed distance =>
      refine wp_seq (wp_mono (fun _ _ => id) (fun _ => False.elim)
        (wp_prepare_sent hw direction maxSpeed distance h)) fun s h₁ hh₁ => ?_
      exact keeps_sent (emits_driveLoop_unmetered fuel _ s.1) _ h₁ hh₁
  | setPosition servo position => exact hkeeps (by simp [Statement.program])
  | shutdownTfod =>
      refine hkeeps ⟨Passive.unmetered ?_, trivial⟩
      trivial
  | _ =>
      refine hkeeps ((Statement.emits_waiting hw fuel time _ ?_).mono
        fun _ he => he.passive.unmetered)
      trivial

end Sent

/-! ## The plan -/

section Plan

variable [Field K] [LinearOrder K] (hw : HardwareDesignosaurs K)

/-- The displacement that a move is meant to be: inches forward, and inches to the right. -/
def planned : Heading → K → K × K
  | .forward, distance => (distance, 0)
  | .backward, distance => (-distance, 0)
  | .right, distance => (0, distance)
  | .left, distance => (0, -distance)

/-- The inches forward that turns of the wheels stand for. -/
def forwardInches : (Wheel → K) →+ K where
  toFun v := (unmix v).forward * hw.encoderTicksPerInch
  map_zero' := by simp [unmix]
  map_add' v w := by
    simp only [unmix, Pi.add_apply]
    ring

/-- The inches to the right. -/
def strafeInches : (Wheel → K) →+ K where
  toFun v := (unmix v).strafe * (hw.encoderTicksPerInch / hw.sideBias)
  map_zero' := by simp [unmix]
  map_add' v w := by
    simp only [unmix, Pi.add_apply]
    ring

/-- The ticks of rotation. -/
def rotateTicks : (Wheel → K) →+ K where
  toFun v := (unmix v).rotate
  map_zero' := by simp [unmix]
  map_add' v w := by
    simp only [unmix, Pi.add_apply]
    ring

/-- Tick counts of the wheels, in the number type of the coordinates. -/
def ticks : (Wheel → ℤ) →+ (Wheel → K) := (Int.castAddHom K).compLeft Wheel

/-- The turns of the wheels are those of the plan up to `τ` ticks a move, for the rotation, and `τ`
and a half for the other two components. -/
structure NearPlan (τ : K) (turned : Wheel → K) (script : List (Statement K)) : Prop where
  rotate : |rotateTicks turned| ≤ calls script * τ
  forward : |forwardInches hw turned - (displacement (course planned script)).1|
    ≤ calls script * ((τ + 1 / 2) * hw.encoderTicksPerInch)
  strafe : |strafeInches hw turned - (displacement (course planned script)).2|
    ≤ calls script * ((τ + 1 / 2) * (hw.encoderTicksPerInch / hw.sideBias))

/-- A distance that is not negative, in ticks that fit in an `int`. -/
def Statement.Fits [FloorRing K] : Statement K → Prop
  | .moveRTP direction _ distance => ∀ heading, Heading.ofString direction = some heading →
      0 ≤ distance ∧ TicksFit hw heading distance
  | _ => True

/-- The exact ticks of a move are its inches. -/
lemma exact_eq_planned (leg : Leg K) :
    (leg.exact hw).forward * hw.encoderTicksPerInch = (planned leg.heading leg.distance).1
      ∧ (leg.exact hw).strafe * (hw.encoderTicksPerInch / hw.sideBias)
        = (planned leg.heading leg.distance).2 := by
  have hticks := hw.encoderTicksPerInch_pos.ne'
  have hbias := hw.sideBias_pos.ne'
  obtain ⟨heading, distance⟩ := leg
  cases heading <;> simp only [Leg.exact, planned, reach, Heading.strafes, encDist] <;>
    constructor <;> simp <;> field_simp

variable [FloorRing K] [IsStrictOrderedRing K]

variable {hw}

/-- One move: its four targets turn nothing, and are worth its inches up to half a tick. -/
lemma target_near {heading : Heading} {distance : K} (h0 : 0 ≤ distance)
    (hfit : TicksFit hw heading distance) :
    rotateTicks (ticks (target hw heading distance) : Wheel → K) = 0
      ∧ |forwardInches hw (ticks (target hw heading distance)) - (planned heading distance).1|
        ≤ 1 / 2 * hw.encoderTicksPerInch
      ∧ |strafeInches hw (ticks (target hw heading distance)) - (planned heading distance).2|
        ≤ 1 / 2 * (hw.encoderTicksPerInch / hw.sideBias) := by
  have hagrees : AgreesWithMixer hw ⟨heading, distance⟩ := agreesWithMixer h0 hfit
  obtain ⟨hforward, hstrafe⟩ := exact_eq_planned hw ⟨heading, distance⟩
  obtain ⟨hnear, hnear'⟩ := hagrees.error
  have hside : 0 < hw.encoderTicksPerInch / hw.sideBias :=
    div_pos hw.encoderTicksPerInch_pos hw.sideBias_pos
  refine ⟨hagrees.1, ?_, ?_⟩
  · rw [← hforward]
    show |(Leg.image hw ⟨heading, distance⟩).forward * hw.encoderTicksPerInch - _| ≤ _
    rw [← sub_mul, abs_mul, abs_of_pos hw.encoderTicksPerInch_pos]
    exact mul_le_mul_of_nonneg_right hnear hw.encoderTicksPerInch_pos.le
  · rw [← hstrafe]
    show |(Leg.image hw ⟨heading, distance⟩).strafe * (hw.encoderTicksPerInch / hw.sideBias) - _|
      ≤ _
    rw [← sub_mul, abs_mul, abs_of_pos hside]
    exact mul_le_mul_of_nonneg_right hnear' hside.le

omit [IsStrictOrderedRing K] in
/-- Two readings of a script that are near each other move by move. -/
lemma course_shadows {V W : Type} {φ : V → K} {ψ : W → K} {c : K} {f : Heading → K → V}
    {g : Heading → K → W} {script : List (Statement K)} (hfits : ∀ s ∈ script, s.Fits hw)
    (hnear : ∀ heading distance, 0 ≤ distance → TicksFit hw heading distance →
      |φ (f heading distance) - ψ (g heading distance)| ≤ c) :
    List.Forall₂ (Shadows φ ψ c) (course f script) (course g script) := by
  induction script with
  | nil => exact .nil
  | cons s rest ih =>
      rw [List.forall_mem_cons] at hfits
      refine List.rel_append ?_ (ih hfits.2)
      cases s with
      | moveRTP direction maxSpeed distance =>
          have hfit := hfits.1
          simp only [Statement.Fits] at hfit
          simp only [Statement.course]
          cases hdirection : Heading.ofString direction with
          | none => exact .nil
          | some heading =>
              obtain ⟨h0, hticks⟩ := hfit heading hdirection
              exact .cons (.move (hnear heading distance h0 hticks)) .nil
      | setPosition servo position => exact .cons (.act _) .nil
      | _ => exact .nil

/-- **A script's targets are near its plan.** -/
theorem targets_near_plan {script : List (Statement K)} (hfits : ∀ s ∈ script, s.Fits hw) :
    NearPlan hw 0 (ticks (displacement (course (target hw) script))) script := by
  refine ⟨?_, ?_, ?_⟩
  · have hzero := displacement_near (φ := rotateTicks.comp ticks) (ψ := (0 : K × K →+ K)) (c := 0)
      (course_shadows (g := planned) hfits fun heading distance h0 hfit => by
        show |rotateTicks (ticks (target hw heading distance)) - 0| ≤ 0
        rw [(target_near h0 hfit).1, sub_zero, abs_zero])
    simpa [moves_course] using hzero
  · have hforward := displacement_near (φ := (forwardInches hw).comp ticks)
      (ψ := AddMonoidHom.fst K K) (course_shadows (g := planned) hfits
        fun heading distance h0 hfit => (target_near h0 hfit).2.1)
    rw [moves_course] at hforward
    rw [zero_add]
    exact hforward
  · have hstrafe := displacement_near (φ := (strafeInches hw).comp ticks)
      (ψ := AddMonoidHom.snd K K) (course_shadows (g := planned) hfits
        fun heading distance h0 hfit => (target_near h0 hfit).2.2)
    rw [moves_course] at hstrafe
    rw [zero_add]
    exact hstrafe

/-- Wheels that are each off by at most `e` ticks leave the robot off by no more. -/
lemma unmix_error {v : Wheel → K} {e : K} (hv : ∀ wheel, |v wheel| ≤ e) :
    |(unmix v).forward| ≤ e ∧ |(unmix v).strafe| ≤ e ∧ |(unmix v).rotate| ≤ e := by
  obtain ⟨hfr, hfr'⟩ := abs_le.mp (hv .frontRight)
  obtain ⟨hfl, hfl'⟩ := abs_le.mp (hv .frontLeft)
  obtain ⟨hbr, hbr'⟩ := abs_le.mp (hv .backRight)
  obtain ⟨hbl, hbl'⟩ := abs_le.mp (hv .backLeft)
  simp only [unmix, abs_le]
  refine ⟨⟨?_, ?_⟩, ⟨?_, ?_⟩, ?_, ?_⟩ <;> linarith

/-- **The error budget**, without the run: wheels that turned as the targets of the script say, up
to `τ` ticks a move, are near its plan. -/
theorem NearPlan.of_ticks {τ : K} {turned : Wheel → K} {script : List (Statement K)}
    (hfits : ∀ s ∈ script, s.Fits hw)
    (hturned : ∀ wheel,
      |(turned - ticks (displacement (course (target hw) script)) : Wheel → K) wheel|
        ≤ calls script * τ) : NearPlan hw τ turned script := by
  have htargets := targets_near_plan hfits
  obtain ⟨hforward, hstrafe, hrotate⟩ := unmix_error hturned
  have hticks := hw.encoderTicksPerInch_pos
  have hside : 0 < hw.encoderTicksPerInch / hw.sideBias := div_pos hticks hw.sideBias_pos
  constructor
  · have hzero : |rotateTicks (ticks (displacement (course (target hw) script))) - (0 : K)|
        ≤ 0 := by
      simpa using htargets.rotate
    have hnear : |rotateTicks turned - (0 : K)| ≤ calls script * τ + 0 :=
      near_of_near (w := ticks (displacement (course (target hw) script))) hrotate hzero
    simpa using hnear
  · have herror : |forwardInches hw (turned - ticks (displacement (course (target hw) script)))|
        ≤ calls script * τ * hw.encoderTicksPerInch := by
      show |(unmix (turned - _)).forward * _| ≤ _
      rw [abs_mul, abs_of_pos hticks]
      exact mul_le_mul_of_nonneg_right hforward hticks.le
    refine (near_of_near herror htargets.forward).trans_eq ?_
    ring
  · have herror : |strafeInches hw (turned - ticks (displacement (course (target hw) script)))|
        ≤ calls script * τ * (hw.encoderTicksPerInch / hw.sideBias) := by
      show |(unmix (turned - _)).strafe * _| ≤ _
      rw [abs_mul, abs_of_pos hside]
      exact mul_le_mul_of_nonneg_right hstrafe hside.le
    refine (near_of_near herror htargets.strafe).trans_eq ?_
    ring

end Plan

/-! ## Runs -/

section Commanded

variable [Field K] [LinearOrder K] [FloorRing K] {env : Environment (robot K)}
  {hw : HardwareDesignosaurs K} {fuel : ℕ} {auto rest : Auto K} {runtime time : ElapsedTime}
  {h start : History (robot K)} {past : List (Statement K)}

/-- What a program has in every statement, it has in those it executes. -/
lemma Executes.holds {P : Statement K → Prop} {statement : Statement K}
    (hexec : Executes env hw fuel auto runtime h statement time start) (hevery : auto.Every P) :
    P statement := by
  induction hexec with
  | here => exact hevery.1
  | later _ _ ih => exact ih hevery.2
  | seen _ _ ih => exact ih (hevery _)

/-- **Every call sends the robot along its direction.**  In every run of every program whose moves
fit, what each executed `moveRTP` sends the four wheels, whether it returns or is cut, is by the
mixer of the TeleOp a motion along its direction, without rotation or drift, and within half a tick
of its distance. -/
theorem executed_moveRTP_agrees [IsStrictOrderedRing K] {direction : StringRef} {heading : Heading}
    {maxSpeed distance : K} (hfits : auto.Every (Statement.Fits hw))
    (hdirection : Heading.ofString direction = some heading)
    (hexec : Executes env hw fuel auto runtime h (.moveRTP direction maxSpeed distance) time
      start) :
    unmix (ticks (sent (Program.run env (moveRTP hw fuel direction maxSpeed distance) start).2
        - sent start)) = Leg.image hw ⟨heading, distance⟩
      ∧ AgreesWithMixer hw ⟨heading, distance⟩ := by
  obtain ⟨h0, hfit⟩ := hexec.holds hfits heading hdirection
  have hcall : wp env (moveRTP hw fuel direction maxSpeed distance) _ _ start :=
    wp_statement_sent hw fuel (.moveRTP direction maxSpeed distance) time start
  have hsent : sent (Program.run env (moveRTP hw fuel direction maxSpeed distance) start).2
      = sent start + target hw heading distance := by
    have hfinal := wp_final hcall
    simpa [Statement.course, hdirection, displacement] using hfinal
  refine ⟨?_, agreesWithMixer h0 hfit⟩
  rw [hsent, add_sub_cancel_left]
  rfl

/-- Wherever a run comes, the wheels have been sent the targets of its statements. -/
lemma Reaches.sent_eq (hreach : Reaches env hw fuel auto runtime h past rest time start) :
    sent start = sent h + displacement (course (target hw) past) := by
  rw [displacement_course]
  refine hreach.total (fun s time h => ?_) fun e h he => he.unmetered.sent_eq h
  exact wp_mono (fun _ _ => id) (fun _ _ => trivial) (wp_statement_sent hw fuel s time h)

variable [IsStrictOrderedRing K]

/-- So they are near the plan. -/
lemma Reaches.near_plan (hfits : auto.Every (Statement.Fits hw))
    (hreach : Reaches env hw fuel auto runtime h past rest time start) :
    NearPlan hw 0 (ticks (sent start - sent h)) past := by
  refine NearPlan.of_ticks (hreach.every hfits) fun wheel => ?_
  rw [hreach.sent_eq, add_sub_cancel_left, sub_self, Pi.zero_apply, abs_zero, mul_zero]

/-- **Commands follow the plan.**  In every run of every program whose moves fit, whatever is
answered, each time a statement ends the wheels have been sent the targets of the statements so far,
through all the resets of their encoders; the robot has not been turned by them, and it has been
sent to where the plan of these statements leads, up to half a tick a move forward and sideways. -/
theorem commanded_pose_near_plan (hfits : auto.Every (Statement.Fits hw))
    (hreach : Reaches env hw fuel auto runtime h past rest time start) :
    sent start = sent h + displacement (course (target hw) past)
    ∧ rotateTicks (ticks (sent start - sent h) : Wheel → K) = 0
    ∧ |forwardInches hw (ticks (sent start - sent h)) - (displacement (course planned past)).1|
      ≤ calls past * (1 / 2 * hw.encoderTicksPerInch)
    ∧ |strafeInches hw (ticks (sent start - sent h)) - (displacement (course planned past)).2|
      ≤ calls past * (1 / 2 * (hw.encoderTicksPerInch / hw.sideBias)) := by
  obtain ⟨hrotate, hforward, hstrafe⟩ := hreach.near_plan hfits
  rw [mul_zero] at hrotate
  rw [zero_add] at hforward hstrafe
  exact ⟨hreach.sent_eq, abs_nonpos_iff.mp hrotate, hforward, hstrafe⟩

end Commanded

/-- On the robot of the source, the moves of a sound program fit. -/
lemma Statement.Sound.fits {s : Statement ℝ} (hsound : s.Sound) : s.Fits designosaurs := by
  cases s with
  | moveRTP direction maxSpeed distance =>
      obtain ⟨-, -, h0, hle⟩ := hsound
      exact fun heading _ => ⟨h0, designosaurs_ticksFit heading h0 (by linarith)⟩
  | _ => trivial

/-- The statements of `MoveRTPTest`. -/
noncomputable def squareScript : List (Statement ℝ) := [
  .moveRTP (.literal "forward") 0.4 10.0, .moveRTP (.literal "left") 0.4 10.0,
  .moveRTP (.literal "backward") 0.4 10.0, .moveRTP (.literal "right") 0.4 10.0]

/-- A run goes through them. -/
lemma reaches_square : ∃ time finish, Reaches promptRobot designosaurs 1
    (MoveRTPTest.body ()) ⟨0⟩ [] squareScript .done time finish :=
  ⟨_, _, .later rfl (.later rfl (.later rfl (.later rfl .here)))⟩

lemma square_fits : (MoveRTPTest.body () : Auto ℝ).Every (Statement.Fits designosaurs) :=
  have hop : MoveRTPTest ∈ opModes (K := ℝ) := by simp [opModes]
  (opModes_sound hop ()).mono fun _ => Statement.Sound.fits

/-- The plan of the square leads back, so the wheels have been sent back up to half a tick a
move. -/
theorem square_commanded : ∃ time finish, Reaches promptRobot designosaurs 1
      (MoveRTPTest.body ()) ⟨0⟩ [] squareScript .done time finish
    ∧ |forwardInches designosaurs (ticks (sent finish - sent ([] : History (robot ℝ))))|
      ≤ 4 * (1 / 2 * designosaurs.encoderTicksPerInch) := by
  obtain ⟨time, finish, hreach⟩ := reaches_square
  obtain ⟨-, -, hforward, -⟩ := commanded_pose_near_plan square_fits hreach
  have hplan : displacement (course planned squareScript) = 0 := by
    simp [squareScript, course, Statement.course, Heading.ofString, displacement, planned]
  have hcalls : calls squareScript = 4 := by
    simp [squareScript, calls, course, Statement.course, Heading.ofString, moves]
  rw [hplan, hcalls, Prod.fst_zero, sub_zero] at hforward
  exact ⟨time, finish, hreach, by exact_mod_cast hforward⟩

section Delivered

variable [Field K] [LinearOrder K] [FloorRing K] [IsStrictOrderedRing K]
  {env : Environment (robot K)} {hw : HardwareDesignosaurs K} {fuel : ℕ} {auto rest : Auto K}
  {runtime time : ElapsedTime} {h start : History (robot K)} {past : List (Statement K)}

/-- `turned` is how far the wheels have really turned, in ticks: each move of the run makes good
what its targets say, up to `τ` ticks on each wheel, and nothing else turns them. -/
structure Delivers (env : Environment (robot K)) (hw : HardwareDesignosaurs K) (fuel : ℕ)
    (turned : History (robot K) → Wheel → K) (τ : K) (auto : Auto K) (runtime : ElapsedTime)
    (h : History (robot K)) : Prop where
  statement : ∀ past (s : Statement K) next time start finish h',
    Reaches env hw fuel auto runtime h past (.step s next) time start →
    Program.run env (s.program hw fuel time) start = (some finish, h') →
    ∀ wheel, |(turned h' - turned start - ticks (displacement (s.course (target hw))) :
      Wheel → K) wheel| ≤ calls [s] * τ
  look : ∀ past classifier tfod next time start pos h',
    Reaches env hw fuel auto runtime h past (.detect classifier tfod next) time start →
    Program.run env (classifier.detect tfod 0) start = (some pos, h') → turned h' = turned start

/-- What the wheels turned on a run, as the targets of its statements say. -/
lemma Delivers.turned_near {turned : History (robot K) → Wheel → K} {τ : K}
    (hdelivers : Delivers env hw fuel turned τ auto runtime h)
    (hreach : Reaches env hw fuel auto runtime h past rest time start) (wheel : Wheel) :
    |(turned start - turned h - ticks (displacement (course (target hw) past)) : Wheel → K) wheel|
      ≤ calls past * τ := by
  induction hreach with
  | here => simp [course, displacement, calls, moves]
  | @later first next rest past runtime runtime' time h h' start hrun hreach ih =>
      have hfirst := hdelivers.statement [] first next runtime h runtime' h' .here hrun wheel
      have hnext := ih
        ⟨fun past s n t g f g' hr => hdelivers.statement _ s n t g f g' (.later hrun hr),
          fun past c b n t g p g' hr => hdelivers.look _ c b n t g p g' (.later hrun hr)⟩
      have hcalls : calls (first :: past) = calls [first] + calls past := by
        rw [calls, course, List.flatMap_cons, moves_append]
        simp [calls, course]
      have hcourse : displacement (course (target hw) (first :: past))
          = displacement (first.course (target hw)) + displacement (course (target hw) past) := by
        rw [course, List.flatMap_cons, displacement_append]
        rfl
      rw [hcalls, hcourse, Nat.cast_add, add_mul]
      have hsplit : turned start - turned h
            - ticks (displacement (first.course (target hw))
              + displacement (course (target hw) past))
          = (turned h' - turned h - ticks (displacement (first.course (target hw))) : Wheel → K)
            + (turned start - turned h' - ticks (displacement (course (target hw) past))) := by
        rw [map_add]
        abel
      rw [hsplit, Pi.add_apply]
      exact (abs_add_le _ _).trans (add_le_add hfirst hnext)
  | @seen classifier tfod pos next rest past runtime time h h' start hrun hreach ih =>
      have hlook := hdelivers.look [] classifier tfod next runtime h pos h' .here hrun
      rw [← hlook]
      exact ih ⟨fun past s n t g f g' hr => hdelivers.statement _ s n t g f g' (.seen hrun hr),
        fun past c b n t g p g' hr => hdelivers.look _ c b n t g p g' (.seen hrun hr)⟩

/-- **The error budget of a run.**  With wheels that make each move good up to `τ` ticks, the robot
is, each time a statement ends, where the plan leads, up to `τ` and a half ticks a move forward and
sideways, and turned by at most `τ` ticks a move. -/
theorem delivered_pose_near_plan {turned : History (robot K) → Wheel → K} {τ : K}
    (hfits : auto.Every (Statement.Fits hw))
    (hdelivers : Delivers env hw fuel turned τ auto runtime h)
    (hreach : Reaches env hw fuel auto runtime h past rest time start) :
    NearPlan hw τ (turned start - turned h) past :=
  NearPlan.of_ticks (hreach.every hfits) (hdelivers.turned_near hreach)

/-- Ideal wheels turn as far as they are sent. -/
lemma delivers_sent : Delivers env hw fuel (fun h => ticks (sent h)) 0 auto runtime h
    where
  statement past s next time start finish h' _ hrun wheel := by
    have hsent := wp_returns (wp_statement_sent hw fuel s time start) hrun
    have hzero : (ticks (sent h') - ticks (sent start)
        - ticks (displacement (s.course (target hw))) : Wheel → K) = 0 := by
      rw [hsent, map_add, add_sub_cancel_left, sub_self]
    rw [hzero, Pi.zero_apply, abs_zero, mul_zero]
  look past classifier tfod next time start pos h' _ hrun := by
    have hpassive := (classifier.emits_detect tfod 0).mono fun _ => Passive.unmetered
    exact congrArg ticks ((keeps_sent hpassive _).returns rfl hrun)

end Delivered

/-- On the square they bring the robot back to within two ticks. -/
theorem square_delivered : ∃ time finish, Reaches promptRobot designosaurs 1
      (MoveRTPTest.body ()) ⟨0⟩ [] squareScript .done time finish
    ∧ NearPlan designosaurs 0 (ticks (sent finish) - ticks (sent ([] : History (robot ℝ))))
        squareScript := by
  obtain ⟨time, finish, hreach⟩ := reaches_square
  exact ⟨time, finish, hreach, delivered_pose_near_plan square_fits delivers_sent hreach⟩

end Designosaurs
