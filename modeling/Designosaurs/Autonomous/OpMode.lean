import Designosaurs.Drive.MoveRTP
import Designosaurs.Vision.Classifier

/-!
# The autonomous op modes

An autonomous op mode is a straight line of statements, with one look at the camera in the skystone
programs.  `Statement` lists the kinds of statement the team wrote, `Auto` strings them together,
and `OpMode` adds what comes before: the code up to `Robot.init`, which touches no motor.

The eight op modes of the source are at the end.  Results about all of them, and about every other
program one could write with these statements, are by induction on `Auto`.
-/

namespace Designosaurs

open Interact

variable {K : Type}

/-! ## Before the start -/

/-- What the skystone op modes do before `Robot.init`; the answer is whether there is a detector. -/
def initVision : RobotProgram K Bool := do
  let tfod ← canCreateTFObjectDetector
  Program.when (tfod = false) (addData "Sorry!" (.text "incompatible hardware."))
  Program.when (tfod = true) (Program.issue Command.activateTfod)
  addData ">" (.text "TFOD Scanning:")
  updateTelemetry
  waitForStart
  return tfod

lemma emits_initVision : Emits Passive (initVision : RobotProgram K Bool) := by
  simp [initVision, Program.when]

/-! ## Statements -/

/-- A statement of `runOpMode`; the robot, the op mode and the shared timer `runtime` are left
implicit. -/
inductive Statement (K : Type) where
  /-- `Robot.moveRTP(direction, maxSpeed, distance, Robot, this, runtime)` -/
  | moveRTP (direction : StringRef) (maxSpeed distance : K)
  /-- `Robot.servo.setPosition(position)` -/
  | setPosition (servo : Servo) (position : K)
  /-- `runtime.reset()`, then wait until `runtime` shows `millis` -/
  | waitAfterReset (millis : ℤ)
  /-- wait until `runtime` is `millis` away from what it shows now -/
  | waitDifference (millis : ℤ)
  /-- wait until the clock is `seconds` past `matchStartTime` -/
  | hold (matchStartTime seconds : ℤ) (caption : String)
  /-- `tfod.shutdown()` -/
  | shutdownTfod

variable [Field K] [LinearOrder K]

/-- The calls a statement makes.  It is given the shared timer, and returns it. -/
def Statement.program [FloorRing K] (hw : HardwareDesignosaurs K) (fuel : ℕ) :
    Statement K → ElapsedTime → RobotProgram K ElapsedTime
  | .moveRTP direction maxSpeed distance, _ =>
      Designosaurs.moveRTP hw fuel direction maxSpeed distance
  | .setPosition servo position, runtime => do
      Designosaurs.setPosition servo position
      return runtime
  | .waitAfterReset millis, _ => do
      let runtime ← ElapsedTime.reset
      waitWhile (runtime.timeIn .MILLISECONDS) millis
        (showReading "time elapsed" (runtime.timeIn .MILLISECONDS)) fuel
      return runtime
  | .waitDifference millis, runtime => do
      let startTime ← runtime.timeIn .MILLISECONDS
      waitWhile (do return |(← runtime.timeIn .MILLISECONDS) - startTime|) millis
        (showReading "time elapsed" (runtime.timeIn .MILLISECONDS)) fuel
      return runtime
  | .hold matchStartTime seconds caption, runtime => do
      waitWhile (do return (← ElapsedTime.now .SECONDS) - matchStartTime) seconds
        (showReading caption do return 30 - (← runtime.timeIn .SECONDS)) fuel
      return runtime
  | .shutdownTfod, runtime => do
      Program.issue Command.shutdownTfod
      return runtime

/-- The statement is one of the three waits. -/
def Statement.IsWait : Statement K → Prop
  | .waitAfterReset _ => True
  | .waitDifference _ => True
  | .hold _ _ _ => True
  | _ => False

/-- A wait does nothing but wait. -/
lemma Statement.emits_waiting [FloorRing K] (hw : HardwareDesignosaurs K) (fuel : ℕ)
    (runtime : ElapsedTime) (statement : Statement K) (hwait : statement.IsWait) :
    Emits Waiting (statement.program hw fuel runtime) := by
  cases statement with
  | waitAfterReset millis =>
      refine emits_bind (by simp [ElapsedTime.reset, Waiting]) fun runtime =>
        emits_bind (Designosaurs.emits_waiting ?_ ?_ _ _ fuel) fun _ => trivial
      · simp [ElapsedTime.timeIn, Waiting]
      · simp [ElapsedTime.timeIn, Waiting]
  | waitDifference millis =>
      refine emits_bind (by simp [ElapsedTime.timeIn, Waiting]) fun start =>
        emits_bind (Designosaurs.emits_waiting ?_ ?_ _ _ fuel) fun _ => trivial
      · simp [ElapsedTime.timeIn, Waiting]
      · simp [ElapsedTime.timeIn, Waiting]
  | hold matchStartTime seconds caption =>
      refine emits_bind (Designosaurs.emits_waiting ?_ ?_ _ _ fuel) fun _ => trivial
      · simp [ElapsedTime.now, Waiting]
      · simp [ElapsedTime.timeIn, Waiting]
  | _ => exact hwait.elim

/-- No statement but `moveRTP` gives a drive motor a power. -/
lemma Statement.emits_program [FloorRing K] (hw : HardwareDesignosaurs K) (fuel : ℕ)
    (runtime : ElapsedTime) (statement : Statement K)
    (hne : ∀ direction maxSpeed distance, statement ≠ .moveRTP direction maxSpeed distance) :
    Emits Unpowered (statement.program hw fuel runtime) := by
  cases statement with
  | moveRTP direction maxSpeed distance => exact absurd rfl (hne direction maxSpeed distance)
  | setPosition servo position => simp [program]
  | shutdownTfod => simp [program]
  | _ =>
      refine (Statement.emits_waiting hw fuel runtime _ ?_).mono fun _ he => he.passive.unpowered
      trivial

/-! ## Programs -/

/-- What an op mode does after `Robot.init`. -/
inductive Auto (K : Type) where
  | done
  | step (statement : Statement K) (next : Auto K)
  /-- the block that looks at the camera, and what comes after it for each value of `pos` -/
  | detect (classifier : Classifier K) (tfod : Bool) (next : ℕ → Auto K)

namespace Auto

/-- Statements one after another. -/
def steps (statements : List (Statement K)) (next : Auto K) : Auto K :=
  statements.foldr step next

/-- The calls of a program. -/
def program [FloorRing K] (hw : HardwareDesignosaurs K) (fuel : ℕ) :
    Auto K → ElapsedTime → RobotProgram K Unit
  | done, _ => return ()
  | step statement next, runtime => do
      let runtime ← statement.program hw fuel runtime
      program hw fuel next runtime
  | detect classifier tfod next, runtime => do
      let pos ← classifier.detect tfod 0
      program hw fuel (next pos) runtime

end Auto

/-- In the run of a program from a timer and a history, `statement` begins at another timer and
history. -/
inductive Executes [FloorRing K] (env : Environment (robot K)) (hw : HardwareDesignosaurs K)
    (fuel : ℕ) :
    Auto K → ElapsedTime → History (robot K) → Statement K → ElapsedTime → History (robot K) → Prop
  where
  | here {statement : Statement K} {next : Auto K} {runtime : ElapsedTime} {h : History (robot K)} :
      Executes env hw fuel (.step statement next) runtime h statement runtime h
  | later {first statement : Statement K} {next : Auto K} {runtime runtime' time : ElapsedTime}
      {h h' start : History (robot K)} :
      Program.run env (first.program hw fuel runtime) h = (some runtime', h') →
      Executes env hw fuel next runtime' h' statement time start →
      Executes env hw fuel (.step first next) runtime h statement time start
  | seen {classifier : Classifier K} {tfod : Bool} {pos : ℕ} {statement : Statement K}
      {next : ℕ → Auto K} {runtime time : ElapsedTime} {h h' start : History (robot K)} :
      Program.run env (classifier.detect tfod 0) h = (some pos, h') →
      Executes env hw fuel (next pos) runtime h' statement time start →
      Executes env hw fuel (.detect classifier tfod next) runtime h statement time start

/-- An autonomous op mode.  `setup` is its code before `Robot.init`, and `Memory` what that code
leaves in variables; it has no way to move the robot. -/
structure OpMode (K : Type) where
  Memory : Type
  setup : RobotProgram K Memory
  body : Memory → Auto K
  setup_passive : Emits Passive setup

/-- `runOpMode` up to and including `Robot.init`, with the field initialiser of `runtime` before
it. -/
def OpMode.start (op : OpMode K) : RobotProgram K (ElapsedTime × op.Memory) := do
  let runtime ← ElapsedTime.reset
  let memory ← op.setup
  init
  return (runtime, memory)

/-- `runOpMode` -/
def OpMode.runOpMode [FloorRing K] (hw : HardwareDesignosaurs K) (fuel : ℕ) (op : OpMode K) :
    RobotProgram K Unit := do
  let (runtime, memory) ← op.start
  (op.body memory).program hw fuel runtime

/-! ## The op modes of the source -/

/-- `ParkingAuto` -/
def ParkingAuto : OpMode K where
  Memory := Unit
  setup := waitForStart
  body _ := .steps [.moveRTP (.literal "left") 0.4 6.0] .done
  setup_passive := by simp

/-- `MoveRTPTest` -/
def MoveRTPTest : OpMode K where
  Memory := Unit
  setup := waitForStart
  body _ := .steps [
    .moveRTP (.literal "forward") 0.4 10.0,
    .moveRTP (.literal "left") 0.4 10.0,
    .moveRTP (.literal "backward") 0.4 10.0,
    .moveRTP (.literal "right") 0.4 10.0] .done
  setup_passive := by simp

/-- `BlueFoundationMove` -/
def BlueFoundationMove : OpMode K where
  Memory := ℤ
  setup := do
    waitForStart
    ElapsedTime.now .SECONDS
  body matchStartTime := .steps [
    .moveRTP (.literal "backward") 0.4 24.0,
    .moveRTP (.literal "right") 0.4 12.0,
    .moveRTP (.literal "backward") 0.15 10.0,
    .setPosition .foundationGripper 1,
    .waitDifference 500,
    .moveRTP (.literal "forward") 0.4 34.0,
    .setPosition .foundationGripper 0,
    .waitDifference 500,
    .hold matchStartTime 26 "time left:",
    .moveRTP (.literal "left") 0.4 36.0] .done
  setup_passive := by simp [ElapsedTime.now]

/-- `RedFoundationMove` -/
def RedFoundationMove : OpMode K where
  Memory := ℤ
  setup := do
    waitForStart
    ElapsedTime.now .SECONDS
  body matchStartTime := .steps [
    .moveRTP (.literal "backward") 0.4 24.0,
    .moveRTP (.literal "left") 0.4 12.0,
    .moveRTP (.literal "backward") 0.15 10.0,
    .setPosition .foundationGripper 1,
    .waitDifference 500,
    .moveRTP (.literal "forward") 0.4 34.0,
    .setPosition .foundationGripper 0,
    .waitDifference 500,
    .hold matchStartTime 26 "time right:",
    .moveRTP (.literal "right") 0.4 36.0] .done
  setup_passive := by simp [ElapsedTime.now]

/-- An `if` chain on `pos` that has one statement for each of its three values. -/
def byPos (pos : ℕ) (left middle right : Statement K) : List (Statement K) :=
  if pos = 0 then [left] else if pos = 1 then [middle] else if pos = 2 then [right] else []

/-- `if (tfod != null) tfod.shutdown()` -/
def shutdown (tfod : Bool) : List (Statement K) := if tfod then [.shutdownTfod] else []

/-- `BlueSkystoneAuto` -/
def BlueSkystoneAuto : OpMode K where
  Memory := Bool
  setup := initVision
  body tfod :=
    .steps [
      .moveRTP (.literal "backward") 0.4 18.5,
      .moveRTP (.literal "right") 0.4 5.0,
      .waitAfterReset 750] <|
    .detect BlueSkystoneAuto.classifier tfod fun pos =>
    .steps (
      byPos pos (.moveRTP (.literal "left") 1 7.5)
        (.moveRTP (.literal "left") 1 1.5)
        (.moveRTP (.literal "right") 1 5.5)
      ++ [.moveRTP (.literal "backward") 0.4 8.0,
        .setPosition .leftGripper 1,
        .waitAfterReset 500,
        .moveRTP (.literal "forward") 1 9.0]
      ++ byPos pos (.moveRTP (.literal "right") 0.5 43.0)
        (.moveRTP (.literal "right") 0.5 37.0)
        (.moveRTP (.literal "right") 0.3 32.5)
      ++ [.setPosition .leftGripper 0,
        .waitAfterReset 500]
      ++ byPos pos (.moveRTP (.literal "left") 0.5 (62.0 - 2.0))
        (.moveRTP (.literal "left") 1 (62.0 - 7.5))
        (.moveRTP (.literal "left") 0.5 (62.0 - 12.0))
      ++ [.moveRTP (.literal "backward") 0.2 9.0,
        .setPosition .leftGripper 1,
        .waitAfterReset 500,
        .moveRTP (.literal "forward") 1 8.0]
      ++ byPos pos (.moveRTP (.literal "right") 0.5 62.0)
        (.moveRTP (.literal "right") 0.5 56.0)
        (.moveRTP (.literal "right") 0.5 50.0)
      ++ [.setPosition .leftGripper 0,
        .waitAfterReset 450,
        .moveRTP (.literal "left") 1 12.0]
      ++ shutdown tfod) .done
  setup_passive := emits_initVision

/-- `RedSkystoneAuto` -/
def RedSkystoneAuto : OpMode K where
  Memory := Bool
  setup := initVision
  body tfod :=
    .steps [
      .moveRTP (.literal "backward") 0.4 18.5,
      .moveRTP (.literal "left") 0.4 1.5,
      .waitAfterReset 750] <|
    .detect RedSkystoneAuto.classifier tfod fun pos =>
    .steps (
      byPos pos (.moveRTP (.literal "right") 0.5 2.0)
        (.moveRTP (.literal "left") 0.5 5.0)
        (.moveRTP (.literal "left") 0.5 10.5)
      ++ [.moveRTP (.literal "backward") 0.4 8.0,
        .setPosition .rightGripper 0.05,
        .waitAfterReset 500,
        .moveRTP (.literal "forward") 1 9.0]
      ++ byPos pos (.moveRTP (.literal "left") 0.3 43.0)
        (.moveRTP (.literal "left") 0.3 37.0)
        (.moveRTP (.literal "left") 0.3 32.5)
      ++ [.setPosition .rightGripper 1,
        .waitAfterReset 500]
      ++ byPos pos (.moveRTP (.literal "right") 0.5 62.0)
        (.moveRTP (.literal "right") 0.5 (62.0 - 7.5))
        (.moveRTP (.literal "right") 0.5 (62.0 - 12.0))
      ++ [.moveRTP (.literal "backward") 0.2 7.0,
        .setPosition .rightGripper 0.05,
        .waitAfterReset 500,
        .moveRTP (.literal "forward") 1 8.0]
      ++ byPos pos (.moveRTP (.literal "left") 0.5 62.0)
        (.moveRTP (.literal "left") 0.5 56.0)
        (.moveRTP (.literal "left") 0.5 50.0)
      ++ [.setPosition .rightGripper 1,
        .waitAfterReset 450,
        .moveRTP (.literal "right") 1 12.0]
      ++ shutdown tfod) .done
  setup_passive := emits_initVision

/-- `BlueSkystoneAutoOneBlock` -/
def BlueSkystoneAutoOneBlock : OpMode K where
  Memory := Bool
  setup := initVision
  body tfod :=
    .steps [
      .moveRTP (.literal "backward") 0.4 18.5,
      .moveRTP (.literal "right") 0.4 5.0,
      .waitAfterReset 1000] <|
    .detect BlueSkystoneAutoOneBlock.classifier tfod fun pos =>
    .steps (
      byPos pos (.moveRTP (.literal "left") 1 7.25)
        (.moveRTP (.literal "left") 1 1.25)
        (.moveRTP (.literal "right") 1 4.75)
      ++ byPos pos (.moveRTP (.literal "backward") 0.4 11.25)
        (.moveRTP (.literal "backward") 0.4 11.5)
        (.moveRTP (.literal "backward") 0.4 11.75)
      ++ [.setPosition .leftGripper 1,
        .waitAfterReset 500,
        .moveRTP (.literal "forward") 1 9.0]
      ++ byPos pos (.moveRTP (.literal "right") 0.5 43.0)
        (.moveRTP (.literal "right") 0.5 37.0)
        (.moveRTP (.literal "right") 0.3 32.5)
      ++ [.setPosition .leftGripper 0,
        .waitAfterReset 500,
        .moveRTP (.literal "left") 1 15.0,
        .moveRTP (.literal "backward") 0.1 9.0]
      ++ shutdown tfod) .done
  setup_passive := emits_initVision

/-- `RedSkystoneAutoOneBlock` -/
def RedSkystoneAutoOneBlock : OpMode K where
  Memory := Bool
  setup := initVision
  body tfod :=
    .steps [
      .moveRTP (.literal "backward") 0.4 18.5,
      .moveRTP (.literal "left") 0.4 1.5,
      .waitAfterReset 1000] <|
    .detect RedSkystoneAutoOneBlock.classifier tfod fun pos =>
    .steps (
      byPos pos (.moveRTP (.literal "right") 0.2 1.95)
        (.moveRTP (.literal "left") 0.2 4.45)
        (.moveRTP (.literal "left") 0.2 10.0)
      ++ byPos pos (.moveRTP (.literal "backward") 0.2 11.7)
        (.moveRTP (.literal "backward") 0.2 11.7)
        (.moveRTP (.literal "backward") 0.2 11.55)
      ++ [.setPosition .rightGripper 0.05,
        .waitAfterReset 500,
        .moveRTP (.literal "forward") 0.2 9.0]
      ++ byPos pos (.moveRTP (.literal "left") 0.2 40.0)
        (.moveRTP (.literal "left") 0.2 34.0)
        (.moveRTP (.literal "left") 0.2 29.5)
      ++ [.setPosition .rightGripper 1,
        .waitAfterReset 500,
        .moveRTP (.literal "right") 0.2 12.0,
        .moveRTP (.literal "backward") 0.1 10.0]
      ++ shutdown tfod) .done
  setup_passive := emits_initVision

end Designosaurs
