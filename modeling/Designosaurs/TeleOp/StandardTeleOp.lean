import Designosaurs.TeleOp.Mixer
import Designosaurs.TeleOp.StickCurve

/-!
# `StandardTeleOp`

The driver-controlled op mode: `init` once, then `loop` on every snapshot of the two gamepads.
`loop` reads the sticks, shapes them with `square`, mixes them into the four wheel powers, and then
serves the grippers, the gear and the pitch motor.  The gear that divides the powers is the one the
previous iterations left: it is updated after the motors have been driven.
-/

namespace Designosaurs

open Interact

/-- The controls of one gamepad that the op mode reads. -/
structure Gamepad (K : Type) where
  leftStickX : K
  leftStickY : K
  rightStickX : K
  leftTrigger : K
  rightTrigger : K
  leftBumper : Bool
  rightBumper : Bool
  a : Bool
  b : Bool
  x : Bool
  y : Bool
  dpadUp : Bool
  dpadDown : Bool
  dpadLeft : Bool
  dpadRight : Bool

/-- A gamepad nobody touches. -/
def Gamepad.idle {K : Type} [Zero K] : Gamepad K where
  leftStickX := 0
  leftStickY := 0
  rightStickX := 0
  leftTrigger := 0
  rightTrigger := 0
  leftBumper := false
  rightBumper := false
  a := false
  b := false
  x := false
  y := false
  dpadUp := false
  dpadDown := false
  dpadLeft := false
  dpadRight := false

/-- The fields of the op mode that `loop` reads or writes. -/
structure StandardTeleOp where
  isLowGear : Bool
  pitchPos : ℤ
  liftPos : ℤ
  lastTime : ℤ
  deltaTime : ℤ

namespace StandardTeleOp

def pitchPosOne : ℤ := 0
def pitchPosTwo : ℤ := 324
def liftPosOne : ℤ := 0
def liftPosTwo : ℤ := 100
def liftPosThree : ℤ := 200
def liftPosFour : ℤ := 300

variable {K : Type} [Field K] [LinearOrder K]

/-- The wheel values mixed from the shaped sticks. -/
def mixedSticks (gamepad1 : Gamepad K) : Wheel → K :=
  mix (square (-gamepad1.leftStickY) power) (square gamepad1.leftStickX power)
    (square gamepad1.rightStickX power)

/-- The field initialisers, and `init()`. -/
def init : RobotProgram K StandardTeleOp := do
  let now ← ElapsedTime.now .MILLISECONDS
  Designosaurs.init
  addData "status: " (.text "Ready!")
  setMode .pitchMotor .STOP_AND_RESET_ENCODER
  setMode .liftMotor .STOP_AND_RESET_ENCODER
  setMode .pitchMotor .RUN_TO_POSITION
  setMode .liftMotor .RUN_WITHOUT_ENCODER
  return { isLowGear := false, pitchPos := 0, liftPos := 0, lastTime := now, deltaTime := 0 }

/-- The four `setPower` calls of the drive section. -/
def driveMotors (isLowGear : Bool) (gamepad1 : Gamepad K) : RobotProgram K Unit := do
  setPower (.drive .frontRight) (geared isLowGear (mixedSticks gamepad1) .frontRight)
  setPower (.drive .frontLeft) (geared isLowGear (mixedSticks gamepad1) .frontLeft)
  setPower (.drive .backRight) (geared isLowGear (mixedSticks gamepad1) .backRight)
  setPower (.drive .backLeft) (geared isLowGear (mixedSticks gamepad1) .backLeft)

/-- The telemetry of `loop`: six encoders. -/
def showEncoders : RobotProgram K Unit := do
  addData "lift enc" (.count (← getCurrentPosition .liftMotor))
  addData "pitch enc" (.count (← getCurrentPosition .pitchMotor))
  addData "fr" (.count (← getCurrentPosition (.drive .frontRight)))
  addData "fl" (.count (← getCurrentPosition (.drive .frontLeft)))
  addData "br" (.count (← getCurrentPosition (.drive .backRight)))
  addData "bl" (.count (← getCurrentPosition (.drive .backLeft)))
  updateTelemetry

def moveMainGripper (gamepad2 : Gamepad K) : RobotProgram K Unit := do
  Program.when gamepad2.rightBumper (setPosition .mainGripper 1)
  Program.when gamepad2.leftBumper (setPosition .mainGripper 0.25)

def moveLeftGripper (gamepad2 : Gamepad K) : RobotProgram K Unit :=
  if gamepad2.dpadUp then setPosition .leftGripper 0
  else Program.when gamepad2.dpadDown (setPosition .leftGripper 1)

def moveFoundationGripper (gamepad1 : Gamepad K) : RobotProgram K Unit :=
  if gamepad1.leftTrigger > 0.5 then setPosition .foundationGripper 0.7
  else Program.when (gamepad1.rightTrigger > 0.5) (setPosition .foundationGripper 0.9)

def moveCapstoneGripper (gamepad2 : Gamepad K) : RobotProgram K Unit :=
  if gamepad2.leftTrigger > 0.5 then setPosition .capstoneGripper 0
  else Program.when (gamepad2.rightTrigger > 0.5) (setPosition .capstoneGripper 1)

def movePitch (gamepad2 : Gamepad K) : RobotProgram K Unit := do
  (if gamepad2.y then setTargetPosition .pitchMotor 658
   else Program.when gamepad2.a (setTargetPosition .pitchMotor 0))
  Program.when gamepad2.x (setTargetPosition .pitchMotor 724)
  Program.when gamepad2.b (setTargetPosition .pitchMotor 1071)

/-- The power of the pitch motor.  The encoder is read a second time only when the first
comparison fails. -/
def powerPitch : RobotProgram K Unit := do
  if (← getCurrentPosition .pitchMotor) < 456 then
    setPower .pitchMotor 0.5
  else if (← getCurrentPosition .pitchMotor) > 800 then
    setPower .pitchMotor 0.5
  else
    setPower .pitchMotor 0.1

/-- One call of `loop()`. -/
def loop (gamepad1 gamepad2 : Gamepad K) (s : StandardTeleOp) : RobotProgram K StandardTeleOp := do
  let nowTime ← ElapsedTime.now .MILLISECONDS
  let lastTime ← ElapsedTime.now .MILLISECONDS
  driveMotors s.isLowGear gamepad1
  moveMainGripper gamepad2
  setPower .liftMotor (gamepad2.leftStickY / 2)
  showEncoders
  moveLeftGripper gamepad2
  moveFoundationGripper gamepad1
  movePitch gamepad2
  powerPitch
  moveCapstoneGripper gamepad2
  return {
    isLowGear :=
      if gamepad1.leftBumper then true
      else if gamepad1.rightBumper then false
      else s.isLowGear
    liftPos :=
      if gamepad2.a then liftPosOne
      else if gamepad2.b then liftPosTwo
      else if gamepad2.y then liftPosThree
      else if gamepad2.x then liftPosFour
      else s.liftPos
    pitchPos :=
      if gamepad2.dpadLeft then pitchPosOne
      else if gamepad2.dpadRight then pitchPosTwo
      else s.pitchPos
    lastTime := lastTime
    deltaTime := nowTime - s.lastTime }

/-! ## The sticks -/

/-- `square` with the exponent of the source is the cube. -/
lemma square_power (base : K) : square base power = base ^ 3 :=
  square_eq_pow base (by decide) (by decide)

/-- The three sticks of the driving gamepad are in the range the SDK reports. -/
def SticksInRange (gamepad1 : Gamepad K) : Prop :=
  |gamepad1.leftStickX| ≤ 1 ∧ |gamepad1.leftStickY| ≤ 1 ∧ |gamepad1.rightStickX| ≤ 1

lemma abs_square_power_le [IsStrictOrderedRing K] {base : K} (hbase : |base| ≤ 1) :
    |square base power| ≤ 1 := by
  rw [square_power, abs_pow]
  exact pow_le_one₀ (abs_nonneg base) hbase

/-- The left stick pushed forward and halfway to the right. -/
def forwardHalfRight : Gamepad ℝ := { Gamepad.idle with leftStickX := 0.5, leftStickY := -1 }

end StandardTeleOp

end Designosaurs
