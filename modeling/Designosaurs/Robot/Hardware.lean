import Designosaurs.Robot.Interface
import Mathlib.Analysis.Real.Pi.Bounds

/-!
# `HardwareDesignosaurs`: constants, timer and the small drive functions

`HardwareDesignosaurs K` holds the fields of the Java class that its functions compute with, and
the fact the control law rests on: they are positive.  `designosaurs` has the values of the source
over `ℝ`; nothing else in the model depends on them.

The calls of the SDK are wrapped under their own names, so that the functions below read like the
Java.  An `ElapsedTime` is the nanosecond reading of its last reset; an object the Java code
mutates is here passed in and returned.
-/

namespace Designosaurs

open Interact

/-- The fields of the Java class that its functions compute with. -/
structure HardwareDesignosaurs (K : Type) [Field K] [LinearOrder K] where
  accelPerSec : K
  minSpeed : K
  sideBias : K
  encoderTicksPerInch : K
  accelPerSec_pos : 0 < accelPerSec
  minSpeed_pos : 0 < minSpeed
  sideBias_pos : 0 < sideBias
  encoderTicksPerInch_pos : 0 < encoderTicksPerInch

/-- The values of the source.  `encoder_ticks_per_inch` is, its name notwithstanding, the inches
one tick is worth: the circumference of a wheel over the ticks of a revolution. -/
noncomputable def designosaurs : HardwareDesignosaurs ℝ where
  accelPerSec := 0.8
  minSpeed := 0.2
  sideBias := √2
  encoderTicksPerInch := (4 * Real.pi) / 537.6
  accelPerSec_pos := by norm_num
  minSpeed_pos := by norm_num
  sideBias_pos := by positivity
  encoderTicksPerInch_pos := by positivity

/-- A tick is between a fiftieth and three hundredths of an inch. -/
lemma designosaurs_encoderTicksPerInch_bounds :
    0.02 < designosaurs.encoderTicksPerInch ∧ designosaurs.encoderTicksPerInch < 0.03 := by
  have hlo := Real.pi_gt_three
  have hhi := Real.pi_le_four
  show 0.02 < (4 * Real.pi) / 537.6 ∧ (4 * Real.pi) / 537.6 < 0.03
  rw [lt_div_iff₀ (by norm_num), div_lt_iff₀ (by norm_num)]
  constructor <;> norm_num <;> linarith

lemma designosaurs_sideBias_bounds :
    1.4 < designosaurs.sideBias ∧ designosaurs.sideBias < 1.5 := by
  show 1.4 < √2 ∧ √2 < 1.5
  exact ⟨Real.lt_sqrt_of_sq_lt (by norm_num), (Real.sqrt_lt' (by norm_num)).mpr (by norm_num)⟩

/-- The exponent of the stick curve, `public int power = 3`. -/
def power : ℤ := 3

variable {K : Type}

/-! ## The calls of the SDK -/

abbrev waitForStart : RobotProgram K Unit := Program.issue Command.waitForStart

abbrev setMode (motor : Motor) (mode : RunMode) : RobotProgram K Unit :=
  Program.issue (Command.setMode motor mode)

abbrev setTargetPosition (motor : Motor) (position : ℤ) : RobotProgram K Unit :=
  Program.issue (Command.setTargetPosition motor position)

abbrev setPower (motor : Motor) (power : K) : RobotProgram K Unit :=
  Program.issue (Command.setPower motor power)

abbrev setDirection (motor : Motor) (direction : Direction) : RobotProgram K Unit :=
  Program.issue (Command.setDirection motor direction)

abbrev setPosition (servo : Servo) (position : K) : RobotProgram K Unit :=
  Program.issue (Command.setPosition servo position)

abbrev addData (caption : String) (value : Shown K) : RobotProgram K Unit :=
  Program.issue (Command.addData caption value)

abbrev updateTelemetry : RobotProgram K Unit := Program.issue Command.updateTelemetry

abbrev isBusy (motor : Motor) : RobotProgram K Bool :=
  Program.query (I := robot K) (Query.isBusy motor)

abbrev getCurrentPosition (motor : Motor) : RobotProgram K ℤ :=
  Program.query (I := robot K) (Query.getCurrentPosition motor)

abbrev opModeIsActive : RobotProgram K Bool := Program.query (I := robot K) Query.opModeIsActive

abbrev nsNow : RobotProgram K ℤ := Program.query (I := robot K) Query.nsNow

abbrev canCreateTFObjectDetector : RobotProgram K Bool :=
  Program.query (I := robot K) Query.canCreateTFObjectDetector

abbrev getUpdatedRecognitions : RobotProgram K (Option (List (Recognition K))) :=
  Program.query (I := robot K) Query.getUpdatedRecognitions

/-! ## `ElapsedTime` -/

/-- The SDK's timer: the clock reading of its last reset. -/
structure ElapsedTime where
  nsStartTime : ℤ

namespace ElapsedTime

/-- `new ElapsedTime()`, and `reset()`: the timer starts at the current time. -/
def reset : RobotProgram K ElapsedTime := do
  let now ← nsNow
  return ⟨now⟩

/-- The elapsed time in seconds at the clock reading `now`. -/
def seconds [Field K] (time : ElapsedTime) (now : ℤ) : K :=
  ((now - time.nsStartTime : ℤ) : K) / 1000000000

/-- `time()`, in the timer's default resolution of seconds. -/
def time [Field K] (time : ElapsedTime) : RobotProgram K K := do
  let now ← nsNow
  return time.seconds now

/-- `time(unit)`: whole units since the last reset. -/
def timeIn (time : ElapsedTime) (unit : TimeUnit) : RobotProgram K ℤ := do
  let now ← nsNow
  return unit.convert (now - time.nsStartTime)

/-- `now(unit)`: whole units on the clock itself, whatever the last reset was. -/
def now (unit : TimeUnit) : RobotProgram K ℤ := do
  let now ← nsNow
  return unit.convert now

end ElapsedTime

/-! ## The functions of the class -/

section Functions

variable [Field K] [LinearOrder K]

/-- `init`: stop everything, choose the run modes, park the servos. -/
def init : RobotProgram K Unit := do
  setDirection (.drive .frontRight) .REVERSE
  setDirection (.drive .frontLeft) .FORWARD
  setDirection (.drive .backRight) .REVERSE
  setDirection (.drive .backLeft) .FORWARD
  setPower (.drive .frontRight) 0
  setPower (.drive .frontLeft) 0
  setPower (.drive .backRight) 0
  setPower (.drive .backLeft) 0
  setPower .pitchMotor 0.7
  setTargetPosition .pitchMotor 0
  setMode (.drive .frontRight) .RUN_WITHOUT_ENCODER
  setMode (.drive .frontLeft) .RUN_WITHOUT_ENCODER
  setMode (.drive .backRight) .RUN_WITHOUT_ENCODER
  setMode (.drive .backLeft) .RUN_WITHOUT_ENCODER
  setMode .pitchMotor .RUN_TO_POSITION
  setMode .liftMotor .RUN_USING_ENCODER
  setPosition .mainGripper 1
  setPosition .foundationGripper 0.7
  setPosition .leftGripper 0
  setPosition .rightGripper 1
  setPosition .capstoneGripper 0

/-- The servo positions `init` chooses. -/
def parked : Servo → K
  | .mainGripper => 1
  | .foundationGripper => 0.7
  | .leftGripper => 0
  | .rightGripper => 1
  | .capstoneGripper => 0

/-- What `init` tells the servos, newest first. -/
def initServos : List (Servo × K) :=
  [.capstoneGripper, .rightGripper, .leftGripper, .foundationGripper, .mainGripper].map
    fun servo => (servo, parked servo)

/-- `square`: `base` to the power `power`, as a quotient of two running products. -/
def square (base : K) (power : ℤ) : K :=
  if base = 0 then 0
  else
    let basen := (fun n => n * base)^[(toInt (power + 16)).toNat] base
    let based := (fun d => d * base)^[16] base
    basen / based

/-- `setTargetPos`: send one motor to a position given in ticks. -/
def setTargetPos [FloorRing K] (motor : Motor) (position : K) : RobotProgram K Unit := do
  setMode motor .RUN_TO_POSITION
  setTargetPosition motor (roundToInt position)

/-- `setPowers`: one power for all four drive motors. -/
def setPowers (speed : K) : RobotProgram K Unit := do
  setPower (.drive .frontRight) speed
  setPower (.drive .frontLeft) speed
  setPower (.drive .backRight) speed
  setPower (.drive .backLeft) speed

end Functions

end Designosaurs
