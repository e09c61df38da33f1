import Designosaurs.Interact.Program
import Designosaurs.Robot.Java
import Mathlib.Order.WithBot

/-!
# The robot, as the op modes see it

Everything the team code does to the world goes through the SDK objects of `HardwareDesignosaurs`:
six motors, five servos, the telemetry, the clock of an `ElapsedTime`, the op mode's own stop flag
and the TensorFlow detector.  `robot K` is that interface: the calls that act are its commands,
the calls that return something are its queries.

`K` is the number type that stands for `double`.  Encoder ticks and target positions are Java
`int`s, clock readings are `long` nanoseconds.
-/

namespace Designosaurs

open Interact

/-! ## Devices -/

/-- The four drive wheels. -/
inductive Wheel where
  | frontRight
  | frontLeft
  | backRight
  | backLeft
  deriving DecidableEq, Repr

/-- The six motors of the robot. -/
inductive Motor where
  | drive (wheel : Wheel)
  | pitchMotor
  | liftMotor
  deriving DecidableEq, Repr

/-- The five servos of the robot. -/
inductive Servo where
  | mainGripper
  | foundationGripper
  | leftGripper
  | rightGripper
  | capstoneGripper
  deriving DecidableEq, Repr

/-- `DcMotor.RunMode`. -/
inductive RunMode where
  | RUN_WITHOUT_ENCODER
  | RUN_USING_ENCODER
  | RUN_TO_POSITION
  | STOP_AND_RESET_ENCODER
  deriving DecidableEq, Repr

/-- `DcMotorSimple.Direction`. -/
inductive Direction where
  | FORWARD
  | REVERSE
  deriving DecidableEq, Repr

/-- One box the detector drew: its label and its edges in pixels. -/
structure Recognition (K : Type) where
  label : StringRef
  left : K
  top : K
  right : K
  bottom : K

/-! ## Commands and queries -/

/-- What a telemetry line shows.  `rate x` is the displayed quotient `1/x`, which is `Infinity`
for `x = 0`; it is never computed with.  `pair` is the format `"%.03f , %.03f"`, and `lowest` is a
`double` that may be positive infinity. -/
inductive Shown (K : Type) where
  | text (s : String)
  | label (s : StringRef)
  | count (n : ℤ)
  | number (x : K)
  | rate (x : K)
  | pair (x y : K)
  | lowest (x : WithTop K)

/-- The SDK calls that act. -/
inductive Command (K : Type) where
  | waitForStart
  | setMode (motor : Motor) (mode : RunMode)
  | setTargetPosition (motor : Motor) (position : ℤ)
  | setPower (motor : Motor) (power : K)
  | setDirection (motor : Motor) (direction : Direction)
  | setPosition (servo : Servo) (position : K)
  | addData (caption : String) (value : Shown K)
  | updateTelemetry
  | activateTfod
  | shutdownTfod

/-- The SDK calls that return a reading. -/
inductive Query where
  | isBusy (motor : Motor)
  | getCurrentPosition (motor : Motor)
  | opModeIsActive
  | nsNow
  | canCreateTFObjectDetector
  | getUpdatedRecognitions
  deriving DecidableEq

/-- What each reading is.  `getUpdatedRecognitions` may return `null`. -/
abbrev Query.Answer (K : Type) : Query → Type
  | isBusy _ => Bool
  | getCurrentPosition _ => ℤ
  | opModeIsActive => Bool
  | nsNow => ℤ
  | canCreateTFObjectDetector => Bool
  | getUpdatedRecognitions => Option (List (Recognition K))

/-- The interface of the robot. -/
abbrev robot (K : Type) : Interface where
  Command := Command K
  Query := Query
  Answer := Query.Answer K

/-- A program that runs on the robot. -/
abbrev RobotProgram (K : Type) (α : Type) := Program (robot K) α

end Designosaurs
