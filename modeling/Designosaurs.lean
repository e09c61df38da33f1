import Designosaurs.Interact.Program
import Designosaurs.Interact.Hoare
import Designosaurs.Robot.Interface
import Designosaurs.Robot.Hardware
import Designosaurs.Drive.Ramp
import Designosaurs.Drive.RampProfile
import Designosaurs.TeleOp.Mixer
import Designosaurs.TeleOp.StandardTeleOp
import Designosaurs.Drive.Targets
import Designosaurs.Drive.RemainingDistance
import Designosaurs.Robot.TimedWait
import Designosaurs.Drive.MoveRTP
import Designosaurs.Drive.Profile
import Designosaurs.Vision.Classifier
import Designosaurs.Autonomous.OpMode
import Designosaurs.Autonomous.StopSafety
import Designosaurs.Autonomous.Waits
import Designosaurs.Autonomous.StaleTargets
import Designosaurs.Autonomous.Mirror
import Designosaurs.Drive.Arrival
import Designosaurs.TeleOp.StickCurve
import Designosaurs.Vision.Choice
import Designosaurs.Autonomous.Servos
import Designosaurs.TeleOp.Latches
import Designosaurs.Interact.Fuel
import Designosaurs.Interact.Sum
import Designosaurs.Vision.CameraTestTensorflow
import Designosaurs.Vision.CameraTest
import Designosaurs.Vision.LostTarget
import Designosaurs.Autonomous.Discipline
import Designosaurs.Autonomous.Envelope
import Designosaurs.Autonomous.Itinerary
import Designosaurs.Autonomous.Liveness
import Designosaurs.Autonomous.MoveTest
import Designosaurs.Autonomous.Stones
import Designosaurs.Autonomous.Timetable
import Designosaurs.TeleOp.DeadControls
import Designosaurs.Vision.Display
