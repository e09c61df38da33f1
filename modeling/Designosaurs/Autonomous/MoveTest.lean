import Designosaurs.Autonomous.Discipline
import Designosaurs.Autonomous.Odometry

/-!
# `MoveTest`

The op mode the team calls "RTP Test no function".  It sends each wheel the same number of ticks,
gives each the same power, and then shows the encoders for as long as it is active.

`runOpMode_keeps_pushing` says what is wrong with it as a program for the robot.  Four equal targets
are no motion of a mecanum drive at all, so the wheels work against each other; nothing takes the
power away, also when the op mode is stopped; and the wheels are not used in their discipline, since
their encoders are not reset.
-/

namespace Designosaurs

open Interact

variable {K : Type} [Field K] [LinearOrder K] [FloorRing K]

namespace MoveTest

/-- The body of the loop. -/
def showWheels : RobotProgram K Unit := do
  addData "fr" (.count (← getCurrentPosition (.drive .frontRight)))
  addData "fl" (.count (← getCurrentPosition (.drive .frontLeft)))
  addData "br" (.count (← getCurrentPosition (.drive .backRight)))
  addData "bl" (.count (← getCurrentPosition (.drive .backLeft)))
  updateTelemetry

/-- The code before the loop, with the field initialiser of `runtime`. -/
def push : RobotProgram K Unit := do
  let _runtime ← ElapsedTime.reset
  waitForStart
  init
  let encDist : K := 1120
  setTargetPos (.drive .frontRight) encDist
  setTargetPos (.drive .frontLeft) encDist
  setTargetPos (.drive .backLeft) encDist
  setTargetPos (.drive .backRight) encDist
  setPowers 0.4

/-- `runOpMode` -/
def runOpMode (fuel : ℕ) : RobotProgram K Unit := do
  push
  Program.whileLoop opModeIsActive (fun _ => showWheels) fuel ()

/-- What has happened when the run is over, or is cut. -/
def outcome (env : Environment (robot K)) (fuel : ℕ) : History (robot K) :=
  (Program.run env (runOpMode fuel) []).2

/-- What the code before the loop leaves, and the loop does not change. -/
structure Pushing (h : History (robot K)) : Prop where
  power : ∀ wheel, powers wheel h = [0.4, 0]
  target : sent h = fun _ => 1120
  undisciplined : ¬ Disciplined h

variable [IsStrictOrderedRing K]

lemma roundToInt_encDist : roundToInt (1120 : K) = 1120 := by
  rw [roundToInt_eq (fitsInt_of_abs_le (by norm_num)), Int.floor_eq_iff]
  constructor <;> norm_num

/-- The run mode is set while the encoder has not been reset. -/
lemma wp_push (env : Environment (robot K)) :
    wp env push (fun _ => Pushing) Pushing [] := by
  simp only [push, ElapsedTime.reset, init, setTargetPos, setPowers, roundToInt_encDist, wp_bind,
    wp_ask, wp_command, wp_done, wp_pure]
  refine ⟨fun wheel => ?_, funext fun wheel => ?_, fun hdisciplined => ?_⟩
  · cases wheel <;> simp [powers]
  · cases wheel <;> rfl
  · have hfront := hdisciplined .frontRight
    simp [Protocol.after, discipline, mounting] at hfront

omit [FloorRing K] [IsStrictOrderedRing K] in
/-- The loop asks and shows. -/
lemma keeps_pushing (env : Environment (robot K)) {α : Type} {p : RobotProgram K α}
    (hp : Emits Passive p) : Keeps env Pushing p := by
  refine hp.keeps fun e h he hh => ⟨fun wheel => ?_, ?_, fun hdisciplined => ?_⟩
  · rw [he.unpowered wheel h, hh.power]
  · rw [he.unmetered.sent_eq, hh.target]
  · exact hh.undisciplined (hdisciplined.of_suffix (List.suffix_cons e h))

/-- **It pushes, and goes on pushing.**  In every run, cut or returned, whatever is answered and
however long the loop goes on: every wheel was given zero and then 0.4, and nothing since; it was
sent 1120 ticks, which is no motion forward, none to the side and no turn; and some wheel was used
out of its discipline. -/
theorem runOpMode_keeps_pushing (hw : HardwareDesignosaurs K) (env : Environment (robot K))
    (fuel : ℕ) :
    Pushing (outcome env fuel) ∧ forwardInches hw (ticks (sent (outcome env fuel))) = 0
      ∧ strafeInches hw (ticks (sent (outcome env fuel))) = 0
      ∧ rotateTicks (ticks (sent (outcome env fuel)) : Wheel → K) = 0 := by
  have hloop : Emits Passive (Program.whileLoop opModeIsActive (fun _ => showWheels) fuel () :
      RobotProgram K Unit) := emits_whileLoop (by simp) (fun _ => by simp [showWheels]) fuel ()
  have hpushing : Pushing (outcome env fuel) :=
    wp_final (wp_seq (wp_push env) fun _ h hh => keeps_pushing env hloop h hh)
  have hcancel : ∀ n : K, unmix (fun _ => n) = ⟨0, 0, 0⟩ := by
    intro n
    ext <;> simp only [unmix] <;> ring
  have hequal : (ticks (sent (outcome env fuel)) : Wheel → K) = fun _ => ((1120 : ℤ) : K) := by
    rw [hpushing.target]
    rfl
  refine ⟨hpushing, ?_, ?_, ?_⟩
  · show (unmix (ticks (sent (outcome env fuel)) : Wheel → K)).forward * _ = 0
    rw [hequal, hcancel, zero_mul]
  · show (unmix (ticks (sent (outcome env fuel)) : Wheel → K)).strafe * _ = 0
    rw [hequal, hcancel, zero_mul]
  · show (unmix (ticks (sent (outcome env fuel)) : Wheel → K)).rotate = 0
    rw [hequal, hcancel]

/-- Also on motors that are there at once. -/
theorem prompt_pushing : Pushing (outcome promptRobot 1)
    ∧ forwardInches designosaurs (ticks (sent (outcome promptRobot 1))) = 0 := by
  obtain ⟨hpushing, hforward, -⟩ := runOpMode_keeps_pushing designosaurs promptRobot 1
  exact ⟨hpushing, hforward⟩

end MoveTest

end Designosaurs
