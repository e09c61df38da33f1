import Designosaurs.Vision.CameraTest

/-!
# A lost target

Neither camera op mode has a branch that stops the wheels.  What it sees gives them their powers, so
when it sees nothing they keep the ones they have: `lost_target_keeps_strafing` says which, for
every round of every run of both.

A run for `rounds` rounds that is cut has stopped at the head of its loop; the next round is what
the run for one more adds to it.
-/

namespace Designosaurs

open Interact

section Lost

variable {K : Type} [Field K]

/-- From `before` to `now` no drive wheel was given a power, and the wheels still move the robot at
`speed`. -/
structure KeepsStrafing (speed : K) (before now : History (robot K)) : Prop where
  untouched : ∀ wheel, powers wheel now = powers wheel before
  strafing : ∀ wheel, (powers wheel now).head? = some (strafePower speed wheel)

/-- Wheels that keep going are at rest only at speed zero. -/
lemma KeepsStrafing.atRest_iff {speed : K} {before now : History (robot K)}
    (hkeeps : KeepsStrafing speed before now) :
    (∀ wheel, (powers wheel now).head? = some 0) ↔ speed = 0 := by
  simp only [hkeeps.strafing, Option.some.injEq]
  exact strafePower_eq_zero_iff speed

lemma StrafedAt.keepsStrafing {speeds : List K} {before now : History (robot K)}
    (hbefore : StrafedAt speeds before) (hnow : StrafedAt speeds now) :
    KeepsStrafing (speeds.headD 0) before now :=
  ⟨fun wheel => (hnow wheel).trans (hbefore wheel).symm, hnow.head?⟩

variable [LinearOrder K]

/-- A round of `CameraTestTensorflow` in which no box is seen. -/
lemma CameraTestTensorflow.keepsStrafing {env : Environment (robot K)} {rounds : ℕ}
    {h h' : History (robot K)} (hrun : Program.run env (runOpMode rounds) [] = (none, h))
    (hrun' : Program.run env (runOpMode (rounds + 1)) [] = (none, h')) :
    ∃ new, h' = new ++ h ∧ (seen new = [] → KeepsStrafing ((speeds h).headD 0) h h') := by
  obtain ⟨new, rfl⟩ := (prolongs_runOpMode env rounds).suffix hrun hrun'
  refine ⟨new, rfl, fun hnew => ?_⟩
  have hstrafed : StrafedAt (speeds h) h := by
    simpa only [hrun] using wp_final (powers_runOpMode env rounds)
  have hstrafed' : StrafedAt (speeds (new ++ h)) (new ++ h) := by
    simpa only [hrun'] using wp_final (powers_runOpMode env (rounds + 1))
  have hsame : speeds (new ++ h) = speeds h := by
    rw [speeds, seen_append, hnew]
    rfl
  rw [hsame] at hstrafed'
  exact hstrafed.keepsStrafing hstrafed'

/-- A round of `CameraTest` in which no trackable is visible. -/
lemma CameraTest.keepsStrafing {env : Environment (cameraRobot K)}
    {allTrackables : List VuforiaTrackable} {rounds : ℕ} {h h' : History (cameraRobot K)}
    (hrun : Program.run env (runOpMode allTrackables rounds) [] = (none, h))
    (hrun' : Program.run env (runOpMode allTrackables (rounds + 1)) [] = (none, h')) :
    ∃ new, h' = new ++ h
      ∧ (sightings new = [] →
        KeepsStrafing ((speeds h).headD 0) (History.left h) (History.left h')) := by
  obtain ⟨new, rfl⟩ := (prolongs_runOpMode env allTrackables rounds).suffix hrun hrun'
  refine ⟨new, rfl, fun hnew => ?_⟩
  have hrecorded : Recorded h := by
    simpa only [hrun] using wp_final (wp_runOpMode env allTrackables rounds)
  have hrecorded' : Recorded (new ++ h) := by
    simpa only [hrun'] using wp_final (wp_runOpMode env allTrackables (rounds + 1))
  -- Every sighting has one answer of the localizer, so without a sighting there was none.
  have hcount : (locations new).length = 0 := by
    have hboth := hrecorded'.count
    rw [locations_append, sightings_append, hnew, List.length_append, List.nil_append,
      hrecorded.count] at hboth
    exact Nat.add_eq_right.mp hboth
  have hsame : speeds (new ++ h) = speeds h := by
    rw [speeds, locations_append, List.length_eq_zero_iff.mp hcount]
    rfl
  have hstrafed' := hrecorded'.strafed
  rw [hsame] at hstrafed'
  exact hrecorded.strafed.keepsStrafing hstrafed'

end Lost

/-- **What the wheels do when the target is lost.**  In a round of either op mode in which no target
is seen, no drive wheel is given a power: they keep moving the robot sideways at the speed of the
newest target, and at zero only if that speed is zero or no target was seen yet. -/
theorem lost_target_keeps_strafing (K : Type) [Field K] [LinearOrder K] :
    (∀ (env : Environment (robot K)) (rounds : ℕ) (h h' : History (robot K)),
      Program.run env (CameraTestTensorflow.runOpMode rounds) [] = (none, h) →
      Program.run env (CameraTestTensorflow.runOpMode (rounds + 1)) [] = (none, h') →
      ∃ new, h' = new ++ h ∧ (CameraTestTensorflow.seen new = [] →
        KeepsStrafing ((CameraTestTensorflow.speeds h).headD 0) h h'
        ∧ ((∀ wheel, (powers wheel h').head? = some 0)
          ↔ (CameraTestTensorflow.speeds h).headD 0 = 0)))
    ∧ (∀ (env : Environment (cameraRobot K)) (allTrackables : List VuforiaTrackable) (rounds : ℕ)
        (h h' : History (cameraRobot K)),
      Program.run env (CameraTest.runOpMode allTrackables rounds) [] = (none, h) →
      Program.run env (CameraTest.runOpMode allTrackables (rounds + 1)) [] = (none, h') →
      ∃ new, h' = new ++ h ∧ (CameraTest.sightings new = [] →
        KeepsStrafing ((CameraTest.speeds h).headD 0) (History.left h) (History.left h')
        ∧ ((∀ wheel, (powers wheel (History.left h')).head? = some 0)
          ↔ (CameraTest.speeds h).headD 0 = 0))) := by
  constructor
  · intro env rounds h h' hrun hrun'
    obtain ⟨new, heq, hkeeps⟩ := CameraTestTensorflow.keepsStrafing hrun hrun'
    exact ⟨new, heq, fun hnew => ⟨hkeeps hnew, (hkeeps hnew).atRest_iff⟩⟩
  · intro env allTrackables rounds h h' hrun hrun'
    obtain ⟨new, heq, hkeeps⟩ := CameraTest.keepsStrafing hrun hrun'
    exact ⟨new, heq, fun hnew => ⟨hkeeps hnew, (hkeeps hnew).atRest_iff⟩⟩

/-! ## A target that is seen once -/

/-- A detector that draws one box, 200 pixels left of where the op mode aims, and no box again. -/
def glimpse : Environment (robot ℝ)
  | _, .isBusy _ => false
  | _, .getCurrentPosition _ => 0
  | _, .opModeIsActive => true
  | _, .nsNow => 0
  | _, .canCreateTFObjectDetector => true
  | h, .getUpdatedRecognitions =>
      match CameraTestTensorflow.seen h with
      | [] => some [⟨.literal "Skystone", 50, 0, 100, 100⟩]
      | _ :: _ => some []

/-- A localizer that sees its target once, 254 millimetres off. -/
def cameraGlimpse : Environment (cameraRobot ℝ)
  | _, .inl (.isBusy _) => false
  | _, .inl (.getCurrentPosition _) => 0
  | _, .inl .opModeIsActive => true
  | _, .inl .nsNow => 0
  | _, .inl .canCreateTFObjectDetector => false
  | _, .inl .getUpdatedRecognitions => none
  | _, .inr .isStopRequested => false
  | h, .inr (.isVisible _) => (CameraTest.sightings h).isEmpty
  | _, .inr (.getUpdatedRobotLocation _) => some ⟨0, 254, 0, 0, 0, 0⟩

/-- The stone target. -/
def stoneTarget : VuforiaTrackable := ⟨0, "Stone Target"⟩

/-- Its second picture is empty. -/
lemma glimpse_run : ∃ h new,
    Program.run glimpse (CameraTestTensorflow.runOpMode 1) [] = (none, h)
      ∧ Program.run glimpse (CameraTestTensorflow.runOpMode 2) [] = (none, new ++ h)
      ∧ .answer .getUpdatedRecognitions (some []) ∈ new
      ∧ CameraTestTensorflow.seen new = []
      ∧ (CameraTestTensorflow.speeds h).headD 0 = 1 := by
  refine ⟨_, [.command .updateTelemetry, .command (.addData "# Object Detected" (.count 0)),
    .answer .getUpdatedRecognitions (some []), .answer .opModeIsActive true], rfl, rfl, ?_, rfl, ?_⟩
  · simp
  · change ((50 - 250) / -200 : ℝ) = 1
    norm_num

/-- In its second round nothing is visible. -/
lemma cameraGlimpse_run : ∃ h new,
    Program.run cameraGlimpse (CameraTest.runOpMode [stoneTarget] 1) [] = (none, h)
      ∧ Program.run cameraGlimpse (CameraTest.runOpMode [stoneTarget] 2) [] = (none, new ++ h)
      ∧ CameraTest.sightings new = []
      ∧ (CameraTest.speeds h).headD 0 = -1 := by
  refine ⟨_, [.command (.inl .updateTelemetry),
    .command (.inl (.addData "Target pos" (.text "Right"))),
    .command (.inl (.addData "Visible Target" (.text "none"))),
    .answer (.inr (.isVisible stoneTarget)) false, .answer (.inr .isStopRequested) false],
    rfl, rfl, rfl, ?_⟩
  change (254 / 25.4 / -10 : ℝ) = -1
  norm_num

/-- After the glimpse both op modes go on. -/
theorem glimpse_keeps_strafing :
    (∃ h h', Program.run glimpse (CameraTestTensorflow.runOpMode 1) [] = (none, h)
      ∧ Program.run glimpse (CameraTestTensorflow.runOpMode 2) [] = (none, h')
      ∧ KeepsStrafing 1 h h')
    ∧ ∃ h h', Program.run cameraGlimpse (CameraTest.runOpMode [stoneTarget] 1) [] = (none, h)
      ∧ Program.run cameraGlimpse (CameraTest.runOpMode [stoneTarget] 2) [] = (none, h')
      ∧ KeepsStrafing (-1) (History.left h) (History.left h') := by
  constructor
  · obtain ⟨h, new, hrun, hrun', -, hseen, hspeed⟩ := glimpse_run
    obtain ⟨new', heq, hkeeps⟩ := (lost_target_keeps_strafing ℝ).1 glimpse 1 _ _ hrun hrun'
    rw [← List.append_cancel_right heq, hspeed] at hkeeps
    exact ⟨h, new ++ h, hrun, hrun', (hkeeps hseen).1⟩
  · obtain ⟨h, new, hrun, hrun', hsightings, hspeed⟩ := cameraGlimpse_run
    obtain ⟨new', heq, hkeeps⟩ :=
      (lost_target_keeps_strafing ℝ).2 cameraGlimpse [stoneTarget] 1 _ _ hrun hrun'
    rw [← List.append_cancel_right heq, hspeed] at hkeeps
    exact ⟨h, new ++ h, hrun, hrun', (hkeeps hsightings).1⟩

/-- Neither stops the robot when its target is lost. -/
theorem lost_target_moves_on :
    ¬ ((∀ (env : Environment (robot ℝ)) (rounds : ℕ) (h new : History (robot ℝ)),
        Program.run env (CameraTestTensorflow.runOpMode rounds) [] = (none, h) →
        Program.run env (CameraTestTensorflow.runOpMode (rounds + 1)) [] = (none, new ++ h) →
        .answer .getUpdatedRecognitions (some []) ∈ new →
        ∀ wheel, (powers wheel (new ++ h)).head? = some 0)
      ∧ ∀ (env : Environment (cameraRobot ℝ)) (allTrackables : List VuforiaTrackable)
          (rounds : ℕ) (h new : History (cameraRobot ℝ)),
        Program.run env (CameraTest.runOpMode allTrackables rounds) [] = (none, h) →
        Program.run env (CameraTest.runOpMode allTrackables (rounds + 1)) [] = (none, new ++ h) →
        CameraTest.sightings new = [] →
        ∀ wheel, (powers wheel (History.left (new ++ h))).head? = some 0) := by
  rintro ⟨hstops, -⟩
  obtain ⟨h, new, hrun, hrun', hempty, hseen, hspeed⟩ := glimpse_run
  obtain ⟨new', heq, hkeeps⟩ := CameraTestTensorflow.keepsStrafing hrun hrun'
  rw [← List.append_cancel_right heq, hspeed] at hkeeps
  have hrest := (hkeeps hseen).atRest_iff.mp (hstops glimpse 1 h new hrun hrun' hempty)
  exact one_ne_zero hrest

end Designosaurs
