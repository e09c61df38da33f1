import Designosaurs.Interact.Fuel
import Designosaurs.Robot.Hardware
import Designosaurs.Robot.Record

/-!
# `CameraTestTensorflow`: following the detector

The op mode moves the robot sideways by the place of what the detector sees.  Every box of a picture
gives the drive motors a speed, so the last box of the newest picture with a box in it decides; a
picture without boxes, and no picture, command nothing.

`powers_runOpMode`: the powers a wheel was given are, one for one, those of the boxes seen so far,
on top of the zero of `Robot.init`.
-/

namespace Designosaurs

open Interact

variable {K : Type}

/-! ## Moving sideways -/

section Strafe

variable [Field K]

/-- The power of one wheel when the robot moves sideways, to the left at a positive speed. -/
def strafePower (speed : K) : Wheel → K
  | .frontRight => speed
  | .frontLeft => -speed
  | .backRight => -speed
  | .backLeft => speed

/-- The four `setPower` calls of both camera op modes. -/
def strafe (speed : K) : RobotProgram K Unit := do
  setPower (.drive .frontRight) (strafePower speed .frontRight)
  setPower (.drive .frontLeft) (strafePower speed .frontLeft)
  setPower (.drive .backRight) (strafePower speed .backRight)
  setPower (.drive .backLeft) (strafePower speed .backLeft)

/-- The wheels are at rest only at speed zero. -/
lemma strafePower_eq_zero_iff (speed : K) : (∀ wheel, strafePower speed wheel = 0) ↔ speed = 0 := by
  constructor
  · exact fun hall => hall .frontRight
  · rintro rfl wheel
    cases wheel <;> simp [strafePower]

/-- The wheels were given the powers for these speeds, newest first, and before them the
zero of `init`. -/
def StrafedAt (speeds : List K) (h : History (robot K)) : Prop :=
  ∀ wheel, powers wheel h = speeds.map (fun speed => strafePower speed wheel) ++ [0]

lemma strafedAt_init (env : Environment (robot K)) : StrafedAt [] (Program.run env init []).2 := by
  rintro (_ | _ | _ | _) <;> rfl

lemma StrafedAt.head? {speeds : List K} {h : History (robot K)} (hstrafed : StrafedAt speeds h)
    (wheel : Wheel) : (powers wheel h).head? = some (strafePower (speeds.headD 0) wheel) := by
  rw [hstrafed wheel]
  cases speeds with
  | nil => exact congrArg some ((strafePower_eq_zero_iff (0 : K)).mpr rfl wheel).symm
  | cons speed rest => rfl

/-- One more speed. -/
lemma StrafedAt.cons {speeds : List K} {h h' : History (robot K)} (hstrafed : StrafedAt speeds h)
    {speed : K} (hpowers : ∀ wheel, powers wheel h' = strafePower speed wheel :: powers wheel h) :
    StrafedAt (speed :: speeds) h' := by
  intro wheel
  rw [hpowers wheel, hstrafed wheel]
  rfl

end Strafe

namespace CameraTestTensorflow

/-! ## The op mode -/

section Source

variable [Field K]

/-- The speed for one box. -/
def targetSpeed (recognition : Recognition K) : K := (recognition.left - 250) / -200

/-- What the op mode does up to its first look at `opModeIsActive`; the answer is whether there is
a detector. -/
def setup : RobotProgram K Bool := do
  init
  let tfod ← canCreateTFObjectDetector
  Program.when (tfod = false) (addData "Cmon man!" (.text "ZTEs Suck m8"))
  Program.when (tfod = true) (Program.issue Command.activateTfod)
  addData ">" (.text "TFOD Ready")
  updateTelemetry
  waitForStart
  return tfod

variable [LinearOrder K]

/-- The loop over the boxes of one picture, on the field `speed`.  Its counter `i` stays zero. -/
def follow : List (Recognition K) → K → RobotProgram K K
  | [], speed => return speed
  | recognition :: rest, _ => do
      addData "label (0)" (.label recognition.label)
      addData "  left,top (0)" (.pair recognition.left recognition.top)
      addData "  right,bottom (0)" (.pair recognition.right recognition.bottom)
      let speed := targetSpeed recognition
      addData "targetSpeed" (.number speed)
      strafe speed
      addData "Target pos" (.text (if recognition.left < 250 then "Left" else "Middle"))
      follow rest speed

/-- The body of the op mode's loop. -/
def look (tfod : Bool) (speed : K) : RobotProgram K K :=
  if tfod then do
    match ← getUpdatedRecognitions with
    | none => return speed
    | some updatedRecognitions => do
        addData "# Object Detected" (.count updatedRecognitions.length)
        let speed ← follow updatedRecognitions speed
        updateTelemetry
        return speed
  else return speed

/-- `runOpMode`, for at most `fuel` rounds of its loop. -/
def runOpMode (fuel : ℕ) : RobotProgram K Unit := do
  let tfod ← setup
  if ← opModeIsActive then
    let _ ← Program.whileLoop opModeIsActive (look tfod) fuel 0
    Program.when (tfod = true) (Program.issue Command.shutdownTfod)
  else return ()

end Source

/-! ## What was seen -/

/-- The boxes the detector returned, newest first. -/
def seen : History (robot K) → List (Recognition K)
  | [] => []
  | .answer .getUpdatedRecognitions (some recognitions) :: h => recognitions.reverse ++ seen h
  | _ :: h => seen h

lemma seen_append (new start : History (robot K)) :
    seen (new ++ start) = seen new ++ seen start := by
  fun_induction seen new with
  | case1 => rfl
  | case2 recognitions h ih => rw [List.cons_append, seen, ih, List.append_assoc]
  | case3 e h hne ih => rw [List.cons_append, seen.eq_3 _ _ hne, ih]

section Speed

variable [Field K]

/-- The speeds of the boxes seen so far, newest first. -/
def speeds (h : History (robot K)) : List K := (seen h).map targetSpeed

variable [LinearOrder K] {env : Environment (robot K)} {R : History (robot K) → Prop}

/-- The boxes of a picture move the robot one after the other. -/
lemma wp_follow (recognitions : List (Recognition K)) {before : List K} {h : History (robot K)}
    (hstrafed : StrafedAt before h) :
    wp env (follow recognitions (before.headD 0))
      (fun speed h' => speed = (recognitions.reverse.map targetSpeed ++ before).headD 0
        ∧ StrafedAt (recognitions.reverse.map targetSpeed ++ before) h' ∧ seen h' = seen h)
      R h := by
  induction recognitions generalizing before h with
  | nil => exact ⟨rfl, hstrafed, rfl⟩
  | cons box rest ih =>
      rw [List.reverse_cons, List.map_append, List.append_assoc]
      refine @ih (targetSpeed box :: before) _ (hstrafed.cons fun wheel => ?_)
      cases wheel <;> rfl

/-- The field and the wheels follow the boxes seen so far. -/
def FollowsSeen (speed : K) (h : History (robot K)) : Prop :=
  speed = (speeds h).headD 0 ∧ StrafedAt (speeds h) h

/-- An event that shows no box and gives no drive motor a power. -/
def Still (e : Event (robot K)) : Prop := Unpowered e ∧ ∀ h, seen (e :: h) = seen h

omit [LinearOrder K] [Field K] in
@[simp] lemma still_command (c : Command K) : Still (.command c) ↔ Unpowered (.command c) :=
  and_iff_left fun _ => rfl

omit [LinearOrder K] in
lemma keeps_followsSeen {α : Type} {p : RobotProgram K α} (hp : Emits Still p) (speed : K) :
    Keeps env (FollowsSeen speed) p := by
  refine hp.keeps fun e h he hfollows => ?_
  rw [FollowsSeen, speeds, he.2 h]
  exact ⟨hfollows.1, fun wheel => (he.1 wheel h).trans (hfollows.2 wheel)⟩

omit [LinearOrder K] in
lemma wp_setup :
    wp env setup (fun _ => FollowsSeen (0 : K)) (FollowsSeen (0 : K)) [] := by
  have hinit : wp env init (fun _ => FollowsSeen (0 : K)) (FollowsSeen 0) [] :=
    ⟨rfl, strafedAt_init env⟩
  refine wp_seq hinit fun _ h hfollows => keeps_followsSeen ?_ 0 h hfollows
  have htfod : ∀ tfod : Bool,
      Still (.answer .canCreateTFObjectDetector tfod : Event (robot K)) :=
    fun _ => ⟨unpowered_answer _ _, fun _ => rfl⟩
  simp [htfod, Program.when]

lemma wp_look (tfod : Bool) {speed : K} {h : History (robot K)} (hfollows : FollowsSeen speed h) :
    wp env (look tfod speed) FollowsSeen R h := by
  obtain ⟨rfl, hstrafed⟩ := hfollows
  cases tfod with
  | false => exact ⟨rfl, hstrafed⟩
  | true =>
      simp only [look, if_true, wp_bind, wp_ask, wp_done]
      cases env h .getUpdatedRecognitions with
      | none => exact ⟨rfl, hstrafed⟩
      | some recognitions =>
          simp only [wp_bind, wp_command, wp_done, wp_pure]
          refine wp_mono ?_ (fun _ => id) (wp_follow recognitions hstrafed)
          rintro _ h' ⟨rfl, hstrafed', hseen⟩
          have hnow : speeds (.command .updateTelemetry :: h')
              = recognitions.reverse.map targetSpeed ++ speeds h :=
            (congrArg (List.map targetSpeed) hseen).trans List.map_append
          rw [FollowsSeen, hnow]
          exact ⟨rfl, hstrafed'⟩

omit [LinearOrder K] in
lemma keeps_opModeIsActive (speed : K) :
    Keeps env (FollowsSeen speed) (opModeIsActive : RobotProgram K Bool) := by
  have hactive : ∀ active : Bool,
      Still (.answer .opModeIsActive active : Event (robot K)) :=
    fun _ => ⟨unpowered_answer _ _, fun _ => rfl⟩
  exact keeps_followsSeen (by simp [hactive]) speed

/-- The loop of the op mode, by the invariant `FollowsSeen`. -/
lemma wp_loop (tfod : Bool) (fuel : ℕ) {speed : K} {h : History (robot K)}
    (hfollows : FollowsSeen speed h) :
    wp env (Program.whileLoop opModeIsActive (look tfod) fuel speed) FollowsSeen
      (fun h => StrafedAt (speeds h) h) h := by
  refine wp_whileLoop FollowsSeen (fun _ _ => And.right) (fun speed g hg => ?_) fuel speed h
    hfollows
  refine wp_mono ?_ (fun _ => And.right) (keeps_opModeIsActive speed g hg)
  rintro (_ | _) g' hg'
  · exact hg'
  · exact wp_look tfod hg'

/-- **What the wheels were told is what was seen.** -/
theorem powers_runOpMode (env : Environment (robot K)) (fuel : ℕ) :
    wp env (runOpMode fuel) (fun _ h => StrafedAt (speeds h) h)
      (fun h => StrafedAt (speeds h) h) [] := by
  refine wp_seq (wp_mono (fun _ _ => id) (fun _ => And.right) wp_setup) fun tfod h hh => ?_
  refine wp_seq (wp_mono (fun _ _ => id) (fun _ => And.right) (keeps_opModeIsActive 0 h hh))
    fun active h' hh' => ?_
  cases active with
  | false => exact hh'.2
  | true =>
      refine wp_seq (wp_loop tfod fuel hh') fun speed g hg => ?_
      have hshutdown : Emits Still (Program.when (tfod = true)
          (Program.issue Command.shutdownTfod) : RobotProgram K Unit) := by
        simp
      exact wp_mono (fun _ _ => And.right) (fun _ => And.right)
        (keeps_followsSeen hshutdown speed g hg)

/-- One more round goes on where the last one ended. -/
lemma prolongs_runOpMode (env : Environment (robot K)) (fuel : ℕ) :
    Prolongs env (runOpMode fuel : RobotProgram K Unit) (runOpMode (fuel + 1)) := by
  refine prolongs_bind (.refl setup) fun tfod => prolongs_bind (.refl _) fun active => ?_
  cases active with
  | false => exact .refl _
  | true => exact prolongs_bind (prolongs_whileLoop _ _ fuel 0) fun _ => .refl _

end Speed

end CameraTestTensorflow

end Designosaurs
