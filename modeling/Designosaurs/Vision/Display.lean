import Designosaurs.TeleOp.Mixer
import Designosaurs.Vision.CameraTest

/-!
# What the camera op modes say and what they do

Both camera op modes write "Target pos" to the driver station and give the wheels their powers, in
two places each that decide for themselves.  `screen_tells_the_motion` has them side by side for
every run.  The robot is told nothing but sideways motions, as the mixer of the TeleOp reads its
wheels, and the labels name their sides one for one.
-/

namespace Designosaurs

open Interact

variable {K : Type}

/-- What the screen said of the place of a target, newest first; "Right" is what it says when there
is none. -/
def shown : History (robot K) → List String
  | [] => []
  | .command (.addData caption (.text text)) :: h =>
      if caption = "Target pos" ∧ text ≠ "Right" then text :: shown h else shown h
  | _ :: h => shown h

/-- An event that gives no drive motor a power and names no side. -/
def Mute (e : Event (robot K)) : Prop := Unpowered e ∧ ∀ h, shown (e :: h) = shown h

@[simp] lemma mute_answer (q : Query) (a : Query.Answer K q) :
    Mute (.answer q a : Event (robot K)) :=
  ⟨unpowered_answer q a, fun _ => rfl⟩

@[simp] lemma mute_updateTelemetry : Mute (.command .updateTelemetry : Event (robot K)) :=
  ⟨passive_updateTelemetry.unpowered, fun _ => rfl⟩

@[simp] lemma mute_waitForStart : Mute (.command .waitForStart : Event (robot K)) :=
  ⟨passive_waitForStart.unpowered, fun _ => rfl⟩

@[simp] lemma mute_activateTfod : Mute (.command .activateTfod : Event (robot K)) :=
  ⟨passive_activateTfod.unpowered, fun _ => rfl⟩

@[simp] lemma mute_shutdownTfod : Mute (.command .shutdownTfod : Event (robot K)) :=
  ⟨passive_shutdownTfod.unpowered, fun _ => rfl⟩

lemma mute_addData {caption : String} {value : Shown K}
    (hvalue : caption ≠ "Target pos" ∨ value = .text "Right") :
    Mute (.command (.addData caption value)) := by
  refine ⟨(passive_addData caption value).unpowered, fun h => ?_⟩
  cases value with
  | text text =>
      refine if_neg fun hlabel => ?_
      rcases hvalue with hcaption | heq
      · exact hcaption hlabel.1
      · exact hlabel.2 (Shown.text.inj heq)
  | _ => rfl

section Announces

variable [Field K] [LinearOrder K]

/-- The label for a speed. -/
def side (speed : K) : String := if 0 < speed then "Left" else "Middle"

lemma shown_side (speed : K) (h : History (robot K)) :
    shown (.command (.addData "Target pos" (.text (side speed))) :: h) = side speed :: shown h := by
  have hright : side speed ≠ "Right" := by
    unfold side
    split_ifs <;> decide
  exact if_pos ⟨rfl, hright⟩

/-- The wheels were given the powers of sideways motions at these speeds, a positive one to the
left, and the screen named their sides. -/
structure Announces (speeds : List K) (h : History (robot K)) : Prop where
  sideways : ∀ wheel, powers wheel h = speeds.map (fun speed => mix 0 (-speed) 0 wheel) ++ [0]
  named : shown h = speeds.map side

omit [LinearOrder K] in
/-- Giving the wheels the powers of `strafe` moves the robot sideways. -/
lemma strafePower_eq_mix (speed : K) (wheel : Wheel) :
    strafePower speed wheel = mix 0 (-speed) 0 wheel := by
  cases wheel <;> simp [strafePower, mix]

/-- The sides of some speeds were named. -/
def Announced (h : History (robot K)) : Prop := ∃ speeds, Announces speeds h

lemma announced_init {env : Environment (robot K)} {R : History (robot K) → Prop} :
    wp env init (fun _ => Announced) R [] := by
  refine ⟨[], ?_, rfl⟩
  rintro (_ | _ | _ | _) <;> rfl

lemma Announced.mute {e : Event (robot K)} (he : Mute e) {h : History (robot K)}
    (hh : Announced h) : Announced (e :: h) := by
  obtain ⟨speeds, hsideways, hnamed⟩ := hh
  exact ⟨speeds, fun wheel => (he.1 wheel h).trans (hsideways wheel), (he.2 h).trans hnamed⟩

/-- The robot was set going at a speed and the screen has named its side. -/
lemma Announced.strafed {h h' : History (robot K)} (hh : Announced h) (speed : K)
    (hpowers : ∀ wheel, powers wheel h' = strafePower speed wheel :: powers wheel h)
    (hshown : shown h' = side speed :: shown h) : Announced h' := by
  obtain ⟨speeds, hsideways, hnamed⟩ := hh
  refine ⟨speed :: speeds, fun wheel => ?_, ?_⟩
  · rw [hpowers wheel, hsideways wheel, strafePower_eq_mix]
    rfl
  · rw [hshown, hnamed]
    rfl

/-- The speeds are what the wheels were told. -/
lemma Announces.speeds_eq {speeds speeds' : List K} {h : History (robot K)}
    (hannounces : Announces speeds h) (hstrafed : StrafedAt speeds' h) : speeds = speeds' := by
  have hright := (hannounces.sideways .frontRight).symm.trans (hstrafed .frontRight)
  simpa [mix, strafePower] using hright

lemma Announced.of_strafedAt {speeds : List K} {h : History (robot K)} (hh : Announced h)
    (hstrafed : StrafedAt speeds h) : Announces speeds h := by
  obtain ⟨speeds', hannounces⟩ := hh
  exact hannounces.speeds_eq hstrafed ▸ hannounces

end Announces

section Runs

variable [Field K] [LinearOrder K] [IsStrictOrderedRing K] {env : Environment (robot K)}

/-- The label for the place of a box is the side of its speed. -/
lemma CameraTestTensorflow.side_targetSpeed (box : Recognition K) :
    side (targetSpeed box) = if box.left < 250 then "Left" else "Middle" := by
  have hsign : 0 < targetSpeed box ↔ box.left < 250 := by
    rw [targetSpeed, div_neg, ← neg_div, div_pos_iff_of_pos_right (by norm_num), neg_pos, sub_neg]
  simp only [side, hsign]

/-- The label for a location is the side of its speed. -/
lemma CameraTest.side_targetSpeed (location : OpenGLMatrix K) :
    side (targetSpeed location) = if location.y < 0 then "Left" else "Middle" := by
  have hsign : 0 < targetSpeed location ↔ location.y < 0 := by
    rw [targetSpeed, mmPerInch, div_neg, ← neg_div, div_pos_iff_of_pos_right (by norm_num),
      neg_pos, ← neg_pos, ← neg_div, div_pos_iff_of_pos_right (by norm_num), neg_pos]
  simp only [side, hsign]

/-- The boxes of a picture, one after the other. -/
lemma CameraTestTensorflow.keeps_follow (recognitions : List (Recognition K)) (speed : K) :
    Keeps env Announced (follow recognitions speed) := by
  induction recognitions generalizing speed with
  | nil => exact fun _ hh => hh
  | cons box rest ih =>
      intro h hh
      refine ih (targetSpeed box) _ (hh.strafed (targetSpeed box) ?_ ?_)
      · rintro (_ | _ | _ | _) <;> rfl
      · rw [← side_targetSpeed]
        exact shown_side (targetSpeed box) h

omit [IsStrictOrderedRing K] in
lemma keeps_announced {α : Type} {p : RobotProgram K α} (hp : Emits Mute p) :
    Keeps env Announced p :=
  hp.keeps fun _ _ he hh => hh.mute he

/-- A round of the loop of `CameraTestTensorflow`. -/
lemma CameraTestTensorflow.keeps_look (tfod : Bool) (speed : K) :
    Keeps env Announced (look tfod speed) := by
  cases tfod with
  | false => exact fun _ hh => hh
  | true =>
      refine keeps_bind (keeps_announced (by simp)) fun picture => ?_
      cases picture with
      | none => exact fun _ hh => hh
      | some recognitions =>
          refine keeps_bind (keeps_announced (by simp [mute_addData])) fun _ => ?_
          exact keeps_bind (keeps_follow recognitions speed) fun _ => keeps_announced (by simp)

/-- A run of `CameraTestTensorflow`. -/
lemma CameraTestTensorflow.wp_announced (env : Environment (robot K)) (fuel : ℕ) :
    wp env (runOpMode fuel) (fun _ => Announced) Announced [] := by
  have hsetup : wp env setup (fun _ => Announced) Announced [] :=
    wp_seq announced_init fun _ => keeps_announced (by simp [Program.when, mute_addData])
  have hactive : Keeps env (Announced (K := K)) opModeIsActive := keeps_announced (by simp)
  refine wp_seq hsetup fun tfod => keeps_bind hactive fun active => ?_
  cases active with
  | false => exact fun _ hh => hh
  | true =>
      exact keeps_bind (keeps_whileLoop hactive (keeps_look tfod) fuel 0)
        fun _ => keeps_announced (by simp)

omit [IsStrictOrderedRing K] in
lemma keeps_announced_left {env : Environment (cameraRobot K)} {α : Type} {p : CameraProgram K α}
    (hp : Emits (OnLeft Mute) p) : Keeps env (fun h => Announced (History.left h)) p :=
  hp.keeps_left fun _ _ he hh => hh.mute he

omit [LinearOrder K] [IsStrictOrderedRing K] [Field K] in
/-- Looking for a target says nothing of its side. -/
lemma CameraTest.emits_searchTargets (trackables : List VuforiaTrackable)
    (lastLocation : Option (OpenGLMatrix K)) :
    Emits (OnLeft Mute) (searchTargets trackables lastLocation) := by
  induction trackables with
  | nil => trivial
  | cons trackable rest ih =>
      refine emits_bind (emits_query_inr _) fun visible => ?_
      cases visible with
      | false => exact ih
      | true =>
          refine emits_bind (emits_inl (by simp [mute_addData])) fun _ => ?_
          refine emits_bind (emits_query_inr _) fun answer => ?_
          cases answer <;> trivial

/-- A round of the loop of `CameraTest`. -/
lemma CameraTest.keeps_look {env : Environment (cameraRobot K)}
    (allTrackables : List VuforiaTrackable) (fields : Fields K) :
    Keeps env (fun h => Announced (History.left h)) (look allTrackables fields) := by
  refine keeps_bind (keeps_announced_left (emits_searchTargets _ _)) fun found => ?_
  rcases found with ⟨_ | _, lastLocation⟩
  · have hnone : Emits Mute (addData "Visible Target" (.text "none") : RobotProgram K Unit) :=
      ⟨mute_addData (.inl (by decide)), trivial⟩
    have hright : Emits Mute (addData "Target pos" (.text "Right") : RobotProgram K Unit) :=
      ⟨mute_addData (.inr rfl), trivial⟩
    refine keeps_announced_left (emits_bind (emits_inl hnone) fun _ => ?_)
    refine emits_bind (emits_pure _) fun speed => ?_
    refine emits_bind (emits_bind (emits_inl hright) fun _ => emits_pure _) fun speed => ?_
    exact emits_bind (emits_inl (by simp)) fun _ => emits_pure _
  cases lastLocation with
  | none =>
      have hthrown : Emits (OnLeft Mute) (showLocation true none : CameraProgram K Unit) :=
        ⟨fun _ he => (nomatch he), trivial⟩
      refine keeps_bind (keeps_announced_left hthrown) fun _ => ?_
      refine keeps_announced_left (emits_bind ?_ fun _ => ?_)
      · exact ⟨fun _ he => (nomatch he), trivial⟩
      · exact ⟨fun _ he => (nomatch he), trivial⟩
  | some location =>
      intro h hh
      refine Announced.mute mute_updateTelemetry (hh.strafed (targetSpeed location) ?_ ?_)
      · rintro (_ | _ | _ | _) <;> rfl
      · rw [← side_targetSpeed]
        exact shown_side (targetSpeed location) (History.left h)

/-- A run of `CameraTest`. -/
lemma CameraTest.wp_announced (env : Environment (cameraRobot K))
    (allTrackables : List VuforiaTrackable) (fuel : ℕ) :
    wp env (runOpMode allTrackables fuel) (fun _ h => Announced (History.left h))
      (fun h => Announced (History.left h)) [] := by
  have hinit : wp env ((init : RobotProgram K Unit).inl : CameraProgram K Unit)
      (fun _ h => Announced (History.left h)) (fun h => Announced (History.left h)) [] := by
    refine ⟨[], ?_, rfl⟩
    rintro (_ | _ | _ | _) <;> rfl
  refine wp_seq hinit fun _ => keeps_bind (keeps_announced_left (emits_issue_inr _)) fun _ => ?_
  have hguard : Keeps env (fun h => Announced (History.left h))
      (do return !(← isStopRequested) : CameraProgram K Bool) :=
    keeps_announced_left (emits_bind (emits_query_inr _) fun _ => trivial)
  exact keeps_bind (keeps_whileLoop hguard (keeps_look allTrackables) fuel {})
    fun _ => keeps_announced_left (emits_issue_inr _)

/-- **The screen tells the motion.**  In every run of either camera op mode, whatever it sees and
wherever it stops, the wheels are told nothing but sideways motions, one for each box or location,
and the labels of the screen are "Left" for those to the left and "Middle" for the others, in their
order. -/
theorem screen_tells_the_motion :
    (∀ (env : Environment (robot K)) (fuel : ℕ),
      let h := (Program.run env (CameraTestTensorflow.runOpMode fuel) []).2
      Announces (CameraTestTensorflow.speeds h) h)
    ∧ ∀ (env : Environment (cameraRobot K)) (allTrackables : List VuforiaTrackable) (fuel : ℕ),
      let h := (Program.run env (CameraTest.runOpMode allTrackables fuel) []).2
      Announces (CameraTest.speeds h) (History.left h) := by
  constructor
  · intro env fuel h
    have hstrafed : StrafedAt (CameraTestTensorflow.speeds h) h :=
      wp_final (S := fun h => StrafedAt (CameraTestTensorflow.speeds h) h)
        (CameraTestTensorflow.powers_runOpMode env fuel)
    exact (wp_final (CameraTestTensorflow.wp_announced env fuel)).of_strafedAt hstrafed
  · intro env allTrackables fuel h
    have hannounced : Announced (History.left h) := wp_final (S := fun h => Announced h.left)
      (CameraTest.wp_announced env allTrackables fuel)
    exact hannounced.of_strafedAt
      (wp_final (CameraTest.wp_runOpMode env allTrackables fuel)).strafed

end Runs

/-- A detector that draws one box, 200 pixels left of where the op mode aims. -/
def boxOnTheLeft : Environment (robot ℝ)
  | _, .isBusy _ => false
  | _, .getCurrentPosition _ => 0
  | _, .opModeIsActive => true
  | _, .nsNow => 0
  | _, .canCreateTFObjectDetector => true
  | _, .getUpdatedRecognitions => some [⟨.literal "Skystone", 50.0, 0, 100.0, 100.0⟩]

/-- It sends the robot to the left. -/
theorem box_on_the_left :
    shown (Program.run boxOnTheLeft (CameraTestTensorflow.runOpMode 2) []).2
      = ["Left", "Left"] := by
  have hnamed : shown (Program.run boxOnTheLeft (CameraTestTensorflow.runOpMode 2) []).2
      = [side (((50.0 : ℝ) - 250) / -200), side (((50.0 : ℝ) - 250) / -200)] :=
    (screen_tells_the_motion.1 boxOnTheLeft 2).named
  rw [hnamed]
  norm_num [side]

end Designosaurs
