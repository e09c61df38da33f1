import Designosaurs.Interact.Sum
import Designosaurs.Vision.CameraTestTensorflow

/-!
# `CameraTest`: following the localizer

The op mode asks its trackables one by one which of them is visible, and takes the robot's location
from the first one that is.  The localizer may answer `null`: then the field `lastLocation` keeps
what it had.  Whether a target is visible and whether a location is known are two things, and the
code below the search tests only the first one.

* `no_null_location_iff` — a run dereferences `null` exactly when the first location that the
  localizer ever returned was `null`.
* `wp_runOpMode` — wherever a run stops, the powers a wheel was given are, one for one, those of the
  locations that `lastLocation` went through.
-/

namespace Designosaurs

open Interact

variable {K : Type}

/-! ## The localizer -/

/-- A target the localizer knows. -/
structure VuforiaTrackable where
  index : ℕ
  name : String
  deriving DecidableEq

/-- A location, as far as it is read: the translation in millimetres, and the three angles of the
orientation in degrees. -/
structure OpenGLMatrix (K : Type) where
  x : K
  y : K
  z : K
  firstAngle : K
  secondAngle : K
  thirdAngle : K

/-- The calls that act and that the other op modes do not make.  `addNumbers` is a telemetry line of
three numbers, and `nullPointerException` the exception nobody catches. -/
inductive VuforiaCommand (K : Type) where
  | activate
  | deactivate
  | addNumbers (caption format : String) (x y z : K)
  | nullPointerException

/-- The readings that the other op modes do not take. -/
inductive VuforiaQuery where
  | isStopRequested
  | isVisible (trackable : VuforiaTrackable)
  | getUpdatedRobotLocation (trackable : VuforiaTrackable)
  deriving DecidableEq

/-- What each reading is.  `getUpdatedRobotLocation` may return `null`. -/
abbrev VuforiaQuery.Answer (K : Type) : VuforiaQuery → Type
  | isStopRequested => Bool
  | isVisible _ => Bool
  | getUpdatedRobotLocation _ => Option (OpenGLMatrix K)

/-- The interface of the localizer. -/
abbrev vuforia (K : Type) : Interface where
  Command := VuforiaCommand K
  Query := VuforiaQuery
  Answer := VuforiaQuery.Answer K

/-- The robot together with the localizer. -/
abbrev cameraRobot (K : Type) : Interface := (robot K).sum (vuforia K)

/-- A program that also uses the localizer. -/
abbrev CameraProgram (K : Type) (α : Type) := Program (cameraRobot K) α

/-! ## The op mode -/

namespace CameraTest

section Calls

abbrev isStopRequested : CameraProgram K Bool :=
  Program.query (I := cameraRobot K) (.inr .isStopRequested)

abbrev isVisible (trackable : VuforiaTrackable) : CameraProgram K Bool :=
  Program.query (I := cameraRobot K) (.inr (.isVisible trackable))

abbrev getUpdatedRobotLocation (trackable : VuforiaTrackable) :
    CameraProgram K (Option (OpenGLMatrix K)) :=
  Program.query (I := cameraRobot K) (.inr (.getUpdatedRobotLocation trackable))

abbrev addNumbers (caption format : String) (x y z : K) : CameraProgram K Unit :=
  Program.issue (.inr (.addNumbers caption format x y z))

/-- The object behind a reference; an uncaught exception ends the run. -/
def deref (location : Option (OpenGLMatrix K)) : CameraProgram K (OpenGLMatrix K) :=
  match location with
  | some location => return location
  | none => Program.command (.inr .nullPointerException) Program.cut

end Calls

section Source

variable [Field K]

/-- `mmPerInch`. -/
def mmPerInch : K := 25.4

/-- The speed for one location. -/
def targetSpeed (location : OpenGLMatrix K) : K := location.y / mmPerInch / -10

/-- The fields that the loop of the op mode writes. -/
structure Fields (K : Type) [Zero K] where
  lastLocation : Option (OpenGLMatrix K) := none
  targetVisible : Bool := false
  speed : K := 0

/-- The loop over the trackables, which breaks at the first visible one: the new values of
`targetVisible` and `lastLocation`. -/
def searchTargets : List VuforiaTrackable → Option (OpenGLMatrix K) →
    CameraProgram K (Bool × Option (OpenGLMatrix K))
  | [], lastLocation => return (false, lastLocation)
  | trackable :: rest, lastLocation => do
      if ← isVisible trackable then
        (addData "Visible Target" (.text trackable.name)).inl
        let robotLocationTransform ← getUpdatedRobotLocation trackable
        match robotLocationTransform with
        | some location => return (true, some location)
        | none => return (true, lastLocation)
      else searchTargets rest lastLocation

/-- The feedback as to where the robot is. -/
def showLocation (targetVisible : Bool) (lastLocation : Option (OpenGLMatrix K)) :
    CameraProgram K Unit :=
  if targetVisible then do
    let translation ← deref lastLocation
    addNumbers "Pos (in)" "\x7bX, Y, Z\x7d = %.1f, %.1f, %.1f"
      (translation.x / mmPerInch) (translation.y / mmPerInch) (translation.z / mmPerInch)
    let rotation ← deref lastLocation
    addNumbers "Rot (deg)" "\x7bRoll, Pitch, Heading\x7d = %.0f, %.0f, %.0f"
      rotation.firstAngle rotation.secondAngle rotation.thirdAngle
  else (addData "Visible Target" (.text "none")).inl

/-- The block that turns the robot; it returns the field `speed`. -/
def strafeToTarget (targetVisible : Bool) (lastLocation : Option (OpenGLMatrix K)) (speed : K) :
    CameraProgram K K :=
  if targetVisible then do
    let translation ← deref lastLocation
    let speed := targetSpeed translation
    (strafe speed).inl
    return speed
  else return speed

variable [LinearOrder K]

/-- The block that shows where the target is.  It computes the speed again. -/
def showTarget (targetVisible : Bool) (lastLocation : Option (OpenGLMatrix K)) (speed : K) :
    CameraProgram K K :=
  if targetVisible then do
    let translation ← deref lastLocation
    let speed := targetSpeed translation
    (addData "Target pos" (.text (if translation.y < 0 then "Left" else "Middle"))).inl
    return speed
  else do
    (addData "Target pos" (.text "Right")).inl
    return speed

/-- The body of the op mode's loop. -/
def look (allTrackables : List VuforiaTrackable) (fields : Fields K) :
    CameraProgram K (Fields K) := do
  let (targetVisible, lastLocation) ← searchTargets allTrackables fields.lastLocation
  showLocation targetVisible lastLocation
  let speed ← strafeToTarget targetVisible lastLocation fields.speed
  let speed ← showTarget targetVisible lastLocation speed
  updateTelemetry.inl
  return ⟨lastLocation, targetVisible, speed⟩

/-- `runOpMode`, for at most `fuel` rounds of its loop.  It does not wait for the start. -/
def runOpMode (allTrackables : List VuforiaTrackable) (fuel : ℕ) : CameraProgram K Unit := do
  init.inl
  Program.issue (.inr .activate)
  let _ ← Program.whileLoop (do return !(← isStopRequested)) (look allTrackables) fuel {}
  Program.issue (.inr .deactivate)

end Source

/-! ## What was seen -/

/-- The trackables that answered that they are visible, newest first. -/
def sightings : History (cameraRobot K) → List VuforiaTrackable
  | [] => []
  | .answer (.inr (.isVisible trackable)) true :: h => trackable :: sightings h
  | _ :: h => sightings h

/-- The locations the localizer returned, newest first, `null` among them. -/
def locations : History (cameraRobot K) → List (Option (OpenGLMatrix K))
  | [] => []
  | .answer (.inr (.getUpdatedRobotLocation _)) location :: h => location :: locations h
  | _ :: h => locations h

lemma sightings_append (new start : History (cameraRobot K)) :
    sightings (new ++ start) = sightings new ++ sightings start := by
  fun_induction sightings new with
  | case1 => rfl
  | case2 trackable h ih => rw [List.cons_append, sightings, ih, List.cons_append]
  | case3 e h hne ih => rw [List.cons_append, sightings.eq_3 _ _ hne, ih]

lemma locations_append (new start : History (cameraRobot K)) :
    locations (new ++ start) = locations new ++ locations start := by
  fun_induction locations new with
  | case1 => rfl
  | case2 trackable location h ih => rw [List.cons_append, locations, ih, List.cons_append]
  | case3 e h hne ih => rw [List.cons_append, locations.eq_3 _ _ hne, ih]

/-- What a variable goes through, newest first, that is assigned every answer but `null`; at a
`null` it has the value it had. -/
def kept {α : Type} : List (Option α) → List α
  | [] => []
  | some a :: older => a :: kept older
  | none :: older => (kept older).head?.toList ++ kept older

/-- One more answer: the variable has it, or what it had. -/
lemma kept_cons {α : Type} {answer : Option α} {older : List (Option α)} {a : α}
    (hvalue : answer.or (kept older).head? = some a) :
    kept (answer :: older) = a :: kept older := by
  cases answer with
  | some b =>
      obtain rfl : b = a := Option.some.inj hvalue
      rfl
  | none =>
      have hhead : (kept older).head? = some a := hvalue
      rw [kept, hhead]
      rfl

/-- A variable without a value was assigned nothing, or `null` at first. -/
lemma getLast?_of_kept_eq_nil {α : Type} {answers : List (Option α)} (hkept : kept answers = [])
    (hne : answers ≠ []) : answers.getLast? = some none := by
  induction answers with
  | nil => exact absurd rfl hne
  | cons answer older ih =>
      cases answer with
      | some a => exact absurd hkept (List.cons_ne_nil _ _)
      | none =>
          have holder : kept older = [] := (List.append_eq_nil_iff.mp hkept).2
          cases older with
          | nil => rfl
          | cons next rest => exact (List.getLast?_cons_cons ..).trans (ih holder (by simp))

section Runs

variable [Field K]

/-- The speeds of the locations that `lastLocation` went through, newest first. -/
def speeds (h : History (cameraRobot K)) : List K := (kept (locations h)).map targetSpeed

/-- What holds wherever a run stops. -/
structure Recorded (h : History (cameraRobot K)) : Prop where
  null_iff : .command (.inr .nullPointerException) ∈ h ↔ (locations h).getLast? = some none
  count : (locations h).length = (sightings h).length
  strafed : StrafedAt (speeds h) (History.left h)

/-- What holds at the head of the loop: nothing was thrown, and `lastLocation` has what the answers
left in it. -/
structure Tracks (lastLocation : Option (OpenGLMatrix K)) (h : History (cameraRobot K)) :
    Prop where
  last : lastLocation = (kept (locations h)).head?
  first : (locations h).getLast? ≠ some none
  calm : .command (.inr .nullPointerException) ∉ h
  count : (locations h).length = (sightings h).length
  strafed : StrafedAt (speeds h) (History.left h)

lemma Tracks.recorded {lastLocation : Option (OpenGLMatrix K)} {h : History (cameraRobot K)}
    (htracks : Tracks lastLocation h) : Recorded h :=
  ⟨iff_of_false htracks.calm htracks.first, htracks.count, htracks.strafed⟩

/-- An event that leaves all of this alone. -/
structure Still (e : Event (cameraRobot K)) : Prop where
  unthrown : e ≠ .command (.inr .nullPointerException)
  unsighted : ∀ h, sightings (e :: h) = sightings h
  unlocated : ∀ h, locations (e :: h) = locations h
  unpowered : ∀ wheel h, powers wheel (History.left (e :: h)) = powers wheel (History.left h)

lemma Tracks.still {lastLocation : Option (OpenGLMatrix K)} {h : History (cameraRobot K)}
    (htracks : Tracks lastLocation h) {e : Event (cameraRobot K)} (he : Still e) :
    Tracks lastLocation (e :: h) where
  last := by rw [he.unlocated]; exact htracks.last
  first := by rw [he.unlocated]; exact htracks.first
  calm := by
    rw [List.mem_cons, not_or]
    exact ⟨he.unthrown.symm, htracks.calm⟩
  count := by rw [he.unlocated, he.unsighted]; exact htracks.count
  strafed := by
    rw [speeds, he.unlocated]
    exact fun wheel => (he.unpowered wheel h).trans (htracks.strafed wheel)

/-- A target was seen, there is a location for it, and it gave the wheels their powers. -/
lemma Tracks.strafed_to {lastLocation : Option (OpenGLMatrix K)} {h h' : History (cameraRobot K)}
    (htracks : Tracks lastLocation h) {trackable : VuforiaTrackable}
    {answer : Option (OpenGLMatrix K)} {location : OpenGLMatrix K}
    (hvalue : answer.or lastLocation = some location)
    (hsightings : sightings h' = trackable :: sightings h)
    (hlocations : locations h' = answer :: locations h)
    (hcalm : .command (.inr .nullPointerException) ∉ h')
    (hpowers : ∀ wheel, powers wheel h'.left
      = strafePower (targetSpeed location) wheel :: powers wheel h.left) :
    Tracks (some location) h' := by
  rw [htracks.last] at hvalue
  have hkept : kept (locations h') = location :: kept (locations h) := by
    rw [hlocations, kept_cons hvalue]
  refine ⟨by rw [hkept]; rfl, ?_, hcalm, ?_, ?_⟩
  · rw [hlocations]
    cases hpast : locations h with
    | nil =>
        rw [hpast] at hvalue
        have hanswer : answer = some location := (Option.or_none ..).symm.trans hvalue
        simp [hanswer]
    | cons older rest =>
        rw [List.getLast?_cons_cons, ← hpast]
        exact htracks.first
  · rw [hlocations, hsightings, List.length_cons, List.length_cons, htracks.count]
  · rw [speeds, hkept]
    exact htracks.strafed.cons hpowers

/-- A target was seen and there is no location for it. -/
lemma Tracks.thrown {h h' : History (cameraRobot K)} (htracks : Tracks none h)
    {trackable : VuforiaTrackable} (hsightings : sightings h' = trackable :: sightings h)
    (hlocations : locations h' = none :: locations h)
    (hthrown : .command (.inr .nullPointerException) ∈ h')
    (hpowers : ∀ wheel, powers wheel h'.left = powers wheel h.left) : Recorded h' := by
  have hnothing : kept (locations h) = [] := List.head?_eq_none_iff.mp htracks.last.symm
  have hnever : locations h = [] := by
    by_contra hne
    exact htracks.first (getLast?_of_kept_eq_nil hnothing hne)
  refine ⟨iff_of_true hthrown ?_, ?_, ?_⟩
  · rw [hlocations, hnever]
    rfl
  · rw [hlocations, hsightings, List.length_cons, List.length_cons, htracks.count]
  · intro wheel
    rw [hpowers wheel, htracks.strafed wheel, speeds, speeds, hlocations, hnever]
    rfl

variable {env : Environment (cameraRobot K)} {R : History (cameraRobot K) → Prop}

/-- The search leaves everything as it was, or has just had its answer. -/
lemma wp_searchTargets (trackables : List VuforiaTrackable)
    {lastLocation : Option (OpenGLMatrix K)} {h : History (cameraRobot K)}
    (htracks : Tracks lastLocation h) :
    wp env (searchTargets trackables lastLocation)
      (fun found h' => if found.1 then ∃ trackable answer h₁, Tracks lastLocation h₁
          ∧ found.2 = answer.or lastLocation
          ∧ h' = .answer (.inr (.getUpdatedRobotLocation trackable)) answer
            :: .command (.inl (.addData "Visible Target" (.text trackable.name)))
            :: .answer (.inr (.isVisible trackable)) true :: h₁
        else found.2 = lastLocation ∧ Tracks lastLocation h') R h := by
  induction trackables generalizing h with
  | nil => exact ⟨rfl, htracks⟩
  | cons trackable rest ih =>
      simp only [searchTargets, wp_bind, wp_ask, wp_done]
      cases env h (.inr (.isVisible trackable)) with
      | false =>
          refine ih (htracks.still ?_)
          exact ⟨by simp, fun _ => rfl, fun _ => rfl, fun _ _ => rfl⟩
      | true =>
          simp only [if_true, Program.inl_command, Program.inl_done, wp_bind, wp_command, wp_ask,
            wp_done]
          generalize env _ (.inr (.getUpdatedRobotLocation trackable)) = answer
          cases answer with
          | some location => exact ⟨trackable, some location, h, htracks, rfl, rfl⟩
          | none => exact ⟨trackable, none, h, htracks, rfl, rfl⟩

omit [Field K] in
/-- The robot's telemetry. -/
lemma still_telemetry {c : Command K} (hc : Passive (.command c)) :
    Still (.command (.inl c) : Event (cameraRobot K)) where
  unthrown := by simp
  unsighted _ := rfl
  unlocated _ := rfl
  unpowered wheel h := hc.unpowered wheel (History.left h)

variable [LinearOrder K]

/-- **One round keeps track**, or it ends the run. -/
theorem wp_look (allTrackables : List VuforiaTrackable) {fields : Fields K}
    {h : History (cameraRobot K)} (htracks : Tracks fields.lastLocation h) :
    wp env (look allTrackables fields) (fun fields' => Tracks fields'.lastLocation) Recorded h := by
  obtain ⟨before, targetVisible, speed⟩ := fields
  refine wp_seq (wp_searchTargets allTrackables htracks) ?_
  rintro ⟨_ | _, lastLocation⟩ h' hfound
  · obtain ⟨rfl, htracks'⟩ : lastLocation = before ∧ Tracks before h' := hfound
    exact ((htracks'.still (still_telemetry (passive_addData _ _))).still
      (still_telemetry (passive_addData _ _))).still (still_telemetry passive_updateTelemetry)
  · obtain ⟨trackable, answer, h₁, htracks₁, hlast, rfl⟩ := hfound
    cases lastLocation with
    | none =>
        obtain ⟨rfl, rfl⟩ := Option.or_eq_none_iff.mp hlast.symm
        exact htracks₁.thrown rfl rfl (by simp) fun _ => rfl
    | some location =>
        refine htracks₁.strafed_to hlast.symm rfl rfl ?_ ?_
        · simp [htracks₁.calm]
        · rintro (_ | _ | _ | _) <;> rfl

/-- The loop of the op mode, by the invariant `Tracks`. -/
lemma wp_loop (allTrackables : List VuforiaTrackable) (fuel : ℕ) {fields : Fields K}
    {h : History (cameraRobot K)} (htracks : Tracks fields.lastLocation h) :
    wp env (Program.whileLoop (do return !(← isStopRequested)) (look allTrackables) fuel fields)
      (fun fields' => Tracks fields'.lastLocation) Recorded h := by
  have hrequested : ∀ requested : Bool,
      Still (.answer (.inr .isStopRequested) requested : Event (cameraRobot K)) :=
    fun _ => ⟨by simp, fun _ => rfl, fun _ => rfl, fun _ _ => rfl⟩
  refine wp_whileLoop (fun fields => Tracks fields.lastLocation) (fun _ _ => Tracks.recorded)
    (fun fields g hg => ?_) fuel fields h htracks
  simp only [wp_bind, wp_ask, wp_done, wp_pure]
  have hnext := hg.still (hrequested (env g (.inr .isStopRequested)))
  cases hstop : env g (.inr .isStopRequested) with
  | true =>
      rw [hstop] at hnext
      exact hnext
  | false =>
      rw [hstop] at hnext
      exact wp_look allTrackables hnext

/-- **A run stops with everything recorded**, wherever it stops. -/
theorem wp_runOpMode (env : Environment (cameraRobot K)) (allTrackables : List VuforiaTrackable)
    (fuel : ℕ) : wp env (runOpMode allTrackables fuel) (fun _ => Recorded) Recorded [] := by
  have hstart : wp env ((init : RobotProgram K Unit).inl : CameraProgram K Unit)
      (fun _ => Tracks none) Recorded [] := by
    refine ⟨rfl, by simp [locations], by simp, rfl, ?_⟩
    rintro (_ | _ | _ | _) <;> rfl
  have hactivate : Still (.command (.inr .activate) : Event (cameraRobot K)) :=
    ⟨by simp, fun _ => rfl, fun _ => rfl, fun _ _ => rfl⟩
  have hdeactivate : Still (.command (.inr .deactivate) : Event (cameraRobot K)) :=
    ⟨by simp, fun _ => rfl, fun _ => rfl, fun _ _ => rfl⟩
  refine wp_seq hstart fun _ h htracks => ?_
  rw [wp_bind, wp_command, wp_done]
  exact wp_seq (wp_loop allTrackables fuel (htracks.still hactivate))
    fun fields g hg => (hg.still hdeactivate).recorded

/-- **The first location decides.**  In a run of the op mode, whatever the trackables and the
answers, `null` is dereferenced if and only if the first location that the localizer returned was
`null`. -/
theorem no_null_location_iff (env : Environment (cameraRobot K))
    (allTrackables : List VuforiaTrackable) (fuel : ℕ) :
    .command (.inr .nullPointerException)
        ∉ (Program.run env (runOpMode allTrackables fuel) []).2
      ↔ (locations (Program.run env (runOpMode allTrackables fuel) []).2).getLast? ≠ some none :=
  (wp_final (wp_runOpMode env allTrackables fuel)).null_iff.not

/-- One more round goes on where the last one ended. -/
lemma prolongs_runOpMode (env : Environment (cameraRobot K))
    (allTrackables : List VuforiaTrackable) (fuel : ℕ) :
    Prolongs env (runOpMode allTrackables fuel : CameraProgram K Unit)
      (runOpMode allTrackables (fuel + 1)) :=
  prolongs_bind (.refl _) fun _ => prolongs_bind (.refl _) fun _ =>
    prolongs_bind (prolongs_whileLoop _ _ fuel _) fun _ => .refl _

end Runs

/-- A camera that sees its first target before it knows where the robot is. -/
def earlySighting : Environment (cameraRobot ℝ)
  | _, .inl (.isBusy _) => false
  | _, .inl (.getCurrentPosition _) => 0
  | _, .inl .opModeIsActive => true
  | _, .inl .nsNow => 0
  | _, .inl .canCreateTFObjectDetector => false
  | _, .inl .getUpdatedRecognitions => none
  | _, .inr .isStopRequested => false
  | _, .inr (.isVisible _) => true
  | _, .inr (.getUpdatedRobotLocation _) => none

/-- It ends the op mode in the first round. -/
theorem early_sighting_throws :
    ¬ ∀ (env : Environment (cameraRobot ℝ)) (allTrackables : List VuforiaTrackable) (fuel : ℕ),
      .command (.inr .nullPointerException)
        ∉ (Program.run env (runOpMode allTrackables fuel) []).2 :=
  fun h => h earlySighting [⟨0, "Stone Target"⟩] 1 List.mem_cons_self

end CameraTest

end Designosaurs
