import Designosaurs.Autonomous.Script
import Designosaurs.Interact.Protocol
import Designosaurs.Vision.CameraTestTensorflow

/-!
# The detector from its creation to its shutdown

An op mode asks once whether the phone can have a detector at all.  If it can, the detector has to
be activated before it is asked for boxes, and has to be shut down in the end, once, and not to be
asked again.  `detector` is that order as a protocol.

* `detector_released` — the autonomous op modes keep it in every run, and a run that returns has
  shut the detector down.
* `detector_left_active_iff` — `CameraTestTensorflow` keeps it too, but for its end: it has the
  shutdown inside its test of `opModeIsActive`, and leaves the detector active in exactly the runs
  that are stopped before they are started.
-/

namespace Designosaurs

open Interact

variable {K : Type}

/-- The life of a detector. -/
inductive DetectorState where
  | absent
  | created
  | active
  | shut
  deriving DecidableEq, Repr

/-- The protocol of the detector. -/
def detector : Protocol (robot K) DetectorState
  | s, .answer .canCreateTFObjectDetector there =>
      if s = .absent then some (if there then .created else .absent) else none
  | s, .command .activateTfod => if s = .created then some .active else none
  | s, .answer .getUpdatedRecognitions _ => if s = .active then some s else none
  | s, .command .shutdownTfod => if s = .active then some .shut else none
  | s, _ => some s

/-- While the op mode runs. -/
def DetectorState.running (tfod : Bool) : DetectorState := if tfod then .active else .absent

/-- When it is through. -/
def DetectorState.released (tfod : Bool) : DetectorState := if tfod then .shut else .absent

/-- An event that is none of the detector's. -/
def Aside (e : Event (robot K)) : Prop := ∀ s, detector s e = some s

@[simp] lemma aside_command {c : Command K} :
    Aside (.command c : Event (robot K)) ↔ c ≠ .activateTfod ∧ c ≠ .shutdownTfod := by
  constructor
  · intro hc
    constructor
    · rintro rfl
      exact absurd (hc .shut) (by simp [detector])
    · rintro rfl
      exact absurd (hc .shut) (by simp [detector])
  · rintro ⟨hactivate, hshutdown⟩ s
    cases c with
    | activateTfod => exact absurd rfl hactivate
    | shutdownTfod => exact absurd rfl hshutdown
    | _ => rfl

@[simp] lemma aside_answer {q : Query} (hcreate : q ≠ .canCreateTFObjectDetector)
    (hask : q ≠ .getUpdatedRecognitions) (a : Query.Answer K q) :
    Aside (.answer q a : Event (robot K)) := by
  intro s
  cases q with
  | canCreateTFObjectDetector => exact absurd rfl hcreate
  | getUpdatedRecognitions => exact absurd rfl hask
  | _ => rfl

lemma Waiting.aside {e : Event (robot K)} (he : Waiting e) : Aside e := by
  cases e with
  | answer q a =>
      cases q with
      | nsNow => exact fun _ => rfl
      | opModeIsActive => exact fun _ => rfl
      | _ => exact he.elim
  | command c =>
      cases c with
      | addData caption value => exact fun _ => rfl
      | updateTelemetry => exact fun _ => rfl
      | _ => exact he.elim

lemma follows_aside {α : Type} {p : RobotProgram K α} (hp : Emits Aside p) (s : DetectorState) :
    detector.Follows p s fun _ s' => s' = s :=
  Protocol.follows_of_emits (hp.mono fun _ he => he s)

section Statements

variable [Field K] [LinearOrder K] [FloorRing K] (hw : HardwareDesignosaurs K) (fuel : ℕ)

/-- No statement but the shutdown concerns the detector. -/
lemma Statement.emits_aside {statement : Statement K} (hne : statement ≠ .shutdownTfod)
    (time : ElapsedTime) : Emits Aside (statement.program hw fuel time) := by
  cases statement with
  | shutdownTfod => exact absurd rfl hne
  | setPosition servo position => simp [Statement.program]
  | moveRTP direction maxSpeed distance =>
      exact emits_moveRTP (fun _ he => he.aside) (by simp) (by simp) (by simp) (by simp) (by simp)
        (by simp) hw fuel direction maxSpeed distance
  | _ =>
      refine (Statement.emits_waiting hw fuel time _ ?_).mono fun _ he => he.aside
      trivial

/-- The program takes a detector from one state to another on every branch. -/
def Auto.Takes : Auto K → DetectorState → DetectorState → Prop
  | .done, s, s' => s = s'
  | .step .shutdownTfod next, s, s' => s = .active ∧ next.Takes .shut s'
  | .step _ next, s, s' => next.Takes s s'
  | .detect _ tfod next, s, s' => (tfod = true → s = .active) ∧ ∀ pos, (next pos).Takes s s'

omit [FloorRing K] in
/-- Once the detector has answered, the look at the camera is telemetry. -/
lemma Classifier.emits_boxes {φ : Event (robot K) → Prop}
    (hline : ∀ caption value, φ (.command (.addData caption value)))
    (hupdate : φ (.command .updateTelemetry)) (c : Classifier K)
    (recognitions : List (Recognition K)) (pos : ℕ) :
    Emits φ (do
      addData "# Object Detected" (.count recognitions.length)
      let lowestAvg ← scan recognitions ⊤
      addData "middle of sky" (.lowest lowestAvg)
      let pos ← c.setPos lowestAvg pos
      updateTelemetry
      return pos) := by
  have hscan : ∀ lowestAvg : WithTop K, Emits φ (scan recognitions lowestAvg) := by
    induction recognitions with
    | nil => exact fun _ => trivial
    | cons r rest ih => exact fun low => ⟨hline _ _, hline _ _, hline _ _, ih _⟩
  refine emits_bind (by simp [hline]) fun _ => emits_bind (hscan ⊤) fun low => ?_
  refine emits_bind (by simp [hline]) fun _ => emits_bind ?_ fun pos => by simp [hupdate]
  simp [setPos, hline]

omit [FloorRing K] in
/-- The look at the camera. -/
lemma follows_detect (classifier : Classifier K) {tfod : Bool} {s : DetectorState}
    (hactive : tfod = true → s = .active) :
    detector.Follows (classifier.detect tfod 0) s fun _ s' => s' = s := by
  cases tfod with
  | false => rfl
  | true =>
      obtain rfl := hactive rfl
      intro answer
      refine ⟨.active, rfl, ?_⟩
      cases answer with
      | none => rfl
      | some recognitions =>
          exact follows_aside (classifier.emits_boxes (by simp) (by simp) recognitions 0) .active

/-- **A program does with the detector what its text says.** -/
lemma follows_takes {auto : Auto K} {s s' : DetectorState} (htakes : auto.Takes s s')
    (time : ElapsedTime) : detector.Follows (auto.program hw fuel time) s fun _ t => t = s' := by
  induction auto generalizing s time with
  | done => exact htakes
  | step statement next ih =>
      by_cases hshutdown : statement = .shutdownTfod
      · subst hshutdown
        obtain ⟨rfl, hnext⟩ := htakes
        exact ⟨.shut, rfl, ih hnext time⟩
      · have hnext : next.Takes s s' := by
          cases statement with
          | shutdownTfod => exact absurd rfl hshutdown
          | _ => exact htakes
        refine Protocol.follows_bind
          (follows_aside (Statement.emits_aside hw fuel hshutdown time) s) ?_
        rintro time s₁ rfl
        exact ih hnext time
  | detect classifier tfod next ih =>
      refine Protocol.follows_bind (follows_detect classifier htakes.1) ?_
      rintro pos s₁ rfl
      exact ih pos (htakes.2 pos) time

end Statements

/-! ## The autonomous op modes -/

section OpModes

lemma Auto.takes_steps {statements : List (Statement K)} {next : Auto K} {s s' : DetectorState}
    (hne : ∀ x ∈ statements, x ≠ .shutdownTfod) (hnext : next.Takes s s') :
    (Auto.steps statements next).Takes s s' := by
  induction statements with
  | nil => exact hnext
  | cons x rest ih =>
      rw [List.forall_mem_cons] at hne
      cases x with
      | shutdownTfod => exact absurd rfl hne.1
      | _ => exact ih hne.2

lemma Auto.steps_append (first later : List (Statement K)) (next : Auto K) :
    Auto.steps (first ++ later) next = Auto.steps first (Auto.steps later next) :=
  List.foldr_append

/-- The form of the skystone programs. -/
lemma Auto.takes_skystone {approach : List (Statement K)} {classifier : Classifier K} {tfod : Bool}
    {rest : ℕ → List (Statement K)} (happroach : ∀ x ∈ approach, x ≠ .shutdownTfod)
    (hrest : ∀ pos, ∀ x ∈ rest pos, x ≠ .shutdownTfod) :
    (Auto.steps approach (.detect classifier tfod fun pos =>
      .steps (rest pos ++ shutdown tfod) .done)).Takes (.running tfod) (.released tfod) := by
  have hlast : (Auto.steps (shutdown tfod) .done : Auto K).Takes (.running tfod)
      (.released tfod) := by
    cases tfod with
    | false => rfl
    | true => exact ⟨rfl, rfl⟩
  refine Auto.takes_steps happroach ⟨fun htfod => by rw [htfod]; rfl, fun pos => ?_⟩
  show (Auto.steps (rest pos ++ shutdown tfod) .done).Takes _ _
  rw [Auto.steps_append]
  exact Auto.takes_steps (hrest pos) hlast

/-- Looking for a detector. -/
lemma follows_initVision :
    detector.Follows (initVision : RobotProgram K Bool) .absent
      fun tfod s => s = .running tfod := by
  refine Protocol.follows_bind
    (M := fun there s => s = if there then .created else .absent) (fun _ => ⟨_, rfl, rfl⟩) ?_
  rintro (_ | _) _ rfl <;> simp [Program.when, detector, DetectorState.running]

/-- The detector is released, if there is one. -/
def Released (h : History (robot K)) : Prop :=
  detector.after .absent h = some .absent ∨ detector.after .absent h = some .shut

variable [Field K]

/-- What an autonomous op mode has done to the detector when its program begins, the program leads
to its release. -/
lemma follows_start {op : OpMode K} (hop : op ∈ opModes) :
    detector.Follows op.start .absent fun start s =>
      ∃ tfod, (op.body start.2).Takes s (.released tfod) := by
  have hinit : ∀ s, detector.Follows (init : RobotProgram K Unit) s fun _ s' => s' = s :=
    follows_aside (by simp [init])
  have hstart : ∀ (op : OpMode K) (M : op.Memory → DetectorState → Prop),
      detector.Follows op.setup .absent M →
      (∀ memory s, M memory s → ∃ tfod, (op.body memory).Takes s (.released tfod)) →
      detector.Follows op.start .absent fun start s =>
        ∃ tfod, (op.body start.2).Takes s (.released tfod) := by
    intro op M hsetup hbody
    refine Protocol.follows_bind (follows_aside (by simp [ElapsedTime.reset]) _) ?_
    rintro runtime _ rfl
    refine Protocol.follows_bind hsetup fun memory s hs => Protocol.follows_bind (hinit s) ?_
    rintro _ _ rfl
    exact hbody memory _ hs
  simp only [opModes, List.mem_cons, List.not_mem_nil, or_false] at hop
  rcases hop with rfl | rfl | rfl | rfl | rfl | rfl | rfl | rfl
  iterate 4
    · refine hstart _ (fun _ s => s = .absent) (follows_aside ?_ _) ?_
      · simp [ParkingAuto, MoveRTPTest, BlueFoundationMove, RedFoundationMove, ElapsedTime.now]
      · rintro memory _ rfl
        exact ⟨false, Auto.takes_steps (by simp) rfl⟩
  iterate 4
    · refine hstart _ (fun tfod s => s = .running tfod) follows_initVision ?_
      rintro tfod _ rfl
      refine ⟨tfod, Auto.takes_skystone (by simp) fun pos => ?_⟩
      simp only [List.forall_mem_append, forall_mem_byPos_iff]
      simp

variable [LinearOrder K] [FloorRing K]

/-- **The detector is released.**  In every run of an autonomous op mode, whatever is answered, the
detector is activated once before it is asked and shut down once after it, if there is one, and left
alone if there is none; a run that returns has shut it down. -/
theorem detector_released {op : OpMode K} (hop : op ∈ opModes) (env : Environment (robot K))
    (hw : HardwareDesignosaurs K) (fuel : ℕ) :
    (detector.after .absent (Program.run env (op.runOpMode hw fuel) []).2).isSome
      ∧ ∀ finish, Program.run env (op.runOpMode hw fuel) [] = (some (), finish) →
        Released finish := by
  have hrun : detector.Follows (op.runOpMode hw fuel) .absent fun _ s =>
      ∃ tfod, s = .released tfod := by
    refine Protocol.follows_bind (follows_start hop) fun start s htakes => ?_
    obtain ⟨tfod, htakes⟩ := htakes
    refine (follows_takes hw fuel htakes start.1).mono ?_
    rintro _ _ rfl
    exact ⟨tfod, rfl⟩
  have hafter : wp env (op.runOpMode hw fuel)
      (fun _ h => ∃ s, detector.after .absent h = some s ∧ ∃ tfod, s = .released tfod)
      (fun h => (detector.after .absent h).isSome) [] := Protocol.wp_of_follows hrun rfl
  constructor
  · refine wp_final (wp_mono ?_ (fun _ => id) hafter)
    rintro _ h ⟨s, hs, -⟩
    rw [hs]
    rfl
  · intro finish hfinish
    obtain ⟨_, hs, tfod, rfl⟩ := wp_returns hafter hfinish
    cases tfod with
    | false => exact .inl hs
    | true => exact .inr hs

end OpModes

/-- The prompt robot with a detector that has nothing new. -/
def unsightedRobot : Environment (robot ℝ)
  | _, .canCreateTFObjectDetector => true
  | h, q => promptRobot h q

/-- It is shut down. -/
theorem unsighted_released : ∃ h,
    Program.run unsightedRobot (BlueSkystoneAutoOneBlock.runOpMode designosaurs 2) []
        = (some (), h) ∧ Released h := by
  have hop : BlueSkystoneAutoOneBlock ∈ opModes (K := ℝ) := by simp [opModes]
  exact ⟨_, rfl, (detector_released hop unsightedRobot designosaurs 2).2 _ rfl⟩

/-! ## The camera op mode -/

namespace CameraTestTensorflow

variable [Field K] [LinearOrder K]

/-- Going through the boxes does not concern the detector. -/
lemma emits_follow_aside (recognitions : List (Recognition K)) (speed : K) :
    Emits Aside (follow recognitions speed) := by
  induction recognitions generalizing speed with
  | nil => trivial
  | cons box rest ih =>
      refine emits_bind (by simp) fun _ => emits_bind (by simp) fun _ => ?_
      refine emits_bind (by simp) fun _ => emits_bind (by simp) fun _ => ?_
      exact emits_bind (by simp [strafe]) fun _ => emits_bind (by simp) fun _ => ih _

/-- The loop leaves the detector running. -/
lemma follows_loop (tfod : Bool) (fuel : ℕ) (speed : K) :
    detector.Follows (Program.whileLoop opModeIsActive (look tfod) fuel speed) (.running tfod)
      fun _ s => s = .running tfod := by
  refine Protocol.follows_whileLoop (fun _ s => s = .running tfod) ?_ fuel speed _ rfl
  rintro speed _ rfl (_ | _)
  · exact ⟨_, rfl, rfl⟩
  · refine ⟨_, rfl, ?_⟩
    show detector.Follows (look tfod speed) (.running tfod) fun _ s => s = .running tfod
    cases tfod with
    | false => rfl
    | true =>
        rintro (_ | recognitions)
        · exact ⟨.active, rfl, rfl⟩
        · have hboxes : Emits Aside (do
              addData "# Object Detected" (.count recognitions.length)
              let speed ← follow recognitions speed
              updateTelemetry
              return speed : RobotProgram K K) :=
            emits_bind (by simp) fun _ => emits_bind (emits_follow_aside _ _) fun _ => by simp
          exact ⟨.active, rfl, follows_aside hboxes .active⟩

/-- After the loop comes the shutdown. -/
lemma follows_rest (tfod : Bool) (fuel : ℕ) :
    detector.Follows (do
        let _ ← Program.whileLoop opModeIsActive (look tfod) fuel (0 : K)
        Program.when (tfod = true) (Program.issue Command.shutdownTfod)) (.running tfod)
      fun _ s => s = .released tfod := by
  refine Protocol.follows_bind (follows_loop tfod fuel 0) ?_
  rintro speed _ rfl
  cases tfod with
  | false => rfl
  | true => exact ⟨.shut, rfl, rfl⟩

omit [LinearOrder K] in
/-- What the start of the op mode leaves behind. -/
lemma wp_setup_detector {env : Environment (robot K)} :
    wp env setup (fun tfod h => detector.after .absent h = some (.running tfod)
      ∧ (.answer .canCreateTFObjectDetector true ∈ h ↔ tfod = true)
      ∧ .answer .opModeIsActive true ∉ h) (fun _ => False) [] := by
  refine wp_seq (M := fun _ h => detector.after .absent h = some .absent
    ∧ .answer .canCreateTFObjectDetector true ∉ h ∧ .answer .opModeIsActive true ∉ h)
    ⟨rfl, by simp, by simp⟩ ?_
  rintro _ h ⟨habsent, hcreate, hactive⟩
  simp only [Program.when, wp_bind, wp_ask, wp_done]
  cases env h .canCreateTFObjectDetector <;>
    simp [Protocol.after, detector, DetectorState.running, habsent, hcreate, hactive]

/-- **The detector may be left active.**  `CameraTestTensorflow` keeps the protocol of the detector
in every run.  A run that returns has left it active, and so not released it, if and only if there
is a detector and the op mode was never active: it was stopped before its start. -/
theorem detector_left_active_iff (env : Environment (robot K)) (fuel : ℕ) :
    (detector.after .absent (Program.run env (runOpMode fuel) []).2).isSome
      ∧ ∀ finish, Program.run env (runOpMode fuel) [] = (some (), finish) →
        (detector.after .absent finish = some .active
          ↔ .answer .canCreateTFObjectDetector true ∈ finish
            ∧ .answer .opModeIsActive true ∉ finish)
        ∧ (¬ Released finish ↔ detector.after .absent finish = some .active) := by
  have hrun : wp env (runOpMode fuel : RobotProgram K Unit)
      (fun _ h => ∃ s, detector.after .absent h = some s
        ∧ (s = .active ↔ .answer .canCreateTFObjectDetector true ∈ h
          ∧ .answer .opModeIsActive true ∉ h) ∧ s ≠ .created)
      (fun h => (detector.after .absent h).isSome) [] := by
    refine wp_seq (wp_mono (fun _ _ => id) (fun _ => False.elim) wp_setup_detector) ?_
    rintro tfod h ⟨hstate, hcreate, hnever⟩
    simp only [wp_bind, wp_ask, wp_done]
    cases hactive : env h .opModeIsActive with
    | false =>
        refine ⟨.running tfod, (Protocol.after_cons hstate _).trans rfl, ?_, ?_⟩
        · cases tfod <;> simp [DetectorState.running, hcreate, hnever]
        · cases tfod <;> decide
    | true =>
        -- once the op mode was active the shutdown is reached
        have hstate' := (Protocol.after_cons hstate
          (.answer .opModeIsActive true : Event (robot K))).trans rfl
        refine wp_mono ?_ (fun _ => And.left) (wp_conj
          (Protocol.wp_of_follows (follows_rest tfod fuel) hstate')
          (keeps_suffix env _ _ _ List.suffix_rfl))
        rintro _ h' ⟨⟨_, hs, rfl⟩, hsuffix⟩
        have hmem : .answer .opModeIsActive true ∈ h' := hsuffix.mem List.mem_cons_self
        refine ⟨_, hs, ?_, ?_⟩
        · cases tfod <;> simp [DetectorState.released, hmem]
        · cases tfod <;> decide
  constructor
  · refine wp_final (wp_mono ?_ (fun _ => id) hrun)
    rintro _ h ⟨s, hs, -⟩
    rw [hs]
    rfl
  · intro finish hfinish
    obtain ⟨s, hs, hiff, hcreated⟩ := wp_returns hrun hfinish
    refine ⟨by rw [hs, Option.some.injEq]; exact hiff, ?_⟩
    rw [Released, hs]
    cases s with
    | created => exact absurd rfl hcreated
    | _ => simp

/-- A robot with a detector, stopped before its start. -/
def stoppedCamera : Environment (robot ℝ)
  | _, .canCreateTFObjectDetector => true
  | _, .opModeIsActive => false
  | h, q => promptRobot h q

/-- Its detector stays active. -/
theorem stopped_left_active : ∃ finish,
    Program.run stoppedCamera (runOpMode 1) [] = (some (), finish)
      ∧ detector.after .absent finish = some .active ∧ ¬ Released finish := by
  obtain ⟨hactive, hreleased⟩ := (detector_left_active_iff stoppedCamera 1).2 _ rfl
  have hleft := hactive.mpr ⟨by simp [stoppedCamera], by simp [stoppedCamera]⟩
  exact ⟨_, rfl, hleft, hreleased.mpr hleft⟩

end CameraTestTensorflow

end Designosaurs
