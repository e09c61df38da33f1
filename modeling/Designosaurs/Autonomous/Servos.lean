import Designosaurs.Autonomous.StopSafety

/-!
# What a stop does to the servos

Nothing.  A stop ends the loops, and with them the powers of the drive motors, but `runOpMode` goes
on through the statements that are left, and a servo statement asks nobody.

`MovesServos` reads the servo commands of a program off its text.  `servos_outlast_stop`: a run that
is stopped returns, and what it has sent the servos then is the whole text, in order; so the part
that had not been reached when the stop was answered is issued after it.
-/

namespace Designosaurs

open Interact

variable {K : Type}

/-! ## The servo commands in the text of a program -/

/-- The servo command a statement is. -/
def Statement.servos : Statement K → List (Servo × K)
  | .setPosition servo position => [(servo, position)]
  | _ => []

/-- Whatever the camera shows, the servo statements of the program are these, in this order. -/
def Auto.MovesServos : Auto K → List (Servo × K) → Prop
  | .done, text => text = []
  | .step statement next, text =>
      ∃ rest, text = statement.servos ++ rest ∧ next.MovesServos rest
  | .detect _ _ next, text => ∀ pos, (next pos).MovesServos text

lemma Auto.movesServos_steps {statements : List (Statement K)} {next : Auto K}
    {rest : List (Servo × K)} (hrest : next.MovesServos rest) :
    (Auto.steps statements next).MovesServos (statements.flatMap Statement.servos ++ rest) := by
  induction statements with
  | nil => exact hrest
  | cons statement later ih =>
      rw [List.flatMap_cons, List.append_assoc]
      exact ⟨_, rfl, ih⟩

/-- A program that looks at the camera once, before its first servo statement. -/
lemma Auto.movesServos_detect {approach : List (Statement K)} {rest : ℕ → List (Statement K)}
    {classifier : Classifier K} {tfod : Bool} {text : List (Servo × K)}
    (happroach : approach.flatMap Statement.servos = [])
    (hrest : ∀ pos, (rest pos).flatMap Statement.servos = text) :
    (Auto.steps approach (.detect classifier tfod fun pos => .steps (rest pos) .done)).MovesServos
      text := by
  have hnext :
      (Auto.detect classifier tfod fun pos => .steps (rest pos) .done).MovesServos text := by
    intro pos
    simpa only [hrest, List.append_nil] using
      @Auto.movesServos_steps K (rest pos) .done [] rfl
  simpa only [happroach, List.nil_append] using
    @Auto.movesServos_steps K approach _ text hnext

/-- A choice between moves moves no servo. -/
lemma servos_byPos (pos : ℕ) (d₀ d₁ d₂ : StringRef) (v₀ v₁ v₂ x₀ x₁ x₂ : K) :
    (byPos pos (.moveRTP d₀ v₀ x₀) (.moveRTP d₁ v₁ x₁) (.moveRTP d₂ v₂ x₂)).flatMap
      Statement.servos = [] := by
  unfold byPos
  split_ifs <;> rfl

lemma servos_shutdown (tfod : Bool) :
    (shutdown tfod : List (Statement K)).flatMap Statement.servos = [] := by
  cases tfod <;> rfl

/-! ## The servo commands of a run -/

section Runs

/-- A program that sends no servo anywhere adds no command to one. -/
lemma keeps_servoCommands {env : Environment (robot K)} {α : Type} {p : RobotProgram K α}
    (hp : Emits Unservoed p) (sent : List (Servo × K)) :
    Keeps env (fun h => servoCommands h = sent) p :=
  Emits.keeps_reading (f := servoCommands) hp sent

variable [Field K] [LinearOrder K]

lemma emits_unservoed_moveRTP [FloorRing K] (hw : HardwareDesignosaurs K) (fuel : ℕ)
    (direction : StringRef) (maxSpeed distance : K) :
    Emits Unservoed (moveRTP hw fuel direction maxSpeed distance) :=
  emits_moveRTP (fun _ he => he.passive.unservoed) (by simp) (by simp) (by simp) (by simp) (by simp)
    (by simp) hw fuel direction maxSpeed distance

/-- A statement sends the servos its own command and no other. -/
lemma Statement.keeps_servos [FloorRing K] {env : Environment (robot K)}
    (hw : HardwareDesignosaurs K) (fuel : ℕ) (runtime : ElapsedTime) (statement : Statement K)
    (h : History (robot K)) :
    wp env (statement.program hw fuel runtime)
      (fun _ h' => servoCommands h' = statement.servos.reverse ++ servoCommands h)
      (fun _ => True) h := by
  have hkeeps : ∀ {α : Type} {p : RobotProgram K α}, Emits Unservoed p →
      wp env p (fun _ h' => servoCommands h' = servoCommands h) (fun _ => True) h := fun hp =>
    wp_mono (fun _ _ => id) (fun _ _ => trivial)
      (keeps_servoCommands hp _ h rfl)
  cases statement with
  | setPosition servo position => exact rfl
  | moveRTP direction maxSpeed distance =>
      exact hkeeps (emits_unservoed_moveRTP hw fuel direction maxSpeed distance)
  | shutdownTfod => exact rfl
  | _ =>
      refine hkeeps ((Statement.emits_waiting hw fuel runtime _ ?_).mono
        fun _ he => he.passive.unservoed)
      trivial

end Runs

/-! ## A stopped run returns -/

section Stopped

variable {env : Environment (robot K)} (hstays : StopStays env)

include hstays

/-- The condition of a loop that is also asked whether the op mode is active. -/
lemma wp_and_active {test : RobotProgram K Bool} (htest : Completes env (fun _ => False) test)
    (h : History (robot K)) :
    wp env (test.and opModeIsActive) (fun b h' => b = true → ¬ Stopped h') (fun h' => ¬ Stopped h')
      h := by
  rw [wp_and]
  refine wp_mono ?_ (fun _ => False.elim) (htest h)
  rintro (_ | _) h' -
  · simp
  · simp only [if_true, wp_ask, wp_done]
    intro hactive
    rw [hactive]
    exact not_stopped_of_active hstays hactive

/-- A wait with fuel for one test ends once the op mode is stopped. -/
lemma completes_waitWhile {reading : RobotProgram K ℤ} {report : RobotProgram K Unit}
    (hreading : Completes env (fun _ => False) reading)
    (hreport : Emits NoStop report) (limit : ℤ) {fuel : ℕ} (hfuel : 0 < fuel) :
    Completes env (fun h => ¬ Stopped h) (waitWhile reading limit report fuel) :=
  completes_whileLoop (wp_and_active hstays (completes_bind hreading fun _ => completes_pure _))
    (fun _ => keeps_not_stopped hreport) fuel () hfuel

variable [Field K] [LinearOrder K]

/-- So does the drive loop. -/
lemma completes_driveLoop (d : DriveLoop K) (time : ElapsedTime) {fuel : ℕ} (hfuel : 0 < fuel) :
    Completes env (fun h => ¬ Stopped h) (driveLoop d time fuel) := by
  have hasked : ∀ wheel, Completes env (fun _ => False)
      (isBusy (.drive wheel) : RobotProgram K Bool) := fun _ _ => trivial
  refine completes_whileLoop (wp_and_active hstays ?_)
    (fun s => keeps_not_stopped (emits_noStop_driveBody d time s)) fuel _ hfuel
  exact completes_and (completes_and (completes_and (hasked _) (hasked _)) (hasked _)) (hasked _)

/-- So does every statement. -/
lemma Statement.completes [FloorRing K] (hw : HardwareDesignosaurs K) {fuel : ℕ} (hfuel : 0 < fuel)
    (runtime : ElapsedTime) (statement : Statement K) :
    Completes env (fun h => ¬ Stopped h) (statement.program hw fuel runtime) := by
  cases statement with
  | moveRTP direction maxSpeed distance =>
      refine completes_bind ?_ fun s => completes_bind (completes_driveLoop hstays _ _ hfuel)
        fun _ => completes_bind (fun _ => trivial) fun time => completes_bind ?_ fun _ => ?_
      · intro h
        unfold prepare setTargets
        cases Heading.ofString direction <;>
          simp [resetEncoders, setTargetPos, ElapsedTime.reset, ElapsedTime.time]
      · refine completes_waitWhile hstays ?_ ?_ 500 hfuel
        · exact fun _ => trivial
        · simp [showReading, ElapsedTime.timeIn, NoStop]
      · intro h
        simp [setPowers, restoreDirections]
  | setPosition servo position => exact fun _ => trivial
  | waitAfterReset millis =>
      refine completes_bind (fun _ => trivial) fun time =>
        completes_bind (completes_waitWhile hstays ?_ ?_ millis hfuel) fun _ => completes_pure _
      · exact fun _ => trivial
      · simp [showReading, ElapsedTime.timeIn, NoStop]
  | waitDifference millis =>
      refine completes_bind (fun _ => trivial) fun time =>
        completes_bind (completes_waitWhile hstays ?_ ?_ millis hfuel) fun _ => completes_pure _
      · exact fun _ => trivial
      · simp [showReading, ElapsedTime.timeIn, NoStop]
  | hold matchStartTime seconds caption =>
      refine completes_bind (completes_waitWhile hstays ?_ ?_ seconds hfuel)
        fun _ => completes_pure _
      · exact fun _ => trivial
      · simp [showReading, ElapsedTime.timeIn, NoStop]
  | shutdownTfod => exact fun _ => trivial

omit hstays in
/-- The look at the camera returns. -/
lemma Classifier.completes_detect (c : Classifier K) (tfod : Bool) (pos : ℕ) :
    Completes env (fun _ => False) (c.detect tfod pos) := by
  intro h
  unfold detect
  cases tfod with
  | false => exact trivial
  | true =>
      simp only [if_true, wp_bind, wp_ask, wp_done]
      cases env h .getUpdatedRecognitions with
      | none => exact trivial
      | some recognitions =>
          simp only [wp_bind, wp_command, wp_done]
          refine wp_scan recognitions ⊤ _ fun h' => ?_
          exact c.wp_setPos _ pos _ fun h'' => trivial

/-- **A program of statements** sends the servos its text, and returns once it is stopped; by
induction on it. -/
theorem wp_auto_servos [FloorRing K] (hw : HardwareDesignosaurs K) {fuel : ℕ} (hfuel : 0 < fuel)
    {auto : Auto K} {text : List (Servo × K)} (htext : auto.MovesServos text)
    (runtime : ElapsedTime) (h : History (robot K)) :
    wp env (auto.program hw fuel runtime)
      (fun _ h' => servoCommands h' = text.reverse ++ servoCommands h)
      (fun h' => ¬ Stopped h') h := by
  induction auto generalizing text runtime h with
  | done =>
      subst htext
      exact rfl
  | step statement next ih =>
      obtain ⟨rest, rfl, hrest⟩ := htext
      have hboth := wp_conj (Statement.keeps_servos hw fuel runtime statement h)
        (Statement.completes hstays hw hfuel runtime statement h)
      refine wp_seq (wp_mono (fun _ _ hh => hh.1) (fun _ hh => hh.2) hboth)
        fun runtime' h' hh' => ?_
      refine wp_mono (fun _ h'' hh'' => ?_) (fun _ => id) (ih hrest runtime' h')
      rw [hh'', hh', List.reverse_append, List.append_assoc]
  | detect classifier tfod next ih =>
      have hsame : wp env (classifier.detect tfod 0)
          (fun _ h' => servoCommands h' = servoCommands h) (fun _ => True) h :=
        wp_mono (fun _ _ => id) (fun _ _ => trivial)
          (keeps_servoCommands ((classifier.emits_detect tfod 0).mono fun _ => Passive.unservoed)
            _ h rfl)
      refine wp_seq (wp_mono (fun _ _ hh => hh.1) (fun _ hh => hh.2.elim)
        (wp_conj hsame (classifier.completes_detect tfod 0 h))) fun pos h' hh' => ?_
      refine wp_mono (fun _ h'' hh'' => ?_) (fun _ => id) (ih pos (htext pos) runtime h')
      rw [hh'', hh']

end Stopped

/-! ## The op modes -/

variable [Field K] [LinearOrder K]

/-- The servo commands of an op mode, as its text has them after `Robot.init`.  Before that it does
not ask whether it is active. -/
structure OpMode.ServoText (op : OpMode K) (text : List (Servo × K)) : Prop where
  setup_unasked : Emits NoStop op.setup
  moves : ∀ memory, (op.body memory).MovesServos text

/-- The autonomous op modes that drive with `moveRTP`, each with its servo commands. -/
def servoTexts : List (OpMode K × List (Servo × K)) := [
  (ParkingAuto, []),
  (MoveRTPTest, []),
  (BlueFoundationMove, [(.foundationGripper, 1), (.foundationGripper, 0)]),
  (RedFoundationMove, [(.foundationGripper, 1), (.foundationGripper, 0)]),
  (BlueSkystoneAuto,
    [(.leftGripper, 1), (.leftGripper, 0), (.leftGripper, 1), (.leftGripper, 0)]),
  (RedSkystoneAuto,
    [(.rightGripper, 0.05), (.rightGripper, 1), (.rightGripper, 0.05), (.rightGripper, 1)]),
  (BlueSkystoneAutoOneBlock, [(.leftGripper, 1), (.leftGripper, 0)]),
  (RedSkystoneAutoOneBlock, [(.rightGripper, 0.05), (.rightGripper, 1)])]

omit [LinearOrder K] in
/-- The table is the text of the source. -/
lemma servoText_of_mem {op : OpMode K} {text : List (Servo × K)} (hop : (op, text) ∈ servoTexts) :
    op.ServoText text := by
  have hvision : Emits NoStop (initVision : RobotProgram K Bool) := by
    simp [initVision, Program.when, NoStop]
  simp only [servoTexts, List.mem_cons, Prod.mk.injEq, List.not_mem_nil, or_false] at hop
  rcases hop with ⟨rfl, rfl⟩ | ⟨rfl, rfl⟩ | ⟨rfl, rfl⟩ | ⟨rfl, rfl⟩ | ⟨rfl, rfl⟩ | ⟨rfl, rfl⟩ |
    ⟨rfl, rfl⟩ | ⟨rfl, rfl⟩
  · exact ⟨by simp [ParkingAuto, NoStop], fun _ => Auto.movesServos_steps rfl⟩
  · exact ⟨by simp [MoveRTPTest, NoStop], fun _ => Auto.movesServos_steps rfl⟩
  · exact ⟨by simp [BlueFoundationMove, ElapsedTime.now, NoStop],
      fun _ => Auto.movesServos_steps rfl⟩
  · exact ⟨by simp [RedFoundationMove, ElapsedTime.now, NoStop],
      fun _ => Auto.movesServos_steps rfl⟩
  all_goals
    refine ⟨hvision, fun (tfod : Bool) => Auto.movesServos_detect rfl fun pos => ?_⟩
    simp [List.flatMap_append, servos_byPos, servos_shutdown, Statement.servos]

variable [FloorRing K]

/-- **The servos in a run of an op mode.**  It is not stopped before `Robot.init` is through, and it
returns, with all of its servo text issued, unless it is cut before it is stopped. -/
theorem wp_runOpMode_servos {env : Environment (robot K)} (hstays : StopStays env)
    (hw : HardwareDesignosaurs K) {fuel : ℕ} (hfuel : 0 < fuel) {op : OpMode K}
    {text : List (Servo × K)} (hop : op.ServoText text) :
    wp env (op.runOpMode hw fuel)
      (fun _ h => servoCommands h = text.reverse ++ initServos
        ∧ ∃ h₀, h₀ <:+ h ∧ ¬ Stopped h₀ ∧ servoCommands h₀ = initServos)
      (fun h => ¬ Stopped h) [] := by
  have hstart : wp env op.start (fun _ h => ¬ Stopped h ∧ servoCommands h = initServos)
      (fun h => ¬ Stopped h) [] := by
    have hservos : Keeps env (fun h => ¬ Stopped h ∧ servoCommands h = []) op.setup := fun h hh =>
      wp_conj (keeps_not_stopped hop.setup_unasked h hh.1)
        (keeps_servoCommands (op.setup_passive.mono fun _ => Passive.unservoed) [] h hh.2)
    refine wp_seq (M := fun _ h => ¬ Stopped h ∧ servoCommands h = []) ?_ fun runtime h₁ hh₁ => ?_
    · simp [ElapsedTime.reset, Stopped, servoCommands]
    · refine wp_seq (wp_mono (fun _ _ => id) (fun _ => And.left) (hservos h₁ hh₁))
        fun memory h₂ hh₂ => ?_
      have hstopped : ¬ Stopped h₂ := hh₂.1
      simp [init, Stopped, servoCommands, initServos, parked, hh₂.2] at hstopped ⊢
      exact hstopped
  refine wp_seq hstart fun start h₀ hh₀ => ?_
  have hbody := wp_auto_servos hstays hw hfuel (hop.moves start.2) start.1 h₀
  refine wp_mono (fun _ h hh => ?_) (fun _ => And.left) (wp_conj hbody (wp_suffix env _ h₀))
  refine ⟨?_, h₀, hh.2, hh₀.1, hh₀.2⟩
  rw [hh.1, hh₀.2]

/-- **A stop holds back no servo.**  In every run of every op mode that drives with `moveRTP`, at
each answer that the op mode is stopped, the servo text is in two parts: `issued` has been sent to
the servos, after what `Robot.init` sent them, and the run returns and has sent them `left`, all the
rest of the text, after that answer.  Nothing else is sent. -/
theorem servos_outlast_stop (hw : HardwareDesignosaurs K) {fuel : ℕ} (hfuel : 0 < fuel)
    {op : OpMode K} {text : List (Servo × K)} (hop : (op, text) ∈ servoTexts)
    {env : Environment (robot K)} (hstays : StopStays env) {past : History (robot K)}
    (hstop : .answer .opModeIsActive false :: past
      <:+ (Program.run env (op.runOpMode hw fuel) []).2) :
    ∃ issued left, text = issued ++ left
      ∧ servoCommands past = issued.reverse ++ initServos
      ∧ ∃ finish, Program.run env (op.runOpMode hw fuel) [] = (some (), finish)
        ∧ servoCommands finish = left.reverse ++ servoCommands past := by
  have hrun := wp_conj (wp_run env (op.runOpMode hw fuel) [])
    (wp_runOpMode_servos hstays hw hfuel (servoText_of_mem hop))
  unfold wp at hrun
  generalize Program.run env (op.runOpMode hw fuel) [] = result at hstop hrun
  rcases result with ⟨_ | _, finish⟩
  · exact absurd (hstop.subset List.mem_cons_self) hrun.2
  · obtain ⟨-, htext, h₀, hsuffix, hunstopped, hinit⟩ := hrun
    -- the answer comes after `Robot.init`, since it was not stopped there
    obtain ⟨before, rfl⟩ : h₀ <:+ past := by
      rcases List.suffix_or_suffix_of_suffix hsuffix hstop with hle | hle
      · rcases List.suffix_cons_iff.mp hle with rfl | hle
        · exact absurd List.mem_cons_self hunstopped
        · exact hle
      · exact absurd (hle.subset List.mem_cons_self) hunstopped
    obtain ⟨after, rfl⟩ := hstop
    have hanswer := unservoed_answer (K := K) .opModeIsActive false (before ++ h₀)
    rw [servoCommands_append, hanswer, servoCommands_append, hinit, ← List.append_assoc,
      List.append_cancel_right_eq] at htext
    refine ⟨(servoCommands before).reverse, (servoCommands after).reverse, ?_, ?_, _, rfl, ?_⟩
    · rw [← List.reverse_append, htext, List.reverse_reverse]
    · rw [List.reverse_reverse, servoCommands_append, hinit]
    · rw [List.reverse_reverse, servoCommands_append, hanswer]

lemma blueFoundation_mem :
    ((BlueFoundationMove, [(.foundationGripper, 1), (.foundationGripper, 0)]) :
      OpMode ℝ × List (Servo × ℝ)) ∈ servoTexts := .tail _ (.tail _ (.head _))

/-- A robot that is stopped before it starts, with its wheels away from their targets. -/
def stoppedRobot : Environment (robot ℝ)
  | _, .isBusy _ => true
  | _, .getCurrentPosition _ => 0
  | _, .opModeIsActive => false
  | _, .nsNow => 0
  | _, .canCreateTFObjectDetector => false
  | _, .getUpdatedRecognitions => none

/-- The history of the blue foundation program on it. -/
noncomputable def stoppedFoundation : History (robot ℝ) :=
  (Program.run stoppedRobot (BlueFoundationMove.runOpMode designosaurs 1) []).2

/-- Its first answer is in the first move, when only `Robot.init` has moved the servos. -/
lemma stoppedFoundation_stop :
    .answer .opModeIsActive false :: stoppedFoundation.drop 142 <:+ stoppedFoundation :=
  List.drop_suffix 141 stoppedFoundation

/-- The gripper goes down all the same. -/
lemma stoppedFoundation_servo :
    .command (.setPosition .foundationGripper 1) :: stoppedFoundation.drop 70 <:+ stoppedFoundation
      ∧ Stopped (stoppedFoundation.drop 70) := by
  refine ⟨List.drop_suffix 69 stoppedFoundation, ?_⟩
  have hmem : .answer .opModeIsActive false ∈ (stoppedFoundation.drop 70).drop 8 :=
    List.mem_cons_self
  exact List.mem_of_mem_drop hmem

/-- What was left of the text at that answer is sent to the gripper. -/
theorem foundation_of_stopped_robot :
    ∃ issued left, [(.foundationGripper, 1), (.foundationGripper, 0)] = issued ++ left
      ∧ servoCommands (stoppedFoundation.drop 142) = issued.reverse ++ initServos
      ∧ ∃ finish, Program.run stoppedRobot (BlueFoundationMove.runOpMode designosaurs 1) []
          = (some (), finish)
        ∧ servoCommands finish
          = left.reverse ++ servoCommands (stoppedFoundation.drop 142) :=
  servos_outlast_stop designosaurs one_pos blueFoundation_mem (fun _ _ => rfl)
    stoppedFoundation_stop

/-- A servo command after a stop. -/
theorem stopped_gripper_moves :
    ¬ ∀ (op : OpMode ℝ) (text : List (Servo × ℝ)) (fuel : ℕ) (env : Environment (robot ℝ)),
      (op, text) ∈ servoTexts → StopStays env → ∀ servo position past,
        .command (.setPosition servo position) :: past
          <:+ (Program.run env (op.runOpMode designosaurs fuel) []).2 →
        .answer .opModeIsActive false ∉ past := by
  intro h
  obtain ⟨hservo, hstopped⟩ := stoppedFoundation_servo
  exact h _ _ 1 stoppedRobot blueFoundation_mem (fun _ _ => rfl) _ _ _ hservo hstopped

end Designosaurs
