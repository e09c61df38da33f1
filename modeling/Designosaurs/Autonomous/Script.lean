import Designosaurs.Autonomous.OpMode

/-!
# How far a run has come

`Executes` singles out one statement of a run.  The results about whole runs also need what came
before it: `Reaches` says which statements a run has gone through and what program is left.  The
statements it goes through on one run are a `script` of the program, one of the straight lines that
are left of it when the camera has answered.

`Reaches.total` carries an argument over a run: a reading to which each statement adds its own part
has the sum of these wherever the run comes.
-/

namespace Designosaurs

open Interact

variable {K : Type}

namespace Auto

/-- Every statement of the program, on whichever branch, satisfies `P`. -/
def Every (P : Statement K → Prop) : Auto K → Prop
  | done => True
  | step statement next => P statement ∧ next.Every P
  | detect _ _ next => ∀ pos, (next pos).Every P

lemma every_steps {P : Statement K → Prop} {statements : List (Statement K)} {next : Auto K} :
    (steps statements next).Every P ↔ (∀ s ∈ statements, P s) ∧ next.Every P := by
  induction statements with
  | nil => simp [steps]
  | cons s rest ih =>
      rw [List.forall_mem_cons, and_assoc, ← ih]
      rfl

lemma Every.mono {P Q : Statement K → Prop} {auto : Auto K} (hevery : auto.Every P)
    (himp : ∀ s, P s → Q s) : auto.Every Q := by
  induction auto with
  | done => trivial
  | step s next ih => exact ⟨himp s hevery.1, ih hevery.2⟩
  | detect classifier tfod next ih => exact fun pos => ih pos (hevery pos)

end Auto

lemma forall_mem_byPos_iff {P : Statement K → Prop} {left middle right : Statement K} (pos : ℕ) :
    (∀ s ∈ byPos pos left middle right, P s)
      ↔ (pos = 0 → P left) ∧ (pos = 1 → P middle) ∧ (pos = 2 → P right) := by
  unfold byPos
  split_ifs <;> simp_all

/-! ## Scripts -/

/-- The positions that a classifier can leave in `pos`. -/
def Classifier.Answers [LinearOrder K] (c : Classifier K) (pos : ℕ) : Prop :=
  pos = 0 ∨ pos = c.middle ∨ pos = c.right

/-- A straight line of statements that the program may come down to. -/
inductive Auto.Scripts [LinearOrder K] : Auto K → List (Statement K) → Prop where
  | done : Scripts .done []
  | step {statement : Statement K} {next : Auto K} {script : List (Statement K)} :
      Scripts next script → Scripts (.step statement next) (statement :: script)
  | detect {classifier : Classifier K} {tfod : Bool} {pos : ℕ} {next : ℕ → Auto K}
      {script : List (Statement K)} :
      classifier.Answers pos → Scripts (next pos) script →
      Scripts (.detect classifier tfod next) script

section Scripts

variable [LinearOrder K]

lemma Classifier.answers_position (c : Classifier K) (lowestAvg : WithTop K) :
    c.Answers (c.position lowestAvg 0) := by
  unfold position
  split_ifs <;> simp [Answers]

/-- There always is one. -/
lemma Auto.exists_script (auto : Auto K) : ∃ script, auto.Scripts script := by
  induction auto with
  | done => exact ⟨[], .done⟩
  | step s next ih =>
      obtain ⟨script, hscript⟩ := ih
      exact ⟨s :: script, .step hscript⟩
  | detect classifier tfod next ih =>
      obtain ⟨script, hscript⟩ := ih 0
      exact ⟨script, .detect (Or.inl rfl) hscript⟩

lemma Auto.scripts_steps_iff {statements script : List (Statement K)} {next : Auto K} :
    (Auto.steps statements next).Scripts script
      ↔ ∃ rest, next.Scripts rest ∧ script = statements ++ rest := by
  induction statements generalizing script with
  | nil => simp [Auto.steps]
  | cons s later ih =>
      constructor
      · rintro (_ | hnext | _)
        obtain ⟨rest, hrest, rfl⟩ := ih.mp hnext
        exact ⟨rest, hrest, rfl⟩
      · rintro ⟨rest, hrest, rfl⟩
        exact .step (ih.mpr ⟨rest, hrest, rfl⟩)

lemma Auto.scripts_done_iff {script : List (Statement K)} :
    (Auto.done : Auto K).Scripts script ↔ script = [] := by
  constructor
  · rintro ⟨⟩
    rfl
  · rintro rfl
    exact .done

lemma Auto.scripts_detect_iff {classifier : Classifier K} {tfod : Bool} {next : ℕ → Auto K}
    {script : List (Statement K)} :
    (Auto.detect classifier tfod next).Scripts script
      ↔ ∃ pos, classifier.Answers pos ∧ (next pos).Scripts script := by
  constructor
  · rintro (_ | _ | ⟨hpos, hnext⟩)
    exact ⟨_, hpos, hnext⟩
  · rintro ⟨pos, hpos, hnext⟩
    exact .detect hpos hnext

lemma Auto.Every.script {P : Statement K → Prop} {auto : Auto K} (hevery : auto.Every P)
    {script : List (Statement K)} (hscript : auto.Scripts script) : ∀ s ∈ script, P s := by
  induction hscript with
  | done => simp
  | step _ ih => exact List.forall_mem_cons.mpr ⟨hevery.1, ih hevery.2⟩
  | @detect classifier tfod pos next script _ _ ih => exact ih (hevery pos)

variable [Field K]

/-- The look at the camera answers with one of the positions. -/
lemma Classifier.wp_detect_answers {env : Environment (robot K)} (c : Classifier K) (tfod : Bool)
    {R : History (robot K) → Prop} (h : History (robot K)) :
    wp env (c.detect tfod 0) (fun pos _ => c.Answers pos) R h := by
  unfold detect
  cases tfod with
  | false => exact Or.inl rfl
  | true =>
      simp only [if_true, wp_bind, wp_ask, wp_done]
      cases env h .getUpdatedRecognitions with
      | none => exact Or.inl rfl
      | some recognitions =>
          simp only [wp_bind, wp_command, wp_done]
          refine wp_scan recognitions ⊤ _ fun h' => ?_
          exact c.wp_setPos _ 0 _ fun h'' => c.answers_position _

end Scripts

/-! ## Runs -/

variable [Field K] [LinearOrder K] [FloorRing K]

/-- The run of a program has gone through the statements `past` and has `rest` before it. -/
inductive Reaches (env : Environment (robot K)) (hw : HardwareDesignosaurs K) (fuel : ℕ) :
    Auto K → ElapsedTime → History (robot K) → List (Statement K) →
      Auto K → ElapsedTime → History (robot K) → Prop where
  | here {auto : Auto K} {runtime : ElapsedTime} {h : History (robot K)} :
      Reaches env hw fuel auto runtime h [] auto runtime h
  | later {first : Statement K} {next rest : Auto K} {past : List (Statement K)}
      {runtime runtime' time : ElapsedTime} {h h' start : History (robot K)} :
      Program.run env (first.program hw fuel runtime) h = (some runtime', h') →
      Reaches env hw fuel next runtime' h' past rest time start →
      Reaches env hw fuel (.step first next) runtime h (first :: past) rest time start
  | seen {classifier : Classifier K} {tfod : Bool} {pos : ℕ} {next : ℕ → Auto K} {rest : Auto K}
      {past : List (Statement K)} {runtime time : ElapsedTime} {h h' start : History (robot K)} :
      Program.run env (classifier.detect tfod 0) h = (some pos, h') →
      Reaches env hw fuel (next pos) runtime h' past rest time start →
      Reaches env hw fuel (.detect classifier tfod next) runtime h past rest time start

section Runs

variable {env : Environment (robot K)} {hw : HardwareDesignosaurs K} {fuel : ℕ}
  {auto rest : Auto K} {runtime time : ElapsedTime} {h start : History (robot K)}
  {past : List (Statement K)}

/-- What a run has gone through is the beginning of a script, whatever it still has before it. -/
lemma Reaches.scripts (hreach : Reaches env hw fuel auto runtime h past rest time start)
    {later : List (Statement K)} (hlater : rest.Scripts later) :
    auto.Scripts (past ++ later) := by
  induction hreach with
  | here => exact hlater
  | later _ _ ih => exact .step (ih hlater)
  | @seen classifier tfod pos next _ _ _ _ h _ _ hrun _ ih =>
      have hpos : classifier.Answers pos :=
        wp_returns (classifier.wp_detect_answers tfod (R := fun _ => True) h) hrun
      exact .detect hpos (ih hlater)

/-- What every statement satisfies, those that are gone through satisfy. -/
lemma Reaches.every {P : Statement K → Prop} (hevery : auto.Every P)
    (hreach : Reaches env hw fuel auto runtime h past rest time start) : ∀ s ∈ past, P s := by
  obtain ⟨later, hlater⟩ := rest.exists_script
  intro s hs
  exact hevery.script (hreach.scripts hlater) s (List.mem_append_left later hs)

/-- A run that returns has gone through all of a script. -/
lemma reaches_of_run {finish : History (robot K)}
    (hrun : Program.run env (auto.program hw fuel runtime) h = (some (), finish)) :
    ∃ past time, Reaches env hw fuel auto runtime h past .done time finish := by
  induction auto generalizing runtime h with
  | done =>
      obtain rfl : h = finish := congrArg Prod.snd hrun
      exact ⟨[], runtime, .here⟩
  | step first next ih =>
      rw [Auto.program, Program.run_bind] at hrun
      rcases hfirst : Program.run env (first.program hw fuel runtime) h with ⟨_ | runtime', h'⟩
      · rw [hfirst] at hrun
        exact absurd (congrArg Prod.fst hrun) (by simp)
      · rw [hfirst] at hrun
        obtain ⟨past, time, hreach⟩ := ih hrun
        exact ⟨first :: past, time, .later hfirst hreach⟩
  | detect classifier tfod next ih =>
      rw [Auto.program, Program.run_bind] at hrun
      rcases hlook : Program.run env (classifier.detect tfod 0) h with ⟨_ | pos, h'⟩
      · rw [hlook] at hrun
        exact absurd (congrArg Prod.fst hrun) (by simp)
      · rw [hlook] at hrun
        obtain ⟨past, time, hreach⟩ := ih pos hrun
        exact ⟨past, time, .seen hlook hreach⟩

/-- A reading to which every statement adds its own part, and nothing else adds anything. -/
lemma Reaches.total {V : Type*} [AddMonoid V] {f : History (robot K) → V} {g : Statement K → V}
    (hstatement : ∀ (s : Statement K) time h,
      wp env (s.program hw fuel time) (fun _ h' => f h' = f h + g s) (fun _ => True) h)
    (hpassive : ∀ e h, Passive e → f (e :: h) = f h)
    (hreach : Reaches env hw fuel auto runtime h past rest time start) :
    f start = f h + (past.map g).sum := by
  induction hreach with
  | here => simp
  | later hrun _ ih =>
      rw [ih, wp_returns (hstatement _ _ _) hrun, List.map_cons, List.sum_cons, add_assoc]
  | @seen classifier tfod _ _ _ _ _ _ h _ _ hrun _ ih =>
      have hlook : Emits (fun e : Event (robot K) => ∀ past, f (e :: past) = f past)
          (classifier.detect tfod 0) :=
        (classifier.emits_detect tfod 0).mono fun e he past => hpassive e past he
      rw [ih, (hlook.keeps_reading (f h)).returns rfl hrun]

/-- The run of an op mode has gone through `Robot.init` and the statements `past`. -/
def OpMode.Reaches (env : Environment (robot K)) (hw : HardwareDesignosaurs K) (fuel : ℕ)
    (op : OpMode K) (past : List (Statement K)) (rest : Auto K) (time : ElapsedTime)
    (start : History (robot K)) : Prop :=
  ∃ runtime memory h, Program.run env op.start [] = (some (runtime, memory), h)
    ∧ Designosaurs.Reaches env hw fuel (op.body memory) runtime h past rest time start

lemma OpMode.reaches_of_run {op : OpMode K} {finish : History (robot K)}
    (hrun : Program.run env (op.runOpMode hw fuel) [] = (some (), finish)) :
    ∃ past time, op.Reaches env hw fuel past .done time finish := by
  rw [OpMode.runOpMode, Program.run_bind] at hrun
  rcases hstart : Program.run env op.start [] with ⟨_ | ⟨runtime, memory⟩, h⟩
  · rw [hstart] at hrun
    exact absurd (congrArg Prod.fst hrun) (by simp)
  · rw [hstart] at hrun
    obtain ⟨past, time, hreach⟩ := Designosaurs.reaches_of_run hrun
    exact ⟨past, time, runtime, memory, h, hstart, hreach⟩

end Runs

/-! ## The op modes -/

/-- The autonomous op modes that drive with `moveRTP`. -/
def opModes : List (OpMode K) :=
  [ParkingAuto, MoveRTPTest, BlueFoundationMove, RedFoundationMove, BlueSkystoneAuto,
    RedSkystoneAuto, BlueSkystoneAutoOneBlock, RedSkystoneAutoOneBlock]

/-- The arguments of a statement are such as the team uses: a direction that `moveRTP` knows, a
speed the motors can run at, a distance on the field, a servo position, and no long waits. -/
def Statement.Sound : Statement K → Prop
  | .moveRTP direction maxSpeed distance =>
      (∃ heading, Heading.ofString direction = some heading)
        ∧ (0 < maxSpeed ∧ maxSpeed ≤ 1) ∧ 0 ≤ distance ∧ distance ≤ 62
  | .setPosition _ position => 0 ≤ position ∧ position ≤ 1
  | .waitAfterReset millis => 0 ≤ millis ∧ millis ≤ 1000
  | .waitDifference millis => 0 ≤ millis ∧ millis ≤ 1000
  | .hold _ seconds _ => 0 ≤ seconds ∧ seconds ≤ 26
  | .shutdownTfod => True

variable [IsStrictOrderedRing K]

omit [FloorRing K] in
/-- **The op modes of the source are sound**, on every branch. -/
theorem opModes_sound {op : OpMode K} (hop : op ∈ opModes) (memory : op.Memory) :
    (op.body memory).Every Statement.Sound := by
  have hknown : ∀ heading : Heading,
      ∃ heading', Heading.ofString heading.literal = some heading' :=
    fun heading => ⟨heading, heading.ofString_literal⟩
  have hforward := hknown .forward
  have hbackward := hknown .backward
  have hleft := hknown .left
  have hright := hknown .right
  simp only [Heading.literal] at hforward hbackward hleft hright
  simp only [opModes, List.mem_cons, List.not_mem_nil, or_false] at hop
  rcases hop with rfl | rfl | rfl | rfl | rfl | rfl | rfl | rfl
  iterate 4
    · simp only [ParkingAuto, MoveRTPTest, BlueFoundationMove, RedFoundationMove, Auto.every_steps]
      norm_num [Statement.Sound, Auto.Every, *]
  iterate 4
    · simp only [BlueSkystoneAuto, RedSkystoneAuto, BlueSkystoneAutoOneBlock,
        RedSkystoneAutoOneBlock, Auto.every_steps, Auto.Every, List.forall_mem_append,
        forall_mem_byPos_iff, shutdown]
      norm_num [Statement.Sound, *]

/-- A robot whose motors arrive at once, with a clock that is read every half second. -/
def promptRobot : Environment (robot ℝ)
  | _, .isBusy _ => false
  | _, .getCurrentPosition _ => 0
  | _, .opModeIsActive => true
  | h, .nsNow => (lastReading h).elim 0 (· + 500000000)
  | _, .canCreateTFObjectDetector => false
  | _, .getUpdatedRecognitions => none

lemma clockTicks_promptRobot : ClockTicks promptRobot := by
  intro h t ht
  show t < (lastReading h).elim 0 (· + 500000000)
  rw [Option.mem_def.mp ht, Option.elim_some]
  omega

/-- The motor was sent somewhere and has had no power since. -/
def underway (motor : Motor) : History (robot K) → Bool
  | .command (.setTargetPosition m _) :: h => m = motor || underway motor h
  | .command (.setPower m _) :: h => m ≠ motor && underway motor h
  | _ :: h => underway motor h
  | [] => false

/-- A robot whose motors are busy until they have had a power, so that each of its drive loops takes
one sample. -/
def workingRobot : Environment (robot ℝ)
  | h, .isBusy motor => underway motor h
  | h, query => promptRobot h query

lemma clockTicks_workingRobot : ClockTicks workingRobot := clockTicks_promptRobot

/-- It drives through the parking program with one power. -/
lemma parking_works : ∃ finish,
    Program.run workingRobot (ParkingAuto.runOpMode designosaurs 2) [] = (some (), finish)
      ∧ ∃ power, 0 < power ∧ powers .frontRight finish = [0, power, 0] := by
  have hmax : (0 : ℝ) < 0.4 := by norm_num
  have htime : ((⟨500000000⟩ : ElapsedTime).seconds 1000000000 : ℝ)
      < (⟨500000000⟩ : ElapsedTime).seconds 1500000000 :=
    ElapsedTime.seconds_strictMono _ (by norm_num)
  exact ⟨_, rfl, _, DriveLoop.currentSpeed_pos ⟨designosaurs, 0.4, 6.0, _⟩ hmax
    ⟨_, 0⟩ [] htime, rfl⟩

end Designosaurs
