import Designosaurs.Autonomous.OpMode

/-!
# Stop safety

When the driver station stops an op mode, `opModeIsActive` answers `false` from then on, but
`runOpMode` does not return: it runs through every statement that is left, resetting encoders and
setting targets.  Two facts about `moveRTP` make that safe.

* Its drive loop asks `opModeIsActive` last thing before every iteration, and between that answer
  and the powers of the iteration it does not ask again.  So the loop's powers are commanded while
  the op mode is not stopped.
* Whatever happened in the loop, it ends by commanding zero.

`SafeSince start` is the invariant on histories; it is kept by every statement, hence by every
program of `Auto`.
-/

namespace Designosaurs

open Interact

variable {K : Type}

/-- `opModeIsActive` has answered `false`. -/
def Stopped (h : History (robot K)) : Prop := .answer .opModeIsActive false ∈ h

/-- Once the op mode is stopped it stays stopped. -/
def StopStays (env : Environment (robot K)) : Prop :=
  ∀ h, Stopped h → env h .opModeIsActive = false

/-- An event that is not the answer that the op mode is stopped. -/
def NoStop (e : Event (robot K)) : Prop := e ≠ .answer .opModeIsActive false

variable {env : Environment (robot K)}

/-- An op mode that has just said it is active was never stopped. -/
lemma not_stopped_of_active (hstays : StopStays env) {h : History (robot K)}
    (hactive : env h .opModeIsActive = true) : ¬ Stopped (.answer .opModeIsActive true :: h) := by
  intro hstopped
  rcases List.mem_cons.mp hstopped with heq | hstopped
  · simp at heq
  · rw [hstays h hstopped] at hactive
    simp at hactive

lemma keeps_not_stopped {α : Type} {p : RobotProgram K α} (hp : Emits NoStop p) :
    Keeps env (fun h => ¬ Stopped h) p := by
  refine hp.keeps fun e h he hh => ?_
  rw [Stopped, List.mem_cons, not_or]
  exact ⟨he.symm, hh⟩

variable [Field K] {start : History (robot K)}

/-- Since `start`, no event after a stop gave a drive motor a power other than zero. -/
def SafeSince (start : History (robot K)) : History (robot K) → Prop :=
  Extends (fun e past => Stopped past → Quiet e) start

/-- Every drive wheel was last given power zero. -/
def AtRest (h : History (robot K)) : Prop := ∀ wheel, (powers wheel h).head? = some 0

lemma SafeSince.step {e : Event (robot K)} {h : History (robot K)} (hsafe : SafeSince start h)
    (he : Stopped h → Quiet e) : SafeSince start (e :: h) :=
  Extends.step he hsafe

/-- A program that gives no power but zero keeps a history safe. -/
lemma keeps_safeSince_of_quiet {α : Type} {p : RobotProgram K α} (hp : Emits Quiet p) :
    Keeps env (SafeSince start) p :=
  hp.keeps fun _ _ he hh => hh.step fun _ => he

lemma keeps_safeSince {α : Type} {p : RobotProgram K α} (hp : Emits Unpowered p) :
    Keeps env (SafeSince start) p :=
  keeps_safeSince_of_quiet (hp.mono fun _ => Unpowered.quiet)

/-- A program that gives no power and runs at rest stays at rest. -/
lemma keeps_atRest {α : Type} {p : RobotProgram K α} (hp : Emits Unpowered p) :
    Keeps env (fun h => SafeSince start h ∧ AtRest h) p := by
  refine hp.keeps fun e h he hh => ⟨hh.1.step fun _ => he.quiet, fun wheel => ?_⟩
  rw [he wheel h]
  exact hh.2 wheel

/-- The end of a `moveRTP` is always safe, and leaves the wheels at rest. -/
lemma wp_settleAndStop_safe (fuel : ℕ) {h : History (robot K)} (hsafe : SafeSince start h) :
    wp env (settleAndStop fuel) (fun _ h' => SafeSince start h' ∧ AtRest h')
      (SafeSince start) h := by
  have hrest : wp env (settleAndStop fuel : RobotProgram K ElapsedTime) (fun _ => AtRest)
      (fun _ => True) h := by
    refine wp_seq (wp_true env _ h) fun time h₁ _ => wp_seq (wp_true env _ h₁) fun _ h₂ _ => ?_
    simp only [setPowers, restoreDirections, wp_bind, wp_command, wp_done, wp_pure]
    rintro (_ | _ | _ | _) <;> rfl
  exact wp_mono (fun _ _ => id) (fun _ => And.left)
    (wp_conj (keeps_safeSince_of_quiet (emits_quiet_settleAndStop fuel) h hsafe) hrest)

/-- `Robot.init` stops the wheels. -/
lemma wp_init_safe {h : History (robot K)} (hsafe : SafeSince start h) :
    wp env init (fun _ h' => SafeSince start h' ∧ AtRest h') (SafeSince start) h := by
  have hquiet : Emits Quiet (init : RobotProgram K Unit) := by
    simp [init]
  have hrest : wp env init (fun _ => AtRest) (fun _ => True) h := by
    simp only [init, wp_bind, wp_command, wp_done]
    rintro (_ | _ | _ | _) <;> rfl
  exact wp_mono (fun _ _ => id) (fun _ => And.left)
    (wp_conj (keeps_safeSince_of_quiet hquiet h hsafe) hrest)

variable [LinearOrder K]

/-- The body of the drive loop does not ask whether the op mode is active. -/
lemma emits_noStop_driveBody (d : DriveLoop K) (time : ElapsedTime) (s : RampState K) :
    Emits NoStop (driveBody d time s) := by
  simp [driveBody, ElapsedTime.time, setPowers, showDrive, NoStop]

/-- An iteration that begins before a stop is safe, whatever it commands. -/
lemma wp_driveBody_running {d : DriveLoop K} {time : ElapsedTime} {s : RampState K}
    {h : History (robot K)} (hsafe : SafeSince start h) (hrunning : ¬ Stopped h) :
    wp env (driveBody d time s) (fun _ => SafeSince start) (SafeSince start) h := by
  have hkeeps : Keeps env (fun h => SafeSince start h ∧ ¬ Stopped h) (driveBody d time s) := by
    refine (emits_noStop_driveBody d time s).keeps fun e h he hh => ⟨?_, ?_⟩
    · exact hh.1.step fun hstopped => absurd hstopped hh.2
    · rw [Stopped, List.mem_cons, not_or]
      exact ⟨Ne.symm he, hh.2⟩
  exact wp_mono (fun _ _ => And.left) (fun _ => And.left) (hkeeps h ⟨hsafe, hrunning⟩)

/-- **The drive loop is safe**: its last test before an iteration answers `true`. -/
theorem wp_driveLoop_safe (hstays : StopStays env) (d : DriveLoop K) (time : ElapsedTime)
    (fuel : ℕ) {h : History (robot K)} (hsafe : SafeSince start h) :
    wp env (driveLoop d time fuel) (fun _ => SafeSince start) (SafeSince start) h := by
  refine wp_whileLoop (fun _ => SafeSince start) (fun _ _ => id) (fun s h hs => ?_) fuel _ h hsafe
  have hbusy : Keeps env (SafeSince start) busyCheck :=
    keeps_safeSince (emits_busyCheck fun _ _ => unpowered_answer _ _)
  rw [driveGuard, wp_and]
  refine wp_mono ?_ (fun _ => id) (hbusy h hs)
  rintro (_ | _) h' hs'
  · exact hs'
  · simp only [if_true, wp_ask, wp_done]
    have hnext : SafeSince start (.answer .opModeIsActive (env h' .opModeIsActive) :: h') :=
      hs'.step fun _ => (unpowered_answer _ _).quiet
    cases hactive : env h' .opModeIsActive with
    | false =>
        rw [hactive] at hnext
        exact hnext
    | true =>
        rw [hactive] at hnext
        exact wp_driveBody_running hnext (not_stopped_of_active hstays hactive)

variable [FloorRing K]

/-- **`moveRTP` is safe and ends at rest**, from any safe history and with any arguments. -/
theorem wp_moveRTP_safe (hstays : StopStays env) (hw : HardwareDesignosaurs K) (fuel : ℕ)
    (direction : StringRef) (maxSpeed distance : K) {h : History (robot K)}
    (hsafe : SafeSince start h) :
    wp env (moveRTP hw fuel direction maxSpeed distance)
      (fun _ h' => SafeSince start h' ∧ AtRest h') (SafeSince start) h := by
  have hprepare : Keeps env (SafeSince start) (prepare hw direction distance) :=
    keeps_safeSince (emits_unpowered_prepare hw direction distance)
  refine wp_seq (hprepare h hsafe) fun b h₁ hs₁ => ?_
  refine wp_seq (wp_driveLoop_safe hstays _ b.1 fuel hs₁) fun _ h₂ hs₂ => ?_
  exact wp_settleAndStop_safe fuel hs₂

/-- One statement, from a safe history at rest to another. -/
lemma wp_statement_safe (hstays : StopStays env) (hw : HardwareDesignosaurs K) (fuel : ℕ)
    (statement : Statement K) (runtime : ElapsedTime) {h : History (robot K)}
    (hsafe : SafeSince start h) (hrest : AtRest h) :
    wp env (statement.program hw fuel runtime) (fun _ h' => SafeSince start h' ∧ AtRest h')
      (SafeSince start) h := by
  cases hstatement : statement with
  | moveRTP direction maxSpeed distance =>
      exact wp_moveRTP_safe hstays hw fuel direction maxSpeed distance hsafe
  | _ =>
      refine wp_mono (fun _ _ => id) (fun _ => And.left)
        (keeps_atRest (Statement.emits_program hw fuel runtime _ ?_) h ⟨hsafe, hrest⟩)
      simp

/-- **Any program of statements**, by induction on it. -/
theorem wp_auto_safe (hstays : StopStays env) (hw : HardwareDesignosaurs K) (fuel : ℕ)
    (auto : Auto K) (runtime : ElapsedTime) {h : History (robot K)} (hsafe : SafeSince start h)
    (hrest : AtRest h) :
    wp env (auto.program hw fuel runtime) (fun _ h' => SafeSince start h' ∧ AtRest h')
      (SafeSince start) h := by
  induction auto generalizing runtime h with
  | done => exact ⟨hsafe, hrest⟩
  | step statement next ih =>
      refine wp_seq (wp_statement_safe hstays hw fuel statement runtime hsafe hrest) ?_
      exact fun runtime h' hh' => ih runtime hh'.1 hh'.2
  | detect classifier tfod next ih =>
      have hdetect := (classifier.emits_detect tfod 0).mono fun _ => Passive.unpowered
      refine wp_seq (wp_mono (fun _ _ => id) (fun _ => And.left)
        (keeps_atRest hdetect h ⟨hsafe, hrest⟩)) ?_
      exact fun pos h' hh' => ih pos runtime hh'.1 hh'.2

/-- **Stop safety.**  In every run of every op mode, whatever is answered and whenever the op mode
is stopped, no drive motor is given a power other than zero after the first `false` of
`opModeIsActive`; and a run that gets to the end leaves every drive motor at power zero. -/
theorem runOpMode_stop_safe (hw : HardwareDesignosaurs K) (fuel : ℕ) (op : OpMode K)
    (env : Environment (robot K)) (hstays : StopStays env) :
    (∀ wheel power past,
      .command (.setPower (.drive wheel) power) :: past
          <:+ (Program.run env (op.runOpMode hw fuel) []).2 →
        .answer .opModeIsActive false ∈ past → power = 0)
    ∧ ∀ finish, Program.run env (op.runOpMode hw fuel) [] = (some (), finish) →
        ∀ wheel, (powers wheel finish).head? = some 0 := by
  have hsafe : wp env (op.runOpMode hw fuel) (fun _ h' => SafeSince [] h' ∧ AtRest h')
      (SafeSince []) [] := by
    have hsetup := op.setup_passive.mono fun _ => Passive.unpowered
    refine wp_seq (M := fun _ h' => SafeSince [] h' ∧ AtRest h') ?_ fun start h' hh => ?_
    · refine wp_seq (keeps_safeSince (by simp [ElapsedTime.reset]) [] .refl) fun _ h₁ hs₁ => ?_
      refine wp_seq (keeps_safeSince hsetup h₁ hs₁) fun memory h₂ hs₂ => ?_
      exact wp_seq (wp_init_safe hs₂) fun _ h₃ hh₃ => hh₃
    · exact wp_auto_safe hstays hw fuel (op.body start.2) start.1 hh.1 hh.2
  constructor
  · have hfinal := wp_final (wp_mono (fun _ _ hh => hh.1) (fun _ hh => hh) hsafe)
    intro wheel power past hpast hstopped
    exact (Extends.iff_forall.mp hfinal).2 _ past hpast (List.nil_suffix) hstopped wheel power rfl
  · intro finish hrun
    exact (wp_returns hsafe hrun).2

/-- The answer that the op mode is stopped. -/
def isStop : Event (robot K) → Bool
  | .answer .opModeIsActive false => true
  | _ => false

/-- A robot that is stopped when its wheels have had their first power after `Robot.init`, and never
gets to its targets. -/
def interruptedRobot : Environment (robot ℝ)
  | _, .isBusy _ => true
  | _, .getCurrentPosition _ => 0
  | h, .opModeIsActive => !h.any isStop && (powers .frontRight h).length < 2
  | h, .nsNow => (lastReading h).elim 0 (· + 500000000)
  | _, .canCreateTFObjectDetector => false
  | _, .getUpdatedRecognitions => none

lemma stopStays_interruptedRobot : StopStays interruptedRobot := by
  intro h hstopped
  have hany : h.any isStop = true := List.any_eq_true.mpr ⟨_, hstopped, rfl⟩
  show (!h.any isStop && _) = false
  rw [hany]
  rfl

/-- The parking program is stopped in its drive loop, which had just given a power; it takes the
power away, goes through what is left and ends at rest. -/
theorem parking_of_stopped_robot : ∃ finish,
    Program.run interruptedRobot (ParkingAuto.runOpMode designosaurs 2) [] = (some (), finish)
      ∧ (∃ power, 0 < power ∧ powers .frontRight finish = [0, power, 0])
      ∧ (∀ wheel power past, .command (.setPower (.drive wheel) power) :: past <:+ finish →
        .answer .opModeIsActive false ∈ past → power = 0)
      ∧ ∀ wheel, (powers wheel finish).head? = some 0 := by
  have hmax : (0 : ℝ) < 0.4 := by norm_num
  have htime : ((⟨500000000⟩ : ElapsedTime).seconds 1000000000 : ℝ)
      < (⟨500000000⟩ : ElapsedTime).seconds 1500000000 :=
    ElapsedTime.seconds_strictMono _ (by norm_num)
  obtain ⟨hsafe, hrest⟩ :=
    runOpMode_stop_safe designosaurs 2 ParkingAuto interruptedRobot stopStays_interruptedRobot
  exact ⟨_, rfl, ⟨_, DriveLoop.currentSpeed_pos ⟨designosaurs, 0.4, 6.0, _⟩ hmax ⟨_, 0⟩ [] htime,
    rfl⟩, hsafe, hrest _ rfl⟩

end Designosaurs
