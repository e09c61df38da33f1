import Designosaurs.Autonomous.Script
import Designosaurs.Autonomous.StaleTargets
import Designosaurs.Interact.Protocol

/-!
# The discipline of the wheels

`moveRTP` uses a drive motor in a fixed order: its encoder is reset while it has no power, it is put
into the mode that runs to a position, it is given a position, and then it may have power.  Once the
power is taken away it has to be prepared anew.  Its direction is set only while it has none, and
always to the one it is mounted in.

`discipline` is that order as a protocol of one wheel.  `runs_disciplined` follows it through every
run of every program whose directions `moveRTP` knows, `Robot.init` and stopped runs included, on
any clock that never goes back: there the ramps of a drive loop, once they have given a power, never
give zero (`DriveLoop.currentSpeed_ne_zero`).  `run_disciplined_iff` says of any other program which
of its runs breach the discipline.
-/

namespace Designosaurs

open Interact

variable {K : Type}

/-- How far a wheel is prepared for its next move. -/
inductive Phase where
  | idle
  | zeroed
  | armed
  | aimed
  deriving DecidableEq, Repr

/-- What a wheel was told last. -/
structure WheelState (K : Type) where
  phase : Phase
  power : K

/-- The direction that makes a positive power drive the wheel forward. -/
def mounting : Wheel → Direction
  | .frontRight => .REVERSE
  | .frontLeft => .FORWARD
  | .backRight => .REVERSE
  | .backLeft => .FORWARD

variable [Field K] [LinearOrder K]

/-- The discipline of one wheel. -/
def discipline (wheel : Wheel) : Protocol (robot K) (WheelState K)
  | s, .command (.setMode (.drive w) mode) =>
      if w = wheel then
        match mode with
        | .RUN_WITHOUT_ENCODER => if s.power = 0 then some { s with phase := .idle } else none
        | .STOP_AND_RESET_ENCODER => if s.power = 0 then some { s with phase := .zeroed } else none
        | .RUN_TO_POSITION => if s.phase = .zeroed then some { s with phase := .armed } else none
        | .RUN_USING_ENCODER => none
      else some s
  | s, .command (.setTargetPosition (.drive w) _) =>
      if w = wheel then
        if s.phase = .armed then some { s with phase := .aimed } else none
      else some s
  | s, .command (.setPower (.drive w) power) =>
      if w = wheel then
        -- a wheel that loses its power loses its preparation
        if power = 0 then some ⟨if s.power = 0 then s.phase else .idle, 0⟩
        else if s.phase = .aimed then some { s with power := power } else none
      else some s
  | s, .command (.setDirection (.drive w) direction) =>
      if w = wheel then
        if s.power = 0 ∧ direction = mounting wheel then some s else none
      else some s
  | s, _ => some s

variable {wheel : Wheel} {s : WheelState K}

lemma Passive.discipline {e : Event (robot K)} (he : Passive e) :
    discipline wheel s e = some s := by
  cases e with
  | answer q a => rfl
  | command c =>
      cases c with
      | setMode motor mode => exact he.elim
      | setTargetPosition motor position => exact he.elim
      | setPower motor power => exact he.elim
      | setDirection motor direction => exact he.elim
      | _ => rfl

/-- What is passive leaves a wheel in its state. -/
lemma follows_passive {α : Type} {p : RobotProgram K α} (hp : Emits Passive p) :
    (discipline wheel).Follows p s fun _ s' => s' = s :=
  Protocol.follows_of_emits (hp.mono fun _ he => he.discipline)

/-- `Robot.init` brings a wheel without power to its first state. -/
lemma follows_init (hpower : s.power = 0) :
    (discipline wheel).Follows init s fun _ s' => s' = ⟨.idle, 0⟩ := by
  cases wheel <;> simp [init, discipline, mounting, hpower]

/-! ## One call -/

section Call

variable (hw : HardwareDesignosaurs K) (fuel : ℕ)

/-- The preparations bring a wheel without power to where it may have power, if the direction is
known. -/
lemma follows_prepare [FloorRing K] (direction : StringRef) (distance : K) (hpower : s.power = 0) :
    (discipline wheel).Follows (prepare hw direction distance) s fun _ s' =>
      s'.power = 0 ∧ (s'.phase = .aimed ↔ (Heading.ofString direction).isSome) := by
  cases hdirection : Heading.ofString direction <;> cases wheel <;>
    simp [prepare, resetEncoders, setTargets, setTargetPos, hdirection, ElapsedTime.reset,
      ElapsedTime.time, discipline, hpower]

lemma follows_driveGuard :
    (discipline wheel).Follows (driveGuard : RobotProgram K Bool) s fun _ s' => s' = s :=
  follows_passive (emits_driveGuard (by simp) (by simp))

/-- Where a wheel is aimed it may have any power, and keep or change the one it has. -/
lemma follows_setPowers (power : K) (hphase : s.phase = .aimed) (hon : power = 0 → s.power = 0) :
    (discipline wheel).Follows (setPowers power) s fun _ s' => s' = ⟨.aimed, power⟩ := by
  by_cases hpower : power = 0
  · cases wheel <;> simp [setPowers, discipline, hphase, hpower, hon hpower]
  · cases wheel <;> simp [setPowers, discipline, hphase, hpower]

/-- The end of a call takes the power away, wherever it starts. -/
lemma follows_settleAndStop :
    (discipline wheel).Follows (settleAndStop fuel) s fun _ s' => s'.power = 0 := by
  refine Protocol.follows_bind (follows_passive (by simp [ElapsedTime.reset])) ?_
  rintro time s' rfl
  refine Protocol.follows_bind
    (follows_passive ((emits_settle time fuel).mono fun _ => Waiting.passive)) ?_
  rintro _ s'' rfl
  cases wheel <;> simp [setPowers, restoreDirections, discipline, mounting]

end Call

/-! ## Runs -/

/-- Every wheel has been used in its discipline. -/
def Disciplined (h : History (robot K)) : Prop :=
  ∀ wheel, ((discipline wheel).after ⟨.idle, 0⟩ h).isSome

/-- And has no power now. -/
def AtEase (h : History (robot K)) : Prop :=
  ∀ wheel, ∃ s, (discipline wheel).after ⟨.idle, 0⟩ h = some s ∧ s.power = 0

lemma atEase_nil : AtEase ([] : History (robot K)) := fun _ => ⟨⟨.idle, 0⟩, rfl, rfl⟩

lemma AtEase.disciplined {h : History (robot K)} (hease : AtEase h) : Disciplined h := by
  intro wheel
  obtain ⟨s, hs, -⟩ := hease wheel
  rw [hs]
  rfl

lemma Disciplined.of_suffix {h past : History (robot K)} (hpast : past <:+ h)
    (hh : Disciplined h) : Disciplined past :=
  fun wheel => Protocol.isSome_of_suffix hpast (hh wheel)

/-- What takes every wheel from no power to no power in its discipline. -/
lemma wp_atEase {α : Type} {env : Environment (robot K)} {p : RobotProgram K α}
    {h : History (robot K)} (hease : AtEase h)
    (hp : ∀ wheel (s : WheelState K), s.power = 0 →
      (discipline wheel).Follows p s fun _ s' => s'.power = 0) :
    wp env p (fun _ => AtEase) Disciplined h := by
  refine wp_forall fun wheel => ?_
  obtain ⟨s, hs, hpower⟩ := hease wheel
  exact Protocol.wp_of_follows (hp wheel s hpower) hs

/-- A direction that `moveRTP` knows. -/
def Statement.Directed : Statement K → Prop
  | .moveRTP direction _ _ => (Heading.ofString direction).isSome
  | _ => True

lemma Statement.Sound.directed {statement : Statement K} (hsound : statement.Sound) :
    statement.Directed := by
  cases statement with
  | moveRTP direction maxSpeed distance => exact Option.isSome_iff_exists.mpr hsound.1
  | _ => trivial

/-- Every wheel is prepared, and has the power of the last sample. -/
def Powering (speed : K) (h : History (robot K)) : Prop :=
  ∀ wheel, (discipline wheel).after ⟨.idle, 0⟩ h = some ⟨.aimed, speed⟩

lemma Powering.disciplined {speed : K} {h : History (robot K)} (hspeed : Powering speed h) :
    Disciplined h := fun wheel => by rw [hspeed wheel]; rfl

section Runs

variable {env : Environment (robot K)} {hw : HardwareDesignosaurs K} {fuel : ℕ}

/-- What does not concern the wheels keeps them so. -/
lemma keeps_powering {α : Type} {p : RobotProgram K α} (hp : Emits Passive p) (speed : K) :
    Keeps env (Powering speed) p := by
  refine hp.keeps fun e h he hspeed wheel => ?_
  rw [Protocol.after_cons (hspeed wheel), he.discipline]

/-- An iteration gives every wheel the power of its sample. -/
lemma wp_setPowers_powering {speed power : K} {h : History (robot K)} (hspeed : Powering speed h)
    (hon : power = 0 → speed = 0) :
    wp env (setPowers power) (fun _ => Powering power) (fun _ => True) h := by
  refine wp_mono (fun _ _ => id) (fun _ _ => trivial) (wp_forall (R := fun _ _ => True) ?_)
  intro wheel
  refine wp_mono ?_ (fun _ _ => trivial) (Protocol.wp_of_follows
    (follows_setPowers power rfl hon) (hspeed wheel))
  rintro _ h' ⟨_, hs, rfl⟩
  exact hs

/-- Looking for the stones does not concern the wheels either. -/
lemma wp_detect_atEase (classifier : Classifier K) (tfod : Bool)
    {h : History (robot K)} (hease : AtEase h) :
    wp env (classifier.detect tfod 0) (fun _ => AtEase) Disciplined h :=
  wp_atEase hease fun _ _ hpower =>
    (follows_passive (classifier.emits_detect tfod 0)).mono fun _ _ hs' => hs' ▸ hpower

variable [IsStrictOrderedRing K]

/-- **The drive loop is disciplined**: it takes no power away that it has given. -/
lemma wp_driveLoop_powering (hclock : ClockRuns env) {d : DriveLoop K} {time : ElapsedTime}
    {h : History (robot K)} (hprev : ∃ t ∈ lastReading h, d.prevTime = time.seconds t)
    (hspeed : Powering 0 h) :
    wp env (driveLoop d time fuel) (fun s => Powering s.currentSpeed) Disciplined h := by
  refine wp_mono ?_ ?_ (wp_driveLoop_rule (fun run => Powering (d.after run).currentSpeed)
    (fun _ => ?_) (fun _ s => ?_) (fun run h' hrun hspeed' => ?_) fuel hprev hspeed)
  · rintro s h' ⟨run, hrun, hspeed'⟩
    rwa [hrun.locals]
  · rintro h' ⟨run, s, -, hspeed'⟩
    exact hspeed'.disciplined
  · exact keeps_powering (emits_driveGuard (by simp) (by simp)) _
  · exact keeps_powering (by simp [showDrive]) _
  · have hsampled : Powering (d.after run).currentSpeed (sampled env h') := fun wheel => by
      rw [sampled, Protocol.after_cons (Protocol.after_cons (hspeed' wheel) _)]
      rfl
    have hadvances : d.ClockAdvances (sampleAt env time h' :: run) := by
      obtain ⟨t, ht, hlast⟩ := hrun.reading
      refine forall_suffix_cons.mpr ⟨?_, hrun.clock hclock⟩
      rw [hlast]
      exact time.seconds_mono (hclock h' t ht)
    exact wp_setPowers_powering hsampled
      (not_imp_not.mp (DriveLoop.currentSpeed_ne_zero hadvances))

variable [FloorRing K]

/-- A call that knows its direction takes every wheel from no power to no power. -/
lemma wp_moveRTP_atEase (hclock : ClockRuns env) {direction : StringRef}
    (hknown : (Heading.ofString direction).isSome) (maxSpeed distance : K)
    {h : History (robot K)} (hease : AtEase h) :
    wp env (moveRTP hw fuel direction maxSpeed distance) (fun _ => AtEase) Disciplined h := by
  have hprepare : wp env (prepare hw direction distance) (fun _ => Powering 0) Disciplined h := by
    refine wp_forall fun wheel => ?_
    obtain ⟨s, hs, hpower⟩ := hease wheel
    refine wp_mono ?_ (fun _ => id)
      (Protocol.wp_of_follows (follows_prepare hw direction distance hpower) hs)
    rintro _ h' ⟨⟨phase, power⟩, hs', rfl, hphase⟩
    obtain rfl : phase = .aimed := hphase.mpr hknown
    exact hs'
  refine wp_seq (wp_mono (fun _ _ => id) (fun _ => And.right)
    (wp_conj (wp_prepare_read env hw direction distance h) hprepare)) ?_
  rintro ⟨time, prevTime⟩ h₁ ⟨hread, hspeed⟩
  refine wp_seq (wp_driveLoop_powering hclock hread hspeed) fun s h₂ hspeed₂ => ?_
  exact wp_forall fun wheel =>
    Protocol.wp_of_follows (follows_settleAndStop fuel) (hspeed₂ wheel)

lemma wp_statement_atEase (hclock : ClockRuns env) {statement : Statement K}
    (hdirected : statement.Directed) (time : ElapsedTime) {h : History (robot K)}
    (hease : AtEase h) :
    wp env (statement.program hw fuel time) (fun _ => AtEase) Disciplined h := by
  cases statement with
  | moveRTP direction maxSpeed distance =>
      exact wp_moveRTP_atEase hclock hdirected maxSpeed distance hease
  | setPosition servo position =>
      exact wp_atEase hease fun wheel s hpower => by simp [Statement.program, discipline, hpower]
  | shutdownTfod =>
      exact wp_atEase hease fun wheel s hpower => by simp [Statement.program, discipline, hpower]
  | _ =>
      refine wp_atEase hease fun wheel s hpower => (follows_passive
        ((Statement.emits_waiting hw fuel time _ ?_).mono fun _ => Waiting.passive)).mono ?_
      · trivial
      · rintro _ _ rfl
        exact hpower

/-- **Any program of statements**, by induction on it. -/
lemma wp_auto_atEase (hclock : ClockRuns env) {auto : Auto K}
    (hdirected : auto.Every Statement.Directed) (time : ElapsedTime) {h : History (robot K)}
    (hease : AtEase h) : wp env (auto.program hw fuel time) (fun _ => AtEase) Disciplined h := by
  induction auto generalizing time h with
  | done => exact hease
  | step statement next ih =>
      exact wp_seq (wp_statement_atEase hclock hdirected.1 time hease)
        fun time h' hease' => ih hdirected.2 time hease'
  | detect classifier tfod next ih =>
      exact wp_seq (wp_detect_atEase classifier tfod hease)
        fun pos h' hease' => ih pos (hdirected pos) time hease'

/-- **Every run is disciplined.**  On a clock that never goes back, in every run of every op mode
whose directions are known, whatever else is answered, stopped or not, from its first event to its
last: no encoder is reset under power, no wheel has power unless since it last lost power it was
reset, put to `RUN_TO_POSITION` and aimed, and no direction is set but the one the wheel is mounted
in.  A run that returns has taken all power away. -/
theorem runs_disciplined {op : OpMode K}
    (hdirected : ∀ memory, (op.body memory).Every Statement.Directed)
    {env : Environment (robot K)} (hclock : ClockRuns env) (hw : HardwareDesignosaurs K)
    (fuel : ℕ) :
    Disciplined (Program.run env (op.runOpMode hw fuel) []).2
      ∧ ∀ finish, Program.run env (op.runOpMode hw fuel) [] = (some (), finish) →
        AtEase finish := by
  have hstart : wp env op.start (fun _ => AtEase) Disciplined [] := by
    refine wp_atEase atEase_nil fun wheel s hpower => ?_
    refine Protocol.follows_bind (follows_passive (by simp [ElapsedTime.reset])) ?_
    rintro runtime s' rfl
    refine Protocol.follows_bind (follows_passive op.setup_passive) ?_
    rintro memory s'' rfl
    refine Protocol.follows_bind (follows_init hpower) ?_
    rintro _ _ rfl
    rfl
  have hrun : wp env (op.runOpMode hw fuel) (fun _ => AtEase) Disciplined [] :=
    wp_seq hstart fun start h hease => wp_auto_atEase hclock (hdirected start.2) start.1 hease
  exact ⟨wp_final (wp_mono (fun _ _ => AtEase.disciplined) (fun _ => id) hrun),
    fun finish => wp_returns hrun⟩

/-! ## What breaches it -/

variable (env hw) in
/-- The statement cannot breach the discipline: its direction is known, or its drive loop is not
entered. -/
def Statement.Harmless (start : History (robot K)) : Statement K → Prop
  | .moveRTP direction _ distance =>
      (Heading.ofString direction).isSome ∨ LoopSkipped env hw direction distance start
  | _ => True

/-- A speed that is not zero. -/
def Statement.Powered : Statement K → Prop
  | .moveRTP _ maxSpeed _ => 0 < maxSpeed
  | _ => True

/-- A harmless statement takes every wheel from no power to no power. -/
lemma wp_harmless_atEase (hclock : ClockRuns env) {statement : Statement K}
    {h : History (robot K)} (time : ElapsedTime) (hharmless : statement.Harmless env hw h)
    (hease : AtEase h) :
    wp env (statement.program hw fuel time) (fun _ => AtEase) Disciplined h := by
  by_cases hdirected : statement.Directed
  · exact wp_statement_atEase hclock hdirected time hease
  cases statement with
  | moveRTP direction maxSpeed distance =>
      obtain ⟨h₂, hskipped⟩ := hharmless.resolve_left hdirected
      rw [Program.run_bind] at hskipped
      have hprepare : wp env (prepare hw direction distance) (fun _ => AtEase) Disciplined h :=
        wp_atEase hease fun wheel s hpower =>
          (follows_prepare hw direction distance hpower).mono fun _ _ => And.left
      refine wp_seq (wp_mono (fun _ _ => id) (fun _ => And.right)
        (wp_conj (wp_run env _ h) hprepare)) ?_
      rintro ⟨time, prevTime⟩ h₁ ⟨hrun, hease₁⟩
      rw [hrun] at hskipped
      have hguard : wp env driveGuard (fun b h' => b = false ∧ AtEase h') Disciplined h₁ := by
        have hkeeps : wp env driveGuard (fun _ => AtEase) Disciplined h₁ :=
          wp_atEase hease₁ fun wheel s hpower =>
            follows_driveGuard.mono fun _ _ hs' => hs' ▸ hpower
        refine wp_mono (fun b h' hh' => ⟨?_, hh'.2⟩) (fun _ => And.right)
          (wp_conj (wp_run env _ h₁) hkeeps)
        exact Option.some.inj (congrArg Prod.fst (hh'.1.symm.trans hskipped))
      refine wp_seq (wp_whileLoop_skip (Q := fun _ => AtEase) hease₁.disciplined hguard fuel) ?_
      exact fun _ h₃ hease₃ => wp_atEase hease₃ fun _ _ _ => follows_settleAndStop fuel
  | _ => exact absurd trivial hdirected

omit [IsStrictOrderedRing K] in
/-- A drive loop that is not skipped is entered. -/
lemma entered_of_not_skipped {direction : StringRef} {distance : K} {h : History (robot K)}
    (hskipped : ¬ LoopSkipped env hw direction distance h) :
    ∃ time prevTime h₁ h₂,
      Program.run env (prepare hw direction distance) h = (some (time, prevTime), h₁)
        ∧ Program.run env driveGuard h₁ = (some true, h₂) := by
  obtain ⟨⟨time, prevTime⟩, h₁, hrun, -⟩ :=
    exists_run_of_wp (wp_prepare_returns env hw direction distance h)
  obtain ⟨_ | _, h₂, hrun₂, -⟩ := exists_run_of_wp (wp_driveGuard_returns env h₁)
  · refine absurd ⟨h₂, ?_⟩ hskipped
    rw [Program.run_bind, hrun]
    exact hrun₂
  · exact ⟨time, prevTime, h₁, h₂, hrun, hrun₂⟩

/-- One that is not harmless breaches the discipline of the front-right wheel. -/
lemma not_disciplined_of_not_harmless (hticks : ClockTicks env) {statement : Statement K}
    {h : History (robot K)} (time : ElapsedTime) (hpowered : statement.Powered)
    (hharmless : ¬ statement.Harmless env hw h) (hease : AtEase h) :
    ¬ Disciplined (Program.run env (statement.program hw (fuel + 1) time) h).2 := by
  cases statement with
  | moveRTP direction maxSpeed distance =>
      obtain ⟨hunknown, hskipped⟩ := not_or.mp hharmless
      obtain ⟨s, hs, hpower⟩ := hease .frontRight
      obtain ⟨timer, prevTime, h₁, h₂, hrun₁, hrun₂⟩ := entered_of_not_skipped hskipped
      obtain ⟨t, ht, hprev⟩ := wp_returns (wp_prepare_read env hw direction distance h) hrun₁
      obtain ⟨s₁, hs₁, -, hphase⟩ := wp_returns
        (Protocol.wp_of_follows (follows_prepare hw direction distance hpower) hs) hrun₁
      obtain ⟨s₂, hs₂, rfl⟩ := wp_returns (Protocol.wp_of_follows follows_driveGuard hs₁) hrun₂
      obtain ⟨hread, -⟩ := wp_returns (wp_driveGuard_passive h₁) hrun₂
      have htime : prevTime < timer.seconds (env h₂ .nsNow) := by
        obtain rfl : prevTime = timer.seconds t := hprev
        exact timer.seconds_strictMono (hticks h₂ t (hread ▸ ht))
      have hspeed : 0 < (DriveLoop.after ⟨hw, maxSpeed, distance, prevTime⟩
          [sampleAt env timer h₂]).currentSpeed :=
        DriveLoop.currentSpeed_pos ⟨hw, maxSpeed, distance, prevTime⟩ hpowered _ [] htime
      have hfirst : .command (.setPower (.drive .frontRight)
            (DriveLoop.after ⟨hw, maxSpeed, distance, prevTime⟩
              [sampleAt env timer h₂]).currentSpeed) :: sampled env h₂
          <:+ (Program.run env (moveRTP hw (fuel + 1) direction maxSpeed distance) h).2 :=
        moveRTP_first_power hrun₁ hrun₂
      -- the first power finds the wheel with no target
      intro hdisciplined
      obtain ⟨s₃, hs₃, hallowed⟩ := Protocol.allowed_of_after (hdisciplined .frontRight) hfirst
      have hsampled : (discipline .frontRight).after ⟨.idle, 0⟩ (sampled env h₂) = some s₂ :=
        (Protocol.after_cons (Protocol.after_cons hs₂ _) _)
      obtain rfl : s₂ = s₃ := Option.some.inj (hsampled.symm.trans hs₃)
      have hidle : s₂.phase ≠ .aimed := fun haimed => hunknown (hphase.mp haimed)
      simp [discipline, hidle, hspeed.ne'] at hallowed
  | _ => exact absurd trivial hharmless

/-- **Exactly the unknown directions breach the discipline.**  On a clock that ticks, a run of a
program from wheels without power is disciplined if and only if each `moveRTP` it executes knows its
direction or does not enter its drive loop. -/
theorem run_disciplined_iff (hticks : ClockTicks env) {auto : Auto K} {runtime : ElapsedTime}
    {h : History (robot K)} (hpowered : auto.Every Statement.Powered) (hease : AtEase h) :
    Disciplined (Program.run env (auto.program hw (fuel + 1) runtime) h).2
      ↔ ∀ statement time start,
        Executes env hw (fuel + 1) auto runtime h statement time start →
          statement.Harmless env hw start := by
  induction auto generalizing runtime h with
  | done => exact iff_of_true hease.disciplined fun _ _ _ hexec => by cases hexec
  | step first next ih =>
      by_cases hfirst : first.Harmless env hw h
      · have hstep : wp env (first.program hw (fuel + 1) runtime) (fun _ => AtEase) Disciplined h :=
          wp_harmless_atEase hticks.runs runtime hfirst hease
        rcases hrun : Program.run env (first.program hw (fuel + 1) runtime) h
          with ⟨_ | runtime', h'⟩
        · have hcut := wp_final (wp_mono (fun _ _ hh => hh.disciplined) (fun _ => id) hstep)
          rw [Auto.program, Program.run_bind, hrun]
          rw [hrun] at hcut
          refine iff_of_true hcut fun statement time start hexec => ?_
          cases hexec with
          | here => exact hfirst
          | later hrun' _ => exact absurd (hrun.symm.trans hrun') (by simp)
        · have hease' : AtEase h' := wp_returns (Q := fun _ => AtEase) hstep hrun
          rw [Auto.program, Program.run_bind, hrun, ih hpowered.2 hease']
          constructor
          · intro hall statement time start hexec
            cases hexec with
            | here => exact hfirst
            | later hrun' hexec =>
                cases hrun.symm.trans hrun'
                exact hall _ _ _ hexec
          · exact fun hall statement time start hexec => hall _ _ _ (.later hrun hexec)
      · refine iff_of_false (fun hdisciplined => ?_) fun hall => hfirst (hall _ _ _ .here)
        exact not_disciplined_of_not_harmless hticks runtime hpowered.1 hfirst hease
          (hdisciplined.of_suffix (Program.suffix_run_bind env _ _ h))
  | detect classifier tfod next ih =>
      have hlook : wp env (classifier.detect tfod 0) (fun _ => AtEase) Disciplined h :=
        wp_detect_atEase classifier tfod hease
      rcases hrun : Program.run env (classifier.detect tfod 0) h with ⟨_ | pos, h'⟩
      · have hcut := wp_final (wp_mono (fun _ _ hh => hh.disciplined) (fun _ => id) hlook)
        rw [Auto.program, Program.run_bind, hrun]
        rw [hrun] at hcut
        refine iff_of_true hcut fun statement time start hexec => ?_
        cases hexec with
        | seen hrun' _ => exact absurd (hrun.symm.trans hrun') (by simp)
      · have hease' : AtEase h' := wp_returns (Q := fun _ => AtEase) hlook hrun
        rw [Auto.program, Program.run_bind, hrun, ih pos (hpowered pos) hease']
        constructor
        · intro hall statement time start hexec
          cases hexec with
          | seen hrun' hexec =>
              cases hrun.symm.trans hrun'
              exact hall _ _ _ hexec
        · exact fun hall statement time start hexec => hall _ _ _ (.seen hrun hexec)

end Runs

/-- The parking program ends with no power on any wheel, after it has driven. -/
theorem parking_disciplined : ∃ finish,
    Program.run workingRobot (ParkingAuto.runOpMode designosaurs 2) [] = (some (), finish)
      ∧ (∃ power, 0 < power ∧ powers .frontRight finish = [0, power, 0])
      ∧ Disciplined finish ∧ AtEase finish := by
  have hop : ∀ memory, ((ParkingAuto : OpMode ℝ).body memory).Every Statement.Directed :=
    fun memory => (opModes_sound (by simp [opModes]) memory).mono fun _ => Statement.Sound.directed
  obtain ⟨finish, hrun, hpowers⟩ := parking_works
  obtain ⟨hdisciplined, hease⟩ :=
    runs_disciplined hop clockTicks_workingRobot.runs designosaurs 2
  rw [hrun] at hdisciplined
  exact ⟨finish, hrun, hpowers, hdisciplined, hease finish hrun⟩

/-- A call, and one in the direction `"forwards"`. -/
noncomputable def misspelt : Auto ℝ :=
  .steps [.moveRTP (.literal "forward") 0.4 24.0, .moveRTP (.literal "forwards") 0.4 24.0] .done

/-- The first call drives.  The second finds no motor busy, and breaches nothing. -/
theorem misspelt_skipped : ∃ time finish,
    Program.run workingRobot (misspelt.program designosaurs 2 ⟨0⟩) [] = (some time, finish)
      ∧ (∃ power, 0 < power ∧ powers .frontRight finish = [0, 0, power])
      ∧ Disciplined finish := by
  have hmax : (0 : ℝ) < 0.4 := by norm_num
  have htime : ((⟨0⟩ : ElapsedTime).seconds 500000000 : ℝ)
      < (⟨0⟩ : ElapsedTime).seconds 1000000000 := ElapsedTime.seconds_strictMono _ (by norm_num)
  have hpowered : misspelt.Every Statement.Powered := by
    norm_num [misspelt, Auto.steps, Auto.Every, Statement.Powered]
  obtain ⟨time, h, hrun, hskipped⟩ : ∃ time h, Program.run workingRobot
      ((Statement.moveRTP (.literal "forward") 0.4 24.0).program designosaurs 2 ⟨0⟩) []
        = (some time, h) ∧ LoopSkipped workingRobot designosaurs (.literal "forwards") 24.0 h :=
    ⟨_, _, rfl, _, rfl⟩
  have hdisciplined :
      Disciplined (Program.run workingRobot (misspelt.program designosaurs 2 ⟨0⟩) []).2 := by
    refine (run_disciplined_iff clockTicks_workingRobot hpowered atEase_nil).mpr ?_
    rintro statement _ start (_ | ⟨hrun', _ | ⟨_, hexec⟩⟩)
    · exact .inl rfl
    · cases hrun.symm.trans hrun'
      exact .inr hskipped
    · cases hexec
  exact ⟨_, _, rfl, ⟨_, DriveLoop.currentSpeed_pos ⟨designosaurs, 0.4, 24.0, _⟩ hmax
    ⟨_, 0⟩ [] htime, rfl⟩, hdisciplined⟩

end Designosaurs
