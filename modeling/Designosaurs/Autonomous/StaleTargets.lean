import Designosaurs.Autonomous.OpMode

/-!
# Stale targets

`setMode(STOP_AND_RESET_ENCODER)` zeroes an encoder and keeps the target, and the documentation of
the SDK leaves open whether the motor stays in that mode or goes on to another one by itself.  A
motor that goes on to `RUN_TO_POSITION` is then away from a target that an earlier `moveRTP` set.

`Motors` is what the documentation admits.  `moveRTP` is safe against all of it as long as its
direction is one of the four literals: the two calls of `setTargetPos` on a wheel put it in
`RUN_TO_POSITION`, and nothing after them changes a mode or a target.  With any other direction
control falls through into the drive loop, and if all four motors say they are busy the robot moves
towards the targets of the call before.  `no_stale_motion` is the first half, over whole runs, with
the two cases in which the fall-through does no harm; `stale_motion` is a run in which it does.
-/

namespace Designosaurs

open Interact

variable {K : Type}

/-! ## The motors -/

/-- The mode a drive wheel has been told to be in, once an event has happened in `mode`. -/
def commandedMode (wheel : Wheel) (mode : RunMode) : Event (robot K) → RunMode
  | .command (.setMode (.drive w) commanded) => if w = wheel then commanded else mode
  | _ => mode

/-- A motor stays in its mode, unless it has just reset its encoder. -/
def MayBecome (commanded mode : RunMode) : Prop :=
  mode = commanded ∨ commanded = .STOP_AND_RESET_ENCODER

/-- A behaviour of the drive motors that the documentation of the SDK admits, with the answers an
environment gives: what mode each is in and where it stands, at every point of a history. -/
structure Motors (env : Environment (robot K)) where
  mode : Wheel → History (robot K) → RunMode
  position : Wheel → History (robot K) → ℤ
  mode_step : ∀ wheel e h, MayBecome (commandedMode wheel (mode wheel h) e) (mode wheel (e :: h))
  position_reset : ∀ wheel h,
    position wheel (.command (.setMode (.drive wheel) .STOP_AND_RESET_ENCODER) :: h) = 0
  position_read : ∀ wheel h, env h (.getCurrentPosition (.drive wheel)) = position wheel h
  /-- A motor is busy only in `RUN_TO_POSITION` and away from its newest target. -/
  busy : ∀ wheel h, env h (.isBusy (.drive wheel)) = true →
    mode wheel h = .RUN_TO_POSITION ∧ position wheel h ≠ (targets wheel h).headD 0

/-- An event that sets no drive motor's mode. -/
def Steady (e : Event (robot K)) : Prop := ∀ wheel mode, commandedMode wheel mode e = mode

@[simp] lemma steady_answer (q : Query) (a : Query.Answer K q) :
    Steady (.answer q a : Event (robot K)) := fun _ _ => rfl

@[simp] lemma steady_command {c : Command K}
    (hc : ∀ wheel mode, c ≠ .setMode (.drive wheel) mode) : Steady (.command c) := by
  intro wheel mode
  cases c with
  | setMode motor m =>
      cases motor with
      | drive w => exact absurd rfl (hc w m)
      | _ => rfl
  | _ => rfl

lemma Passive.steady {e : Event (robot K)} (he : Passive e) : Steady e := by
  cases e with
  | answer q a => exact steady_answer q a
  | command c =>
      apply steady_command
      rintro wheel mode rfl
      exact he

section Aimed

variable {env : Environment (robot K)} (motors : Motors env)

/-- The wheel is in `RUN_TO_POSITION`, with a target that was set since `start`. -/
def AimedAt (start : History (robot K)) (wheel : Wheel) (h : History (robot K)) : Prop :=
  motors.mode wheel h = .RUN_TO_POSITION
    ∧ ∃ new position, h = new ++ start ∧ .command (.setTargetPosition (.drive wheel) position) ∈ new

variable {motors} {start h : History (robot K)} {wheel : Wheel}

lemma mode_of_commanded {e : Event (robot K)}
    (he : commandedMode wheel (motors.mode wheel h) e = .RUN_TO_POSITION) :
    motors.mode wheel (e :: h) = .RUN_TO_POSITION := by
  rcases motors.mode_step wheel e h with hmode | hreset
  · rw [hmode, he]
  · rw [he] at hreset
    exact absurd hreset (by decide)

/-- Once aimed, a wheel stays aimed while its mode is not set. -/
lemma AimedAt.step {e : Event (robot K)} (haimed : AimedAt motors start wheel h)
    (he : commandedMode wheel .RUN_TO_POSITION e = .RUN_TO_POSITION) :
    AimedAt motors start wheel (e :: h) := by
  obtain ⟨hmode, new, position, rfl, hset⟩ := haimed
  refine ⟨mode_of_commanded (by rw [hmode, he]), e :: new, position, rfl, ?_⟩
  exact List.mem_cons_of_mem e hset

/-- An aimed wheel has a target it did not have at the start. -/
lemma AimedAt.targets_ne (haimed : AimedAt motors start wheel h) :
    targets wheel h ≠ targets wheel start := by
  obtain ⟨-, new, position, rfl, hset⟩ := haimed
  rw [targets_append, Ne, List.append_left_eq_self]
  exact List.ne_nil_of_mem (mem_targets hset)

variable (motors) in
/-- Sending a motor to a position aims its wheel, and no other wheel is aimed any less. -/
lemma wp_setTargetPos [Field K] [LinearOrder K] [FloorRing K] {R : History (robot K) → Prop}
    (hstart : start <:+ h) (position : K) :
    wp env (setTargetPos (.drive wheel) position)
      (fun _ h' => start <:+ h' ∧ AimedAt motors start wheel h'
        ∧ ∀ w, AimedAt motors start w h → AimedAt motors start w h') R h := by
  simp only [setTargetPos, wp_bind, wp_command, wp_done]
  obtain ⟨new, rfl⟩ := hstart
  have hmode : motors.mode wheel (.command (.setMode (.drive wheel) .RUN_TO_POSITION)
      :: (new ++ start)) = .RUN_TO_POSITION := mode_of_commanded (if_pos rfl)
  refine ⟨⟨_, List.append_assoc [_, _] new start⟩, ?_, fun w haimed => ?_⟩
  · exact ⟨mode_of_commanded hmode, _ :: _ :: new, _, rfl, List.mem_cons_self⟩
  · exact (haimed.step (by simp [commandedMode])).step rfl

/-- A program that sets no drive motor's mode leaves every wheel aimed. -/
lemma keeps_aimed {α : Type} {p : RobotProgram K α} (hp : Emits Steady p) :
    Keeps env (fun h => ∀ wheel, AimedAt motors start wheel h) p :=
  hp.keeps fun _ _ he hh wheel => (hh wheel).step (he wheel _)

end Aimed

/-! ## One call -/

section Call

variable [Field K] {env : Environment (robot K)} {motors : Motors env} {direction : StringRef}
  {start h : History (robot K)}

variable (motors) in
/-- The event gives no power but zero, or belongs to a call that knows its direction, and comes when
that call has aimed all four wheels. -/
def Intended (direction : StringRef) (start : History (robot K)) (e : Event (robot K))
    (past : History (robot K)) : Prop :=
  Quiet e ∨ ((Heading.ofString direction).isSome ∧ ∀ wheel, AimedAt motors start wheel past)

/-- A program that gives no power but zero. -/
lemma keeps_intended {α : Type} {p : RobotProgram K α} (hp : Emits Quiet p) :
    Keeps env (Extends (Intended motors direction start) start) p :=
  hp.keeps fun _ _ he hh => .step (.inl he) hh

lemma keeps_intended_of_unpowered {α : Type} {p : RobotProgram K α} (hp : Emits Unpowered p) :
    Keeps env (Extends (Intended motors direction start) start) p :=
  keeps_intended (hp.mono fun _ => Unpowered.quiet)

variable [LinearOrder K] {hw : HardwareDesignosaurs K} {fuel : ℕ} {maxSpeed distance : K}

/-- The drive loop and what follows it set no mode. -/
lemma emits_steady (d : DriveLoop K) (time : ElapsedTime) :
    Emits Steady (do let _ ← driveLoop d time fuel; settleAndStop fuel : RobotProgram K _) := by
  refine emits_bind ?_ fun _ => ?_
  · exact emits_whileLoop (emits_driveGuard (by simp) (by simp))
      (emits_driveBody (fun _ he => he.passive.steady) (by simp) (by simp) d time) fuel _
  · exact emits_settleAndStop (fun _ he => he.passive.steady) (by simp) (by simp) fuel

/-- With `maxSpeed` zero, the drive loop commands zero. -/
lemma wp_driveLoop_zero {d : DriveLoop K} (hmax : d.maxSpeed = 0) (time : ElapsedTime)
    (hx : Extends (Intended motors direction start) start h) :
    wp env (driveLoop d time fuel) (fun _ => Extends (Intended motors direction start) start)
      (Extends (Intended motors direction start) start) h := by
  have hloop : wp env (driveLoop d time fuel)
      (fun s h' => (∃ run, s = d.after run) ∧ Extends (Intended motors direction start) start h')
      (Extends (Intended motors direction start) start) h := by
    refine wp_whileLoop
      (fun s h' => (∃ run, s = d.after run) ∧ Extends (Intended motors direction start) start h')
      (fun _ _ => And.right) ?_ fuel _ h ⟨⟨[], rfl⟩, hx⟩
    rintro _ h₁ ⟨⟨run, rfl⟩, hx₁⟩
    have hguard : Emits Quiet (driveGuard : RobotProgram K Bool) :=
      emits_driveGuard (by simp) (by simp)
    refine wp_mono ?_ (fun _ => id) (keeps_intended hguard h₁ hx₁)
    rintro (_ | _) h₂ hx₂
    · exact ⟨⟨run, rfl⟩, hx₂⟩
    · have hbody : Emits Quiet (driveBody d time (d.after run)) := by
        refine emits_bind (by simp [ElapsedTime.time]) fun nowTime => ?_
        refine emits_bind (by simp) fun position => ?_
        have hzero : (d.rampStep (d.after run) ⟨nowTime, position⟩).currentSpeed = 0 :=
          d.currentSpeed_zero hmax (⟨nowTime, position⟩ :: run)
        simp [hzero, setPowers, showDrive]
      have hrun : wp env (driveBody d time (d.after run)) (fun s _ => ∃ run, s = d.after run)
          (fun _ => True) h₂ := ⟨_ :: run, rfl⟩
      exact wp_mono (fun _ _ => id) (fun _ => And.right)
        (wp_conj hrun (keeps_intended hbody h₂ hx₂))
  exact wp_mono (fun _ _ => And.right) (fun _ => id) hloop

variable [FloorRing K]

variable (motors) in
/-- With a direction it knows, the call aims all four wheels. -/
lemma wp_setTargets {heading : Heading} (hdirection : Heading.ofString direction = some heading)
    {R : History (robot K) → Prop} (hstart : start <:+ h) :
    wp env (setTargets hw direction distance)
      (fun _ h' => ∀ wheel, AimedAt motors start wheel h') R h := by
  rw [setTargets, hdirection]
  refine wp_seq (wp_setTargetPos motors hstart _) fun _ h₁ hh₁ => ?_
  refine wp_seq (wp_setTargetPos motors hh₁.1 _) fun _ h₂ hh₂ => ?_
  refine wp_seq (wp_setTargetPos motors hh₂.1 _) fun _ h₃ hh₃ => ?_
  refine wp_mono (fun _ h₄ hh₄ wheel => ?_) (fun _ => id) (wp_setTargetPos motors hh₃.1 _)
  obtain ⟨-, hfl, -⟩ := hh₁
  obtain ⟨-, hfr, hkeep₂⟩ := hh₂
  obtain ⟨-, hbl, hkeep₃⟩ := hh₃
  obtain ⟨-, hbr, hkeep₄⟩ := hh₄
  cases wheel with
  | frontRight => exact hkeep₄ _ (hkeep₃ _ hfr)
  | frontLeft => exact hkeep₄ _ (hkeep₃ _ (hkeep₂ _ hfl))
  | backRight => exact hbr
  | backLeft => exact hkeep₄ _ hbl

/-- **A call with a direction it knows.** -/
theorem wp_moveRTP_known {heading : Heading}
    (hdirection : Heading.ofString direction = some heading) :
    wp env (moveRTP hw fuel direction maxSpeed distance)
      (fun _ => Extends (Intended motors direction start) start)
      (Extends (Intended motors direction start) start) start := by
  have hprepare : wp env (prepare hw direction distance)
      (fun _ h' => ∀ wheel, AimedAt motors start wheel h') (fun _ => True) start := by
    have hsuffix := wp_mono (fun _ _ => id) (fun _ _ => trivial) (wp_suffix env resetEncoders start)
    refine wp_seq hsuffix fun _ h₁ hs₁ => ?_
    refine wp_seq (wp_setTargets motors hdirection hs₁) fun _ h₂ haimed => ?_
    refine wp_mono (fun _ _ => id) (fun _ _ => trivial) (keeps_aimed ?_ h₂ haimed)
    simp [ElapsedTime.reset, ElapsedTime.time]
  refine wp_seq (wp_mono (fun _ _ => id) (fun _ => And.right) (wp_conj hprepare
    (keeps_intended_of_unpowered (emits_unpowered_prepare hw direction distance) start .refl))) ?_
  rintro ⟨time, prevTime⟩ h₁ ⟨haimed, hx⟩
  have hkeeps : Keeps env (fun h' => (∀ wheel, AimedAt motors start wheel h')
      ∧ Extends (Intended motors direction start) start h')
      (do let _ ← driveLoop ⟨hw, maxSpeed, distance, prevTime⟩ time fuel; settleAndStop fuel) := by
    refine (emits_steady _ time).keeps fun e h' he hh => ⟨fun wheel => ?_, ?_⟩
    · exact (hh.1 wheel).step (he wheel _)
    · exact .step (.inr ⟨by simp [hdirection], hh.1⟩) hh.2
  exact wp_mono (fun _ _ => And.right) (fun _ => And.right) (hkeeps h₁ ⟨haimed, hx⟩)

variable (env hw) in
/-- The first test of the call's drive loop answers `false`. -/
def LoopSkipped (direction : StringRef) (distance : K) (start : History (robot K)) : Prop :=
  ∃ h, Program.run env (do let _ ← prepare hw direction distance; driveGuard) start
    = (some false, h)

variable (env hw) in
/-- A call that cannot drive to a stale target. -/
def Harmless (direction : StringRef) (maxSpeed distance : K) (start : History (robot K)) : Prop :=
  (Heading.ofString direction).isSome ∨ maxSpeed = 0 ∨ LoopSkipped env hw direction distance start

/-- **Every harmless call is as intended**, from whatever history it starts. -/
theorem wp_moveRTP_intended (hharmless : Harmless env hw direction maxSpeed distance start) :
    wp env (moveRTP hw fuel direction maxSpeed distance)
      (fun _ => Extends (Intended motors direction start) start)
      (Extends (Intended motors direction start) start) start := by
  have hprepare : Keeps env (Extends (Intended motors direction start) start)
      (prepare hw direction distance) :=
    keeps_intended_of_unpowered (emits_unpowered_prepare hw direction distance)
  rcases hharmless with hknown | rfl | ⟨h, hskipped⟩
  · obtain ⟨heading, hdirection⟩ := Option.isSome_iff_exists.mp hknown
    exact wp_moveRTP_known hdirection
  · refine wp_seq (hprepare start .refl) fun s h₁ hx₁ => ?_
    refine wp_seq (wp_driveLoop_zero rfl s.1 hx₁) fun _ h₂ hx₂ => ?_
    exact keeps_intended (emits_quiet_settleAndStop fuel) h₂ hx₂
  · refine wp_seq (wp_mono (fun _ _ => id) (fun _ => And.right)
      (wp_conj (wp_run env _ start) (hprepare start .refl))) fun s h₁ hh₁ => ?_
    obtain ⟨hrun, hx₁⟩ := hh₁
    rw [Program.run_bind, hrun] at hskipped
    have hguard : Keeps env (Extends (Intended motors direction start) start) driveGuard :=
      keeps_intended (emits_driveGuard (by simp) (by simp))
    have hfalse : wp env driveGuard
        (fun b h' => b = false ∧ Extends (Intended motors direction start) start h')
        (Extends (Intended motors direction start) start) h₁ := by
      refine wp_mono (fun b h' hh' => ⟨?_, hh'.2⟩) (fun _ => And.right)
        (wp_conj (wp_run env _ h₁) (hguard h₁ hx₁))
      exact Option.some.inj (congrArg Prod.fst (hh'.1.symm.trans hskipped))
    refine wp_seq (wp_whileLoop_skip (Q := fun _ => Extends (Intended motors direction start) start)
      hx₁ hfalse fuel) fun _ h₂ hx₂ => ?_
    exact keeps_intended (emits_quiet_settleAndStop fuel) h₂ hx₂

/-- A call whose drive loop is entered when the clock has moved on gives a power other than zero,
and sets no target between the test and that power. -/
lemma moveRTP_drives [IsStrictOrderedRing K] {time : ElapsedTime} {prevTime : K}
    {h₁ h₂ : History (robot K)}
    (hprepare : Program.run env (prepare hw direction distance) start = (some (time, prevTime), h₁))
    (hguard : Program.run env driveGuard h₁ = (some true, h₂)) (hmax : 0 < maxSpeed)
    (htime : prevTime < time.seconds (env h₂ .nsNow)) :
    ∃ power past, 0 < power ∧ start <:+ past ∧ (∀ wheel, targets wheel past = targets wheel h₂)
      ∧ .command (.setPower (.drive .frontRight) power) :: past
        <:+ (Program.run env (moveRTP hw (fuel + 1) direction maxSpeed distance) start).2 := by
  have hprepared : start <:+ h₁ := by
    have hsuffix := Program.suffix_run env (prepare hw direction distance) start
    rwa [hprepare] at hsuffix
  have hpassed : h₁ <:+ h₂ := by
    have hsuffix := Program.suffix_run env driveGuard h₁
    rwa [hguard] at hsuffix
  have hsampled : h₂ <:+ sampled env h₂ := List.suffix_append [_, _] h₂
  refine ⟨_, sampled env h₂, ?_, ?_, fun _ => rfl, moveRTP_first_power hprepare hguard⟩
  · exact DriveLoop.currentSpeed_pos ⟨hw, maxSpeed, distance, prevTime⟩ hmax _ _ htime
  · exact hprepared.trans (hpassed.trans hsampled)

end Call

/-! ## A whole run -/

section Run

variable [Field K] [LinearOrder K] [FloorRing K] {env : Environment (robot K)}
  (motors : Motors env) (hw : HardwareDesignosaurs K) (fuel : ℕ)

/-- In the run of a program, an event that belongs to a call which knows its direction, and that
comes when that very call has aimed all four wheels. -/
def InCall (auto : Auto K) (runtime : ElapsedTime) (h : History (robot K)) (e : Event (robot K))
    (past : History (robot K)) : Prop :=
  ∃ direction maxSpeed distance time start,
    Executes env hw fuel auto runtime h (.moveRTP direction maxSpeed distance) time start
      ∧ start <:+ past
      ∧ e :: past <:+ (Program.run env (moveRTP hw fuel direction maxSpeed distance) start).2
      ∧ (Heading.ofString direction).isSome ∧ ∀ wheel, AimedAt motors start wheel past

variable (env) in
/-- Every `moveRTP` that the run executes is harmless. -/
def AllHarmless (auto : Auto K) (runtime : ElapsedTime) (h : History (robot K)) : Prop :=
  ∀ direction maxSpeed distance time start,
    Executes env hw fuel auto runtime h (.moveRTP direction maxSpeed distance) time start →
      Harmless env hw direction maxSpeed distance start

variable {hw fuel}

/-- **The induction over a program.** -/
theorem wp_auto_intended {auto : Auto K} {runtime : ElapsedTime} {h : History (robot K)}
    (hcalls : AllHarmless env hw fuel auto runtime h) :
    wp env (auto.program hw fuel runtime)
      (fun _ => Extends (fun e past => Quiet e ∨ InCall motors hw fuel auto runtime h e past) h)
      (Extends (fun e past => Quiet e ∨ InCall motors hw fuel auto runtime h e past) h) h := by
  induction auto generalizing runtime h with
  | done => exact .refl
  | step statement next ih =>
      refine wp_extends_bind ?_ fun runtime' h' hrun => wp_extends_mono (ih ?_) ?_
      · -- the first statement
        cases statement with
        | moveRTP direction maxSpeed distance =>
            have hcall : wp env (moveRTP hw fuel direction maxSpeed distance)
                (fun _ => Extends (Intended motors direction h) h)
                (Extends (Intended motors direction h) h) h :=
              wp_moveRTP_intended (hcalls _ _ _ _ _ .here)
            refine wp_extends_mono (wp_within hcall) ?_
            rintro e past hpast ⟨hquiet | ⟨hknown, haimed⟩, hevent⟩
            · exact .inl hquiet
            · exact .inr ⟨_, _, _, _, _, .here, hpast, hevent, hknown, haimed⟩
        | _ =>
            refine wp_extends_of_emits (Statement.emits_program hw fuel runtime _ ?_)
              fun e past he => .inl he.quiet
            simp
      · intro direction maxSpeed distance time start hexec
        exact hcalls direction maxSpeed distance time start (.later hrun hexec)
      · rintro e past - (hquiet | ⟨direction, maxSpeed, distance, time, start, hexec, hcall⟩)
        · exact .inl hquiet
        · exact .inr ⟨_, _, _, _, _, .later hrun hexec, hcall⟩
  | detect classifier tfod next ih =>
      refine wp_extends_bind ?_ fun pos h' hrun => wp_extends_mono (ih pos ?_) ?_
      · exact wp_extends_of_emits (classifier.emits_detect tfod 0)
          fun e past he => .inl he.unpowered.quiet
      · intro direction maxSpeed distance time start hexec
        exact hcalls direction maxSpeed distance time start (.seen hrun hexec)
      · rintro e past - (hquiet | ⟨direction, maxSpeed, distance, time, start, hexec, hcall⟩)
        · exact .inl hquiet
        · exact .inr ⟨_, _, _, _, _, .seen hrun hexec, hcall⟩

/-- **No stale motion.**  In every run of every program whose `moveRTP` calls are all harmless, from
any history and for any motors the documentation admits, a power other than zero belongs to a call
that knows its direction and comes when all four wheels are in `RUN_TO_POSITION` with targets which
that call set. -/
theorem no_stale_motion {auto : Auto K} {runtime : ElapsedTime}
    {h : History (robot K)} (hcalls : AllHarmless env hw fuel auto runtime h) :
    ∀ wheel power past, .command (.setPower (.drive wheel) power) :: past
        <:+ (Program.run env (auto.program hw fuel runtime) h).2 → h <:+ past → power ≠ 0 →
      InCall motors hw fuel auto runtime h (.command (.setPower (.drive wheel) power)) past := by
  intro wheel power past hevent hpast hpower
  have hfinal := wp_final (wp_auto_intended motors hcalls)
  rcases (Extends.iff_forall.mp hfinal).2 _ past hevent hpast with hquiet | hcall
  · exact absurd (hquiet wheel power rfl) hpower
  · exact hcall

end Run

/-! ## A robot that goes wrong -/

section ReadyRobot

/-- A motor that goes on to `RUN_TO_POSITION` by itself after a reset. -/
def readyMode (wheel : Wheel) : History (robot ℝ) → RunMode
  | [] => .RUN_WITHOUT_ENCODER
  | .command (.setMode (.drive w) mode) :: h =>
      if w = wheel then if mode = .STOP_AND_RESET_ENCODER then .RUN_TO_POSITION else mode
      else readyMode wheel h
  | _ :: h => readyMode wheel h

/-- It is where it is sent as soon as it is given a power. -/
def readyPosition (wheel : Wheel) : History (robot ℝ) → ℤ
  | [] => 0
  | .command (.setMode (.drive w) mode) :: h =>
      if w = wheel ∧ mode = .STOP_AND_RESET_ENCODER then 0 else readyPosition wheel h
  | .command (.setPower (.drive w) _) :: h =>
      if w = wheel then (targets wheel h).headD 0 else readyPosition wheel h
  | _ :: h => readyPosition wheel h

/-- A robot with such motors, on a clock that is read once a second. -/
def readyRobot : Environment (robot ℝ)
  | h, .isBusy (.drive wheel) => decide (readyMode wheel h = .RUN_TO_POSITION
      ∧ readyPosition wheel h ≠ (targets wheel h).headD 0)
  | _, .isBusy _ => false
  | h, .getCurrentPosition (.drive wheel) => readyPosition wheel h
  | _, .getCurrentPosition _ => 0
  | _, .opModeIsActive => true
  | h, .nsNow => (lastReading h).elim 0 (· + 1000000000)
  | _, .canCreateTFObjectDetector => false
  | _, .getUpdatedRecognitions => none

/-- The documentation admits them. -/
def readyMotors : Motors readyRobot where
  mode := readyMode
  position := readyPosition
  mode_step wheel e h := by
    cases e with
    | answer q a => exact .inl rfl
    | command c =>
        cases c with
        | setMode motor mode =>
            cases motor with
            | drive w =>
                by_cases hw : w = wheel <;> by_cases hmode : mode = .STOP_AND_RESET_ENCODER <;>
                  simp [MayBecome, commandedMode, readyMode, hw, hmode]
            | _ => exact .inl rfl
        | _ => exact .inl rfl
  position_reset wheel h := if_pos ⟨rfl, rfl⟩
  position_read _ _ := rfl
  busy _ _ hbusy := of_decide_eq_true hbusy

/-- A front-right motor that is not busy ends the loop at once. -/
lemma run_driveGuard_idle {env : Environment (robot K)} {h : History (robot K)}
    (hidle : env h (.isBusy (.drive .frontRight)) = false) :
    Program.run env driveGuard h
      = (some false, .answer (.isBusy (.drive .frontRight)) false :: h) := by
  simp [driveGuard, busyCheck, Program.and, hidle]

lemma run_driveGuard_readyRobot {h : History (robot ℝ)}
    (hbusy : ∀ wheel, readyRobot h (.isBusy (.drive wheel)) = true) :
    Program.run readyRobot driveGuard h
      = (some true, .answer .opModeIsActive true :: .answer (.isBusy (.drive .backLeft)) true
        :: .answer (.isBusy (.drive .backRight)) true :: .answer (.isBusy (.drive .frontLeft)) true
        :: .answer (.isBusy (.drive .frontRight)) true :: h) := by
  have hanswer : ∀ q a h wheel, readyRobot (.answer q a :: h) (.isBusy (.drive wheel))
      = readyRobot h (.isBusy (.drive wheel)) := fun _ _ _ _ => rfl
  have hactive : ∀ h, readyRobot h .opModeIsActive = true := fun _ => rfl
  simp [driveGuard, busyCheck, Program.and, hanswer, hbusy, hactive]

/-- If it is ready to go on after its preparations, it drives. -/
lemma readyRobot_drives {direction : StringRef} {maxSpeed distance : ℝ}
    {start h : History (robot ℝ)} {s : ElapsedTime × ℝ} (fuel : ℕ)
    (hprepare : Program.run readyRobot (prepare designosaurs direction distance) start
      = (some s, h))
    (hbusy : ∀ wheel, readyRobot h (.isBusy (.drive wheel)) = true)
    (hmax : 0 < maxSpeed) :
    ∃ power past, 0 < power ∧ start <:+ past ∧ (∀ wheel, targets wheel past = targets wheel h)
      ∧ .command (.setPower (.drive .frontRight) power) :: past <:+ (Program.run readyRobot
        (moveRTP designosaurs (fuel + 1) direction maxSpeed distance) start).2 := by
  obtain ⟨t, ht, hprev⟩ :=
    wp_returns (wp_prepare_read readyRobot designosaurs direction distance start) hprepare
  have hnow : s.1.seconds t < (s.1.seconds (t + 1000000000) : ℝ) := by
    rw [ElapsedTime.seconds, ElapsedTime.seconds, div_lt_div_iff_of_pos_right (by norm_num)]
    push_cast
    linarith
  obtain ⟨power, past, hpower, hpast, hsame, hevent⟩ := moveRTP_drives hprepare
    (run_driveGuard_readyRobot hbusy) hmax
    (by simpa [readyRobot, Option.mem_def.mp ht, hprev] using hnow)
  exact ⟨power, past, hpower, hpast, hsame, hevent⟩

/-- Its drive loop ends after the first iteration. -/
lemma wp_driveLoop_readyRobot (d : DriveLoop ℝ) (time : ElapsedTime) {h : History (robot ℝ)}
    (hbusy : ∀ wheel, readyRobot h (.isBusy (.drive wheel)) = true) :
    wp readyRobot (driveLoop d time 2) (fun _ h' => ∀ wheel, targets wheel h' = targets wheel h)
      (fun _ => False) h := by
  have hguard := run_driveGuard_readyRobot hbusy
  refine wp_seq (M := fun busy h' => Program.run readyRobot driveGuard h = (some busy, h'))
    (wp_of_run hguard hguard) fun busy h₁ hrun => ?_
  cases hguard.symm.trans hrun
  simp only [if_true, driveBody, ElapsedTime.time, setPowers, showDrive, wp_bind, wp_ask,
    wp_command, wp_done, wp_pure]
  -- the powers have brought the wheels to their targets
  refine wp_seq (M := fun busy h' => busy = false ∧ ∀ wheel, targets wheel h' = targets wheel h)
    (wp_of_run (run_driveGuard_idle ?_) ⟨rfl, fun _ => rfl⟩) ?_
  · exact decide_eq_false fun hbusy => hbusy.2 rfl
  · rintro _ h₂ ⟨rfl, htargets⟩
    exact htargets

/-- Its settle wait ends at the first reading. -/
lemma wp_settleAndStop_readyRobot (fuel : ℕ) (h : History (robot ℝ)) :
    wp readyRobot (settleAndStop (fuel + 1))
      (fun _ h' => ∀ wheel, targets wheel h' = targets wheel h) (fun _ => False) h := by
  have hms : TimeUnit.MILLISECONDS.convert 1000000000 = 1000 := rfl
  simp [settleAndStop, ElapsedTime.reset, settle, waitWhile, Program.whileLoop, ElapsedTime.timeIn,
    Program.and, readyRobot, hms, setPowers, restoreDirections, targets]

/-- The initialised robot. -/
noncomputable def readyStart : History (robot ℝ) := (Program.run readyRobot init []).2

lemma forward_target_ne_zero (wheel : Wheel) :
    target designosaurs .forward 24.0 wheel ≠ 0 := by
  refine target_ne_zero (designosaurs_ticksFit _ (by norm_num) (by norm_num)) ?_ wheel
  have htick := designosaurs_encoderTicksPerInch_bounds
  rw [abs_of_nonneg (reach_nonneg (by norm_num))]
  show 1 ≤ (24.0 : ℝ) / designosaurs.encoderTicksPerInch
  rw [le_div_iff₀ (by linarith)]
  linarith

lemma forward_busy {h : History (robot ℝ)} {s : ElapsedTime × ℝ}
    (hprepare : Program.run readyRobot (prepare designosaurs (.literal "forward") 24.0) readyStart
      = (some s, h)) (wheel : Wheel) : readyRobot h (.isBusy (.drive wheel)) = true := by
  cases hprepare
  refine decide_eq_true ⟨?_, ?_⟩
  · cases wheel <;> rfl
  · cases wheel <;> exact (forward_target_ne_zero _).symm

/-- A forward move alone is as intended. -/
theorem forward_move_aimed :
    ∃ power past, 0 < power ∧ InCall readyMotors designosaurs 1
      (.steps [.moveRTP (.literal "forward") 0.4 24.0] .done) ⟨0⟩ readyStart
      (.command (.setPower (.drive .frontRight) power)) past := by
  obtain ⟨s, h, hprepare⟩ : ∃ s h, Program.run readyRobot
      (prepare designosaurs (.literal "forward") 24.0) readyStart = (some s, h) := ⟨_, _, rfl⟩
  obtain ⟨power, past, hpower, hpast, -, hevent⟩ :=
    readyRobot_drives 0 hprepare (forward_busy hprepare) (show (0 : ℝ) < 0.4 by norm_num)
  refine ⟨power, past, hpower, no_stale_motion readyMotors ?_ _ _ _ ?_ hpast hpower.ne'⟩
  · rintro direction maxSpeed distance time start hexec
    cases hexec with
    | here => exact .inl rfl
    | later _ hexec => cases hexec
  · exact hevent.trans (Program.suffix_run_bind _ _ _ _)

lemma forward_returns :
    wp readyRobot (moveRTP designosaurs 2 (.literal "forward") 0.4 24.0)
      (fun _ h => ∀ wheel, targets wheel h = [target designosaurs .forward 24.0 wheel])
      (fun _ => False) readyStart := by
  refine wp_seq (M := fun s h => Program.run readyRobot
    (prepare designosaurs (.literal "forward") 24.0) readyStart = (some s, h))
    (wp_of_run rfl rfl) ?_
  intro s h₁ hprepare
  refine wp_seq (wp_driveLoop_readyRobot _ _ (forward_busy hprepare)) fun _ h₂ htargets₂ => ?_
  refine wp_mono (fun _ h₃ htargets₃ wheel => ?_) (fun _ => id) (wp_settleAndStop_readyRobot 1 h₂)
  rw [htargets₃, htargets₂]
  cases hprepare
  cases wheel <;> rfl

/-- After a forward move, a direction that `moveRTP` does not know makes the robot drive. -/
lemma misspelt_drives {start : History (robot ℝ)}
    (htargets : ∀ wheel, targets wheel start = [target designosaurs .forward 24.0 wheel]) :
    ∃ power past, 0 < power ∧ start <:+ past ∧ (∀ wheel, targets wheel past = targets wheel start)
      ∧ .command (.setPower (.drive .frontRight) power) :: past <:+ (Program.run readyRobot
        (moveRTP designosaurs 2 (.literal "forwards") 0.4 24.0) start).2 := by
  obtain ⟨s, h, hprepare, hsame⟩ : ∃ s h, Program.run readyRobot
      (prepare designosaurs (.literal "forwards") 24.0) start = (some s, h)
      ∧ ∀ wheel, targets wheel h = targets wheel start := ⟨_, _, rfl, fun _ => rfl⟩
  have hbusy : ∀ wheel, readyRobot h (.isBusy (.drive wheel)) = true := by
    intro wheel
    have hne : (targets wheel h).headD 0 ≠ 0 := by
      simpa [hsame, htargets] using forward_target_ne_zero wheel
    cases hprepare
    refine decide_eq_true ⟨?_, ?_⟩
    · cases wheel <;> rfl
    · cases wheel <;> exact hne.symm
  obtain ⟨power, past, hpower, hpast, htargets', hevent⟩ :=
    readyRobot_drives 1 hprepare hbusy (show (0 : ℝ) < 0.4 by norm_num)
  exact ⟨power, past, hpower, hpast, fun wheel => (htargets' wheel).trans (hsame wheel), hevent⟩

/-- A move in the direction `"forwards"` after a forward move goes to the targets of that one. -/
theorem stale_motion :
    ¬ ∀ (env : Environment (robot ℝ)) (motors : Motors env) (fuel : ℕ) (auto : Auto ℝ)
        (runtime time : ElapsedTime) (direction : StringRef) (maxSpeed distance : ℝ)
        (start : History (robot ℝ)),
      Executes env designosaurs fuel auto runtime (Program.run env init []).2
        (.moveRTP direction maxSpeed distance) time start →
      ∀ wheel power past,
        .command (.setPower (.drive wheel) power) :: past
          <:+ (Program.run env (moveRTP designosaurs fuel direction maxSpeed distance) start).2 →
        start <:+ past → power ≠ 0 → ∀ w, AimedAt motors start w past := by
  intro hall
  obtain ⟨finish, start, hrun, htargets⟩ := exists_run_of_wp forward_returns
  obtain ⟨power, past, hpower, hpast, hsame, hevent⟩ := misspelt_drives htargets
  have haimed := hall readyRobot readyMotors 2 (.steps [
    .moveRTP (.literal "forward") 0.4 24.0,
    .moveRTP (.literal "forwards") 0.4 24.0] .done) ⟨0⟩ finish (.literal "forwards") 0.4 24.0 start
    (.later hrun .here) _ _ past hevent hpast hpower.ne' .frontRight
  exact haimed.targets_ne (hsame _)

end ReadyRobot

end Designosaurs
