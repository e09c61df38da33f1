import Designosaurs.Autonomous.Script

/-!
# How hard the autonomous op modes drive

The ramp up of `moveRTP` is clamped one sample late, so a drive can be faster than its `maxSpeed`.
How much faster is a matter of the clock: in one round of the loop the ramp gains `accelPerSec`
times the time the round takes.  `runs_in_envelope` makes that a bound for whole runs, the speeds of
all calls and the positions of all servos together.
-/

namespace Designosaurs

open Interact

variable {K : Type}

/-- The clock never goes back, and two readings one after the other are at most `gap` apart. -/
def ClockSteps (env : Environment (robot K)) (gap : ℤ) : Prop :=
  ∀ h, ∀ t ∈ lastReading h, t ≤ env h .nsNow ∧ env h .nsNow ≤ t + gap

lemma ClockSteps.runs {env : Environment (robot K)} {gap : ℤ} (hclock : ClockSteps env gap) :
    ClockRuns env :=
  fun h t ht => (hclock h t ht).1

variable [Field K] [LinearOrder K]

/-- What an autonomous op mode may tell the motors and servos, when no drive is to be faster than
`top`: the lift motor is left alone. -/
def InEnvelope (top : K) : Event (robot K) → Prop
  | .command (.setPower (.drive _) power) => 0 ≤ power ∧ power ≤ top
  | .command (.setPower .pitchMotor power) => power = 0.7
  | .command (.setPower .liftMotor _) => False
  | .command (.setPosition _ position) => 0 ≤ position ∧ position ≤ 1
  | _ => True

lemma Passive.inEnvelope {e : Event (robot K)} (he : Passive e) (top : K) : InEnvelope top e := by
  cases e with
  | answer q a => trivial
  | command c =>
      cases c with
      | setPower motor power => exact he.elim
      | setPosition servo position => exact he.elim
      | _ => trivial

lemma InEnvelope.mono {top top' : K} {e : Event (robot K)} (he : InEnvelope top e)
    (hle : top ≤ top') : InEnvelope top' e := by
  cases e with
  | answer q a => trivial
  | command c =>
      cases c with
      | setPower motor power =>
          cases motor with
          | drive wheel => exact ⟨he.1, he.2.trans hle⟩
          | _ => exact he
      | _ => exact he

/-- The speed gained in `gap` nanoseconds. -/
def HardwareDesignosaurs.rise (hw : HardwareDesignosaurs K) (gap : ℤ) : K :=
  ElapsedTime.seconds ⟨0⟩ gap * hw.accelPerSec

lemma HardwareDesignosaurs.rise_eq (hw : HardwareDesignosaurs K) (gap : ℤ) :
    hw.rise gap = (gap : K) / 1000000000 * hw.accelPerSec := by
  rw [rise, ElapsedTime.seconds, sub_zero]

/-- A statement that asks for no speed above `speed` and for no servo position out of range. -/
def Statement.UpTo (speed : K) : Statement K → Prop
  | .moveRTP _ maxSpeed _ => 0 ≤ maxSpeed ∧ maxSpeed ≤ speed
  | .setPosition _ position => 0 ≤ position ∧ position ≤ 1
  | _ => True

lemma Statement.Sound.upTo [FloorRing K] {statement : Statement K} (hsound : statement.Sound) :
    statement.UpTo 1 := by
  cases statement with
  | moveRTP direction maxSpeed distance => exact ⟨hsound.2.1.1.le, hsound.2.1.2⟩
  | setPosition servo position => exact hsound
  | _ => trivial

variable [IsStrictOrderedRing K]

section Runs

variable {env : Environment (robot K)} {hw : HardwareDesignosaurs K} {fuel : ℕ} {gap : ℤ}
  {speed : K} {start : History (robot K)}

lemma ClockSteps.rise_nonneg (hclock : ClockSteps env gap) (hw : HardwareDesignosaurs K) :
    0 ≤ hw.rise gap := by
  obtain ⟨hlo, hhi⟩ := hclock [.answer .nsNow (0 : ℤ)] 0 rfl
  have hgap : 0 ≤ gap := by linarith
  rw [hw.rise_eq]
  exact mul_nonneg (div_nonneg (Int.cast_nonneg hgap) (by norm_num)) hw.accelPerSec_pos.le

/-- Since `start`, every event was in the envelope. -/
def Enveloped (top : K) (start : History (robot K)) : History (robot K) → Prop :=
  Extends (fun e _ => InEnvelope top e) start

omit [IsStrictOrderedRing K] in
lemma keeps_enveloped {α : Type} {top : K} {p : RobotProgram K α} (hp : Emits (InEnvelope top) p) :
    Keeps env (Enveloped top start) p :=
  hp.keeps fun _ _ he hh => .step he hh

/-- One iteration gains no more than `gap` is worth. -/
lemma ClockSteps.gain_le (hclock : ClockSteps env gap) (hw : HardwareDesignosaurs K)
    (time : ElapsedTime) {h : History (robot K)} {t : ℤ} (ht : t ∈ lastReading h) :
    ((sampleAt env time h).nowTime - time.seconds t) * hw.accelPerSec ≤ hw.rise gap := by
  rw [hw.rise_eq]
  refine mul_le_mul_of_nonneg_right ?_ hw.accelPerSec_pos.le
  show time.seconds (env h .nsNow) - time.seconds t ≤ (gap : K) / 1000000000
  rw [ElapsedTime.seconds, ElapsedTime.seconds, ← sub_div,
    div_le_div_iff_of_pos_right (by norm_num)]
  have hcast : ((env h .nsNow : ℤ) : K) ≤ (t + gap : ℤ) := by exact_mod_cast (hclock h t ht).2
  push_cast at hcast ⊢
  linarith

/-- **The drive loop stays in the envelope.** -/
lemma wp_driveLoop_enveloped (hclock : ClockSteps env gap) {d : DriveLoop K}
    (hmax : 0 ≤ d.maxSpeed) {time : ElapsedTime} {h : History (robot K)}
    (hread : ∃ t ∈ lastReading h, d.prevTime = time.seconds t)
    (hx : Enveloped (d.maxSpeed + d.hw.rise gap) start h) :
    wp env (driveLoop d time fuel) (fun _ => Enveloped (d.maxSpeed + d.hw.rise gap) start)
      (Enveloped (d.maxSpeed + d.hw.rise gap) start) h := by
  refine wp_mono (fun _ _ ⟨_, _, hx'⟩ => hx') (fun _ ⟨_, _, _, hx'⟩ => hx')
    (wp_driveLoop_rule (fun _ => Enveloped (d.maxSpeed + d.hw.rise gap) start)
      (fun _ => ?_) (fun _ s => ?_) (fun run h' hrun hx' => ?_) fuel hread hx)
  · exact keeps_enveloped (emits_driveGuard (fun _ _ => trivial) fun _ => trivial)
  · exact keeps_enveloped (by simp [showDrive, InEnvelope])
  · obtain ⟨t, ht, hlast⟩ := hrun.reading
    have htime : d.lastTime run ≤ (sampleAt env time h').nowTime :=
      hlast ▸ time.seconds_mono (hclock.runs h' t ht)
    have hlow : 0 ≤ (d.after (sampleAt env time h' :: run)).currentSpeed :=
      DriveLoop.currentSpeed_nonneg hmax
        (forall_suffix_cons.mpr ⟨htime, hrun.clock hclock.runs⟩)
    have hhigh : (d.after (sampleAt env time h' :: run)).currentSpeed
        ≤ d.maxSpeed + d.hw.rise gap :=
      DriveLoop.currentSpeed_le_maxSpeed_add htime (hlast ▸ hclock.gain_le d.hw time ht)
    have hsampled : Enveloped (d.maxSpeed + d.hw.rise gap) start (sampled env h') :=
      .step trivial (.step trivial hx')
    exact wp_mono (fun _ _ => id) (fun _ _ => trivial)
      (keeps_enveloped (by simp [setPowers, InEnvelope, hlow, hhigh]) _ hsampled)

variable [FloorRing K]

/-- A call. -/
lemma wp_moveRTP_enveloped (hclock : ClockSteps env gap) (direction : StringRef)
    {maxSpeed distance : K} (hmax : 0 ≤ maxSpeed) {h : History (robot K)}
    (hx : Enveloped (maxSpeed + hw.rise gap) start h) :
    wp env (moveRTP hw fuel direction maxSpeed distance)
      (fun _ => Enveloped (maxSpeed + hw.rise gap) start)
      (Enveloped (maxSpeed + hw.rise gap) start) h := by
  have htop : 0 ≤ maxSpeed + hw.rise gap := add_nonneg hmax (hclock.rise_nonneg hw)
  have hwait : ∀ e, Waiting e → InEnvelope (maxSpeed + hw.rise gap) e :=
    fun _ he => he.passive.inEnvelope _
  have hprepare : Keeps env (Enveloped (maxSpeed + hw.rise gap) start)
      (prepare hw direction distance) :=
    keeps_enveloped (emits_prepare hwait (fun _ _ => trivial) (fun _ _ => trivial) hw direction
      distance)
  refine wp_seq (wp_mono (fun _ _ => id) (fun _ => And.right)
    (wp_conj (wp_prepare_read env hw direction distance h) (hprepare h hx))) fun s h₁ hh₁ => ?_
  obtain ⟨hread, hx₁⟩ := hh₁
  refine wp_seq (wp_driveLoop_enveloped (d := ⟨hw, maxSpeed, distance, s.2⟩) hclock hmax hread hx₁)
    fun _ h₂ hx₂ => ?_
  exact keeps_enveloped (emits_settleAndStop hwait (fun _ => ⟨le_rfl, htop⟩) (fun _ _ => trivial)
    fuel) h₂ hx₂

/-- **Every statement stays in the envelope.** -/
lemma wp_statement_enveloped (hclock : ClockSteps env gap) {statement : Statement K}
    (hupTo : statement.UpTo speed) (time : ElapsedTime) {h : History (robot K)}
    (hx : Enveloped (speed + hw.rise gap) start h) :
    wp env (statement.program hw fuel time) (fun _ => Enveloped (speed + hw.rise gap) start)
      (Enveloped (speed + hw.rise gap) start) h := by
  cases statement with
  | moveRTP direction maxSpeed distance =>
      obtain ⟨hmax, hle⟩ := hupTo
      have hcall : wp env (moveRTP hw fuel direction maxSpeed distance)
          (fun _ => Enveloped (maxSpeed + hw.rise gap) h)
          (Enveloped (maxSpeed + hw.rise gap) h) h :=
        wp_moveRTP_enveloped hclock direction hmax .refl
      have hwiden : ∀ h', Enveloped (maxSpeed + hw.rise gap) h h' →
          Enveloped (speed + hw.rise gap) start h' := fun h' hx' =>
        hx.trans (hx'.mono fun e _ _ he => he.mono (by linarith))
      exact wp_mono (fun _ => hwiden) hwiden hcall
  | setPosition servo position =>
      exact .step hupTo hx
  | shutdownTfod => exact keeps_enveloped (by simp [Statement.program, InEnvelope]) h hx
  | _ =>
      refine keeps_enveloped ((Statement.emits_waiting hw fuel time _ ?_).mono
        fun _ he => he.passive.inEnvelope _) h hx
      trivial

/-- **Any program of statements**, by induction on it. -/
lemma wp_auto_enveloped (hclock : ClockSteps env gap) {auto : Auto K}
    (hupTo : auto.Every (Statement.UpTo speed)) (time : ElapsedTime) {h : History (robot K)}
    (hx : Enveloped (speed + hw.rise gap) start h) :
    wp env (auto.program hw fuel time) (fun _ => Enveloped (speed + hw.rise gap) start)
      (Enveloped (speed + hw.rise gap) start) h := by
  induction auto generalizing time h with
  | done => exact hx
  | step statement next ih =>
      exact wp_seq (wp_statement_enveloped hclock hupTo.1 time hx)
        fun time h' hx' => ih hupTo.2 time hx'
  | detect classifier tfod next ih =>
      have hlook := (classifier.emits_detect tfod 0).mono
        fun _ (he : Passive _) => he.inEnvelope (speed + hw.rise gap)
      exact wp_seq (keeps_enveloped hlook h hx) fun pos h' hx' => ih pos (hupTo pos) time hx'

/-- A whole run, from its first event to its last. -/
lemma runOpMode_enveloped {op : OpMode K} (hupTo : ∀ memory, (op.body memory).Every
    (Statement.UpTo speed)) (hspeed : 0 ≤ speed) (hclock : ClockSteps env gap) :
    Enveloped (speed + hw.rise gap) [] (Program.run env (op.runOpMode hw fuel) []).2 := by
  have htop : 0 ≤ speed + hw.rise gap := add_nonneg hspeed (hclock.rise_nonneg hw)
  have hstart : Emits (InEnvelope (speed + hw.rise gap)) op.start := by
    refine emits_bind (by simp [ElapsedTime.reset, InEnvelope]) fun runtime => ?_
    refine emits_bind (op.setup_passive.mono fun _ he => he.inEnvelope _) fun memory => ?_
    have hseven : (0 : K) ≤ 0.7 ∧ (0.7 : K) ≤ 1 := by norm_num
    simp [init, InEnvelope, htop, hseven]
  have hrun : wp env (op.runOpMode hw fuel) (fun _ => Enveloped (speed + hw.rise gap) [])
      (Enveloped (speed + hw.rise gap) []) [] :=
    wp_seq (keeps_enveloped hstart [] .refl)
      fun start h hx => wp_auto_enveloped hclock (hupTo start.2) start.1 hx
  exact wp_final hrun

omit [IsStrictOrderedRing K] [FloorRing K] in
lemma Enveloped.inEnvelope {top : K} {h : History (robot K)} (hx : Enveloped top [] h) :
    ∀ e past, e :: past <:+ h → InEnvelope top e :=
  fun e past hpast => (Extends.iff_forall.mp hx).2 e past hpast List.nil_suffix

/-- **A program stays in its envelope.**  On a clock that never goes back and whose readings are at
most `gap` nanoseconds apart, in every run of a program that asks for no speed above `speed` and for
no servo position outside zero and one, every power of every drive motor is between zero and `speed`
plus what the ramp gains in `gap`; every servo position is between zero and one; the pitch motor has
its one power, and the lift motor none. -/
theorem runs_in_envelope {op : OpMode K} (hupTo : ∀ memory, (op.body memory).Every
    (Statement.UpTo speed)) (hspeed : 0 ≤ speed) (hclock : ClockSteps env gap)
    (hw : HardwareDesignosaurs K) (fuel : ℕ) :
    ∀ e past, e :: past <:+ (Program.run env (op.runOpMode hw fuel) []).2 →
      InEnvelope (speed + hw.rise gap) e :=
  (runOpMode_enveloped hupTo hspeed hclock).inEnvelope

/-- **The op modes of the source** drive no faster than full power and one gain. -/
theorem op_modes_in_envelope {op : OpMode K} (hop : op ∈ opModes) (hclock : ClockSteps env gap)
    (hw : HardwareDesignosaurs K) (fuel : ℕ) :
    ∀ e past, e :: past <:+ (Program.run env (op.runOpMode hw fuel) []).2 →
      InEnvelope (1 + hw.rise gap) e :=
  (runOpMode_enveloped (fun memory => (opModes_sound hop memory).mono fun _ => Statement.Sound.upTo)
    zero_le_one hclock).inEnvelope

end Runs

/-- On a clock that is read every half second, the parking program drives no faster than 0.8. -/
theorem parking_in_envelope : ∃ finish,
    Program.run workingRobot (ParkingAuto.runOpMode designosaurs 2) [] = (some (), finish)
      ∧ (∃ power, 0 < power ∧ powers .frontRight finish = [0, power, 0])
      ∧ ∀ e past, e :: past <:+ finish → InEnvelope 0.8 e := by
  have hupTo : ∀ memory, ((ParkingAuto : OpMode ℝ).body memory).Every (Statement.UpTo 0.4) := by
    intro memory
    simp only [ParkingAuto, Auto.every_steps, List.forall_mem_singleton]
    norm_num [Auto.Every, Statement.UpTo]
  have hclock : ClockSteps workingRobot 500000000 := by
    intro h t ht
    show t ≤ (lastReading h).elim 0 (· + 500000000) ∧ (lastReading h).elim 0 (· + 500000000) ≤ _
    rw [Option.mem_def.mp ht, Option.elim_some]
    omega
  have htop : (0.8 : ℝ) = 0.4 + designosaurs.rise 500000000 := by
    rw [designosaurs.rise_eq]
    norm_num [designosaurs]
  obtain ⟨finish, hrun, hpowers⟩ := parking_works
  refine ⟨finish, hrun, hpowers, ?_⟩
  rw [htop]
  have hall := runs_in_envelope hupTo (by norm_num) hclock designosaurs 2
  rwa [hrun] at hall

end Designosaurs
