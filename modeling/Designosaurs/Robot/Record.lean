import Designosaurs.Interact.Hoare
import Designosaurs.Robot.Interface

/-!
# What a history records

The results about runs speak of a history through a few readings of it: the newest value of the
clock, the powers each drive wheel was given, the targets it was sent to, and where the servos were
sent.

Most of what the op modes do leaves the robot alone: they ask, and they write to the telemetry.
Such an event is `Passive`.
-/

namespace Designosaurs

open Interact

variable {K : Type}

/-- The newest clock reading. -/
def lastReading : History (robot K) → Option ℤ
  | [] => none
  | .answer .nsNow t :: _ => some t
  | _ :: h => lastReading h

@[simp] lemma lastReading_command (c : Command K) (h : History (robot K)) :
    lastReading (.command c :: h) = lastReading h := rfl

@[simp] lemma lastReading_nsNow (t : ℤ) (h : History (robot K)) :
    lastReading (.answer .nsNow t :: h) = some t := rfl

@[simp] lemma lastReading_answer {q : Query} (hq : q ≠ .nsNow) (a : Query.Answer K q)
    (h : History (robot K)) : lastReading (.answer q a :: h) = lastReading h := by
  cases q with
  | nsNow => exact absurd rfl hq
  | _ => rfl

/-- The powers a drive wheel was given, newest first. -/
def powers (wheel : Wheel) : History (robot K) → List K
  | [] => []
  | .command (.setPower (.drive w) power) :: h =>
      if w = wheel then power :: powers wheel h else powers wheel h
  | _ :: h => powers wheel h

/-- The targets a drive wheel was sent to, newest first. -/
def targets (wheel : Wheel) : History (robot K) → List ℤ
  | [] => []
  | .command (.setTargetPosition (.drive w) position) :: h =>
      if w = wheel then position :: targets wheel h else targets wheel h
  | _ :: h => targets wheel h

lemma targets_append (wheel : Wheel) (new start : History (robot K)) :
    targets wheel (new ++ start) = targets wheel new ++ targets wheel start := by
  fun_induction targets wheel new with
  | case1 => rfl
  | case2 position h ih => simp [targets, ih]
  | case3 w position h hw ih => simp [targets, hw, ih]
  | case4 e h hne ih => rw [List.cons_append, targets.eq_3 _ _ _ hne, ih]

/-- A wheel that is sent to a position has it among its targets. -/
lemma mem_targets {wheel : Wheel} {position : ℤ} {h : History (robot K)}
    (hset : .command (.setTargetPosition (.drive wheel) position) ∈ h) :
    position ∈ targets wheel h := by
  obtain ⟨new, past, rfl⟩ := List.append_of_mem hset
  simp [targets_append, targets]

/-- The positions the servos were sent to, newest first. -/
def servoCommands : History (robot K) → List (Servo × K)
  | [] => []
  | .command (.setPosition servo position) :: h => (servo, position) :: servoCommands h
  | _ :: h => servoCommands h

lemma servoCommands_append (new start : History (robot K)) :
    servoCommands (new ++ start) = servoCommands new ++ servoCommands start := by
  fun_induction servoCommands new with
  | case1 => rfl
  | case2 servo position h ih => rw [List.cons_append, servoCommands, ih, List.cons_append]
  | case3 e h hne ih => rw [List.cons_append, servoCommands.eq_3 _ _ hne, ih]

/-- The newest position a servo was sent to. -/
def lastPosition (servo : Servo) (h : History (robot K)) : Option K :=
  ((servoCommands h).find? fun command => command.1 = servo).map Prod.snd

/-- The targets the pitch motor was sent to, newest first. -/
def pitchTargets : History (robot K) → List ℤ
  | [] => []
  | .command (.setTargetPosition .pitchMotor position) :: h => position :: pitchTargets h
  | _ :: h => pitchTargets h

/-- A reading, a line of telemetry, or another call that touches no motor and no servo. -/
def Passive : Event (robot K) → Prop
  | .answer _ _ => True
  | .command (.addData _ _) => True
  | .command .updateTelemetry => True
  | .command .waitForStart => True
  | .command .activateTfod => True
  | .command .shutdownTfod => True
  | .command _ => False

@[simp] lemma passive_answer (q : Query) (a : Query.Answer K q) :
    Passive (.answer q a : Event (robot K)) := trivial

@[simp] lemma passive_addData (caption : String) (value : Shown K) :
    Passive (.command (.addData caption value)) := trivial

@[simp] lemma passive_updateTelemetry : Passive (.command .updateTelemetry : Event (robot K)) :=
  trivial

@[simp] lemma passive_waitForStart : Passive (.command .waitForStart : Event (robot K)) := trivial

@[simp] lemma passive_activateTfod : Passive (.command .activateTfod : Event (robot K)) := trivial

@[simp] lemma passive_shutdownTfod : Passive (.command .shutdownTfod : Event (robot K)) := trivial

/-- What a wait does: it reads the clock, asks whether the op mode is active and shows something. -/
def Waiting : Event (robot K) → Prop
  | .answer .nsNow _ => True
  | .answer .opModeIsActive _ => True
  | .command (.addData _ _) => True
  | .command .updateTelemetry => True
  | _ => False

lemma Waiting.passive {e : Event (robot K)} (he : Waiting e) : Passive e := by
  cases e with
  | answer q a => trivial
  | command c =>
      cases c with
      | addData caption value => trivial
      | updateTelemetry => trivial
      | _ => exact he.elim

/-- An event that gives no drive motor a power. -/
def Unpowered (e : Event (robot K)) : Prop := ∀ wheel h, powers wheel (e :: h) = powers wheel h

@[simp] lemma unpowered_answer (q : Query) (a : Query.Answer K q) :
    Unpowered (.answer q a : Event (robot K)) := fun _ _ => rfl

@[simp] lemma unpowered_command (c : Command K) :
    Unpowered (.command c) ↔ ∀ wheel power, c ≠ .setPower (.drive wheel) power := by
  constructor
  · rintro he wheel power rfl
    simpa [powers] using he wheel []
  · intro hc wheel h
    match c, hc with
    | .setPower (.drive w) power, hc => exact absurd rfl (hc w power)
    | .setPower .pitchMotor _, _ => rfl
    | .setPower .liftMotor _, _ => rfl
    | .setMode _ _, _ => rfl
    | .setTargetPosition _ _, _ => rfl
    | .setDirection _ _, _ => rfl
    | .setPosition _ _, _ => rfl
    | .addData _ _, _ => rfl
    | .updateTelemetry, _ => rfl
    | .waitForStart, _ => rfl
    | .activateTfod, _ => rfl
    | .shutdownTfod, _ => rfl

lemma Passive.unpowered {e : Event (robot K)} (he : Passive e) : Unpowered e := by
  cases e with
  | answer q a => exact unpowered_answer q a
  | command c =>
      rw [unpowered_command]
      rintro wheel power rfl
      exact he

/-- An event that sends no drive motor anywhere. -/
def Untargeted (e : Event (robot K)) : Prop := ∀ wheel h, targets wheel (e :: h) = targets wheel h

lemma untargeted_answer (q : Query) (a : Query.Answer K q) :
    Untargeted (.answer q a : Event (robot K)) := fun _ _ => rfl

lemma untargeted_command {c : Command K}
    (hc : ∀ wheel position, c ≠ .setTargetPosition (.drive wheel) position) :
    Untargeted (.command c) := by
  intro wheel h
  cases c with
  | setTargetPosition motor position =>
      cases motor with
      | drive w => exact absurd rfl (hc w position)
      | _ => rfl
  | _ => rfl

/-- An event that sends no servo anywhere. -/
def Unservoed (e : Event (robot K)) : Prop := ∀ h, servoCommands (e :: h) = servoCommands h

@[simp] lemma unservoed_answer (q : Query) (a : Query.Answer K q) :
    Unservoed (.answer q a : Event (robot K)) := fun _ => rfl

@[simp] lemma unservoed_command (c : Command K) :
    Unservoed (.command c) ↔ ∀ servo position, c ≠ .setPosition servo position := by
  constructor
  · rintro he servo position rfl
    exact List.cons_ne_nil _ _ (he [])
  · intro hc h
    cases c with
    | setPosition servo position => exact absurd rfl (hc servo position)
    | _ => rfl

lemma Passive.unservoed {e : Event (robot K)} (he : Passive e) : Unservoed e := by
  cases e with
  | answer q a => exact unservoed_answer q a
  | command c =>
      rw [unservoed_command]
      rintro servo position rfl
      exact he

variable [Zero K]

/-- Not a power other than zero for a drive motor. -/
def Quiet (e : Event (robot K)) : Prop :=
  ∀ wheel power, e = .command (.setPower (.drive wheel) power) → power = 0

@[simp] lemma quiet_answer (q : Query) (a : Query.Answer K q) :
    Quiet (.answer q a : Event (robot K)) := by
  simp [Quiet]

@[simp] lemma quiet_command (c : Command K) :
    Quiet (.command c) ↔ ∀ wheel power, c = .setPower (.drive wheel) power → power = 0 := by
  simp [Quiet]

lemma Unpowered.quiet {e : Event (robot K)} (he : Unpowered e) : Quiet e := by
  rintro wheel power rfl
  have hpowers := he wheel []
  simp [powers] at hpowers

end Designosaurs
