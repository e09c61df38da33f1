import Designosaurs.Robot.Record
import Designosaurs.TeleOp.StandardTeleOp

/-!
# The latched controls of `StandardTeleOp`

The driver does not hold a gripper in place: a button sends it somewhere and it stays there.  So
what a mechanism does now depends on the whole past of the gamepads, and `controls_latched` says
how: each of the gear, the five servos and the pitch motor has the value that was selected in the
most recent loop in which one of its own controls was active, and its initial value if there was
none.

The selections (`gearOf`, `servoOf`, `pitchOf`) say which control wins when two are active in one
loop.  The source decides that in two ways, by `else if` and by letting a later `if` send a second
command; `leaves_loop` has the commands of one loop as they are issued, second ones
included.
-/

namespace Designosaurs

open Interact

variable {K : Type}

/-! ## Footprints -/

/-- What a part of a run told the servos, the pitch motor and the wheels, newest first. -/
@[ext] structure Footprint (K : Type) where
  servos : List (Servo × K)
  pitch : List ℤ
  drive : Wheel → List K

instance : Append (Footprint K) where
  append new old :=
    ⟨new.servos ++ old.servos, new.pitch ++ old.pitch,
      fun wheel => new.drive wheel ++ old.drive wheel⟩

namespace Footprint

/-- No command. -/
def none : Footprint K := ⟨[], [], fun _ => []⟩

/-- One servo command, if any. -/
def servo (servo : Servo) (position : Option K) : Footprint K :=
  ⟨position.toList.map fun x => (servo, x), [], fun _ => []⟩

/-- Pitch targets. -/
def aim (targets : List ℤ) : Footprint K := ⟨[], targets, fun _ => []⟩

/-- One power for each wheel. -/
def spin (power : Wheel → K) : Footprint K := ⟨[], [], fun wheel => [power wheel]⟩

@[simp] lemma append_servos (new old : Footprint K) :
    (new ++ old).servos = new.servos ++ old.servos := rfl

@[simp] lemma append_pitch (new old : Footprint K) :
    (new ++ old).pitch = new.pitch ++ old.pitch := rfl

@[simp] lemma append_drive (new old : Footprint K) (wheel : Wheel) :
    (new ++ old).drive wheel = new.drive wheel ++ old.drive wheel := rfl

@[simp] lemma none_append (f : Footprint K) : none ++ f = f := rfl

@[simp] lemma append_none (f : Footprint K) : f ++ none = f := by
  ext1
  · exact List.append_nil _
  · exact List.append_nil _
  · exact funext fun wheel => List.append_nil _

lemma append_assoc (a b c : Footprint K) : a ++ b ++ c = a ++ (b ++ c) := by
  ext1
  · exact List.append_assoc _ _ _
  · exact List.append_assoc _ _ _
  · exact funext fun wheel => List.append_assoc _ _ _

end Footprint

/-- The footprint of a history. -/
def footprint (h : History (robot K)) : Footprint K :=
  ⟨servoCommands h, pitchTargets h, fun wheel => powers wheel h⟩

/-- Every run of `p` returns and leaves the footprint `f`. -/
def Leaves {α : Type} (env : Environment (robot K)) (p : RobotProgram K α) (f : Footprint K) :
    Prop :=
  ∀ h, wp env p (fun _ h' => footprint h' = f ++ footprint h) (fun _ => False) h

section Leaves

variable {env : Environment (robot K)} {α β : Type}

lemma leaves_bind {p : RobotProgram K α} {q : α → RobotProgram K β} {f g : Footprint K}
    (hp : Leaves env p f) (hq : ∀ a, Leaves env (q a) g) : Leaves env (p >>= q) (g ++ f) := by
  intro h
  refine wp_seq (hp h) fun a h₁ hh₁ => ?_
  refine wp_mono (fun _ h₂ hh₂ => ?_) (fun _ => id) (hq a h₁)
  rw [hh₂, hh₁, Footprint.append_assoc]

lemma leaves_pure (a : α) : Leaves env (pure a) Footprint.none := fun _ => rfl

/-- `if (c) setPosition`, with nothing to do otherwise. -/
lemma leaves_when_setPosition (c : Prop) [Decidable c] (servo : Servo) (position : K) :
    Leaves env (Program.when c (setPosition servo position))
      (Footprint.servo servo (if c then some position else none)) := by
  intro h
  unfold Program.when
  split_ifs <;> rfl

/-- Two positions of a servo, by `else if`. -/
lemma leaves_ite_setPosition (c c' : Prop) [Decidable c] [Decidable c'] (servo : Servo) (a b : K) :
    Leaves env (if c then setPosition servo a else Program.when c' (setPosition servo b))
      (Footprint.servo servo (if c then some a else if c' then some b else none)) := by
  intro h
  unfold Program.when
  split_ifs <;> rfl

lemma leaves_when_setTargetPosition (c : Prop) [Decidable c] (target : ℤ) :
    Leaves env (Program.when c (setTargetPosition .pitchMotor target) : RobotProgram K Unit)
      (Footprint.aim (if c then [target] else [])) := by
  intro h
  unfold Program.when
  split_ifs <;> rfl

end Leaves

namespace StandardTeleOp

/-! ## Selections -/

/-- What one call of `loop` sees of the two gamepads. -/
structure Snapshot (K : Type) where
  gamepad1 : Gamepad K
  gamepad2 : Gamepad K

/-- The gear the controls select, if any of them is active. -/
def gearOf (x : Snapshot K) : Option Bool :=
  if x.gamepad1.leftBumper then some true
  else if x.gamepad1.rightBumper then some false
  else none

/-- The pitch target they select. -/
def pitchOf (x : Snapshot K) : Option ℤ :=
  if x.gamepad2.b then some 1071
  else if x.gamepad2.x then some 724
  else if x.gamepad2.y then some 658
  else if x.gamepad2.a then some 0
  else none

variable [Field K] [LinearOrder K]

/-- The position they select for a servo.  The right gripper has no control. -/
def servoOf : Servo → Snapshot K → Option K
  | .mainGripper, x =>
      if x.gamepad2.leftBumper then some 0.25
      else if x.gamepad2.rightBumper then some 1
      else none
  | .leftGripper, x =>
      if x.gamepad2.dpadUp then some 0
      else if x.gamepad2.dpadDown then some 1
      else none
  | .foundationGripper, x =>
      if x.gamepad1.leftTrigger > 0.5 then some 0.7
      else if x.gamepad1.rightTrigger > 0.5 then some 0.9
      else none
  | .capstoneGripper, x =>
      if x.gamepad2.leftTrigger > 0.5 then some 0
      else if x.gamepad2.rightTrigger > 0.5 then some 1
      else none
  | .rightGripper, _ => none

/-! ## One loop -/

/-- The commands of one loop to the servos, the pitch motor and the wheels. -/
def loopFootprint (isLowGear : Bool) (x : Snapshot K) : Footprint K :=
  Footprint.servo .capstoneGripper (servoOf .capstoneGripper x)
    ++ Footprint.aim (if x.gamepad2.b then [1071] else [])
    ++ Footprint.aim (if x.gamepad2.x then [724] else [])
    ++ Footprint.aim (if x.gamepad2.y then [658] else if x.gamepad2.a then [0] else [])
    ++ Footprint.servo .foundationGripper (servoOf .foundationGripper x)
    ++ Footprint.servo .leftGripper (servoOf .leftGripper x)
    ++ Footprint.servo .mainGripper (if x.gamepad2.leftBumper then some 0.25 else none)
    ++ Footprint.servo .mainGripper (if x.gamepad2.rightBumper then some 1 else none)
    ++ Footprint.spin (geared isLowGear (mixedSticks x.gamepad1))

section OneLoop

variable {env : Environment (robot K)}

/-- **The footprint of one loop.** -/
theorem leaves_loop (x : Snapshot K) (s : StandardTeleOp) :
    Leaves env (loop x.gamepad1 x.gamepad2 s) (loopFootprint s.isLowGear x) := by
  have hnow : Leaves env (ElapsedTime.now .MILLISECONDS : RobotProgram K ℤ) .none := fun _ => rfl
  have hdrive : Leaves env (driveMotors s.isLowGear x.gamepad1)
      (.spin (geared s.isLowGear (mixedSticks x.gamepad1))) := by
    intro h
    simp only [driveMotors, wp_bind, wp_command, wp_done]
    ext1
    · rfl
    · rfl
    · funext wheel
      cases wheel <;> rfl
  have hmain : Leaves env (moveMainGripper x.gamepad2)
      (.servo .mainGripper (if x.gamepad2.leftBumper then some 0.25 else none)
        ++ .servo .mainGripper (if x.gamepad2.rightBumper then some 1 else none)) :=
    leaves_bind (leaves_when_setPosition _ _ _) fun _ => leaves_when_setPosition _ _ _
  have hlift : Leaves env (setPower .liftMotor (x.gamepad2.leftStickY / 2)) .none := fun _ => rfl
  have hshow : Leaves env (showEncoders : RobotProgram K Unit) .none := fun _ => rfl
  have hleft : Leaves env (moveLeftGripper x.gamepad2)
      (.servo .leftGripper (servoOf .leftGripper x)) := leaves_ite_setPosition _ _ _ _ _
  have hfoundation : Leaves env (moveFoundationGripper x.gamepad1)
      (.servo .foundationGripper (servoOf .foundationGripper x)) := leaves_ite_setPosition _ _ _ _ _
  have hpitch : Leaves env (movePitch x.gamepad2 : RobotProgram K Unit)
      (.aim (if x.gamepad2.b then [1071] else []) ++ .aim (if x.gamepad2.x then [724] else [])
        ++ .aim (if x.gamepad2.y then [658] else if x.gamepad2.a then [0] else [])) := by
    refine leaves_bind ?_ fun _ => leaves_bind (leaves_when_setTargetPosition _ _)
      fun _ => leaves_when_setTargetPosition _ _
    intro h
    unfold Program.when
    split_ifs <;> rfl
  have hpower : Leaves env (powerPitch : RobotProgram K Unit) .none := by
    intro h
    simp only [powerPitch, wp_bind, wp_ask, wp_done, wp_ite, wp_command]
    split_ifs <;> rfl
  have hcapstone : Leaves env (moveCapstoneGripper x.gamepad2)
      (.servo .capstoneGripper (servoOf .capstoneGripper x)) := leaves_ite_setPosition _ _ _ _ _
  have hloop : Leaves env (loop x.gamepad1 x.gamepad2 s) _ :=
    leaves_bind hnow fun nowTime => leaves_bind hnow fun lastTime =>
    leaves_bind hdrive fun _ => leaves_bind hmain fun _ => leaves_bind hlift fun _ =>
    leaves_bind hshow fun _ => leaves_bind hleft fun _ => leaves_bind hfoundation fun _ =>
    leaves_bind hpitch fun _ => leaves_bind hpower fun _ => leaves_bind hcapstone fun _ =>
    leaves_pure _
  simpa only [Footprint.none_append, Footprint.append_none, Footprint.append_assoc, loopFootprint]
    using hloop

/-- The gear a loop leaves. -/
lemma wp_loop_gear (x : Snapshot K) (s : StandardTeleOp) (h : History (robot K)) :
    wp env (loop x.gamepad1 x.gamepad2 s)
      (fun s' _ => s'.isLowGear = (gearOf x).getD s.isLowGear) (fun _ => True) h := by
  -- nothing before the last line of the model has a part in it
  iterate 11 refine wp_seq (wp_true env _ _) fun _ _ _ => ?_
  show (if x.gamepad1.leftBumper then true else if x.gamepad1.rightBumper then false
    else s.isLowGear) = (gearOf x).getD s.isLowGear
  unfold gearOf
  split_ifs <;> rfl

end OneLoop

/-- Among the commands of one loop, the newest to a servo is the selected one. -/
lemma find_loopFootprint (isLowGear : Bool) (x : Snapshot K) (servo : Servo) :
    ((loopFootprint isLowGear x).servos.find? fun command => command.1 = servo).map Prod.snd
      = servoOf servo x := by
  have hone : ∀ (servo' : Servo) (position : Option K),
      (((Footprint.servo servo' position).servos.find? fun command => command.1 = servo).map
        Prod.snd) = if servo' = servo then position else none := by
    intro servo' position
    cases position <;> by_cases hservo : servo' = servo <;> simp [Footprint.servo, hservo]
  simp only [loopFootprint, Footprint.append_servos, List.find?_append, Option.map_or, hone]
  cases servo <;> simp [Footprint.aim, Footprint.spin, servoOf]
  split_ifs <;> rfl

lemma head_loopFootprint (isLowGear : Bool) (x : Snapshot K) :
    (loopFootprint isLowGear x).pitch.head? = pitchOf x := by
  simp only [loopFootprint, Footprint.append_pitch, Footprint.servo, Footprint.aim, Footprint.spin,
    pitchOf]
  split_ifs <;> rfl

/-! ## All loops -/

/-- The value selected in the most recent loop that selects one, newest loop first; `init` if there
was none. -/
def latest {β : Type} (select : Snapshot K → Option β) (init : β) (past : List (Snapshot K)) : β :=
  (past.findSome? select).getD init

omit [Field K] [LinearOrder K] in
lemma latest_cons {β : Type} (select : Snapshot K → Option β) (init : β) (x : Snapshot K)
    (past : List (Snapshot K)) :
    latest select init (x :: past) = (select x).getD (latest select init past) := by
  rw [latest, List.findSome?_cons]
  cases select x <;> rfl

/-- `init()`, and then `loop()` for each snapshot, newest first. -/
def runLoops : List (Snapshot K) → RobotProgram K StandardTeleOp
  | [] => init
  | x :: past => do
      let s ← runLoops past
      loop x.gamepad1 x.gamepad2 s

/-- The mechanisms have the values that the loops so far selected. -/
def Latched (snapshots : List (Snapshot K)) (s : StandardTeleOp) (h : History (robot K)) : Prop :=
  s.isLowGear = latest gearOf false snapshots
    ∧ (∀ servo, lastPosition servo h = some (latest (servoOf servo) (parked servo) snapshots))
    ∧ (pitchTargets h).head? = some (latest pitchOf 0 snapshots)

/-- `init()` latches the initial values. -/
lemma wp_init_latched (env : Environment (robot K)) (h : History (robot K)) :
    wp env init (Latched []) (fun _ => False) h := by
  simp only [init, Designosaurs.init, ElapsedTime.now, wp_bind, wp_ask, wp_command, wp_done,
    wp_pure]
  refine ⟨rfl, fun servo => ?_, rfl⟩
  cases servo <;> rfl

/-- **One loop latches what it selects**, and drives the wheels in the gear it started with. -/
theorem wp_loop_latched (env : Environment (robot K)) (x : Snapshot K)
    {past : List (Snapshot K)} {s : StandardTeleOp} {h : History (robot K)}
    (hs : Latched past s h) :
    wp env (loop x.gamepad1 x.gamepad2 s)
      (fun s' h' => Latched (x :: past) s' h' ∧ ∀ wheel,
        powers wheel h' = geared (latest gearOf false past) (mixedSticks x.gamepad1) wheel
          :: powers wheel h) (fun _ => False) h := by
  obtain ⟨hgear, hservo, hpitch⟩ := hs
  refine wp_mono (fun s' h' hh' => ?_) (fun _ => And.left)
    (wp_conj (leaves_loop x s h) (wp_loop_gear x s h))
  obtain ⟨hfoot, hgear'⟩ := hh'
  have hservos : servoCommands h' = (loopFootprint s.isLowGear x).servos ++ servoCommands h :=
    congrArg Footprint.servos hfoot
  have hpitches : pitchTargets h' = (loopFootprint s.isLowGear x).pitch ++ pitchTargets h :=
    congrArg Footprint.pitch hfoot
  refine ⟨⟨?_, fun servo => ?_, ?_⟩, fun wheel => ?_⟩
  · rw [hgear', hgear, latest_cons]
  · have hold : ((servoCommands h).find? fun command => command.1 = servo).map Prod.snd
        = some (latest (servoOf servo) (parked servo) past) := hservo servo
    rw [lastPosition, hservos, List.find?_append, Option.map_or, find_loopFootprint, hold,
      Option.or_some, latest_cons]
  · rw [hpitches, List.head?_append, head_loopFootprint, hpitch, Option.or_some, latest_cons]
  · rw [← hgear]
    exact congrFun (congrArg Footprint.drive hfoot) wheel

/-- Every sequence of loops, by induction on it. -/
lemma wp_runLoops_latched (env : Environment (robot K)) (snapshots : List (Snapshot K))
    (h : History (robot K)) :
    wp env (runLoops snapshots) (Latched snapshots) (fun _ => False) h := by
  induction snapshots with
  | nil => exact wp_init_latched env h
  | cons x past ih =>
      refine wp_seq ih fun s h' hs => ?_
      exact wp_mono (fun _ _ => And.left) (fun _ => id) (wp_loop_latched env x hs)

/-- **The controls are latched.**  After `init()` and any sequence of loops, the gear is the one
selected in the most recent loop that selected one, and so are the position each servo was last sent
to and the target of the pitch motor; and one loop more gives each wheel one power, geared by the
gear these loops left. -/
theorem controls_latched (env : Environment (robot K)) (h₀ : History (robot K))
    (snapshots : List (Snapshot K)) :
    ∃ s h, Program.run env (runLoops snapshots) h₀ = (some s, h)
      ∧ s.isLowGear = latest gearOf false snapshots
      ∧ (∀ servo, lastPosition servo h = some (latest (servoOf servo) (parked servo) snapshots))
      ∧ (pitchTargets h).head? = some (latest pitchOf 0 snapshots)
      ∧ ∀ x, ∃ s' h', Program.run env (runLoops (x :: snapshots)) h₀ = (some s', h')
        ∧ ∀ wheel, powers wheel h'
          = geared (latest gearOf false snapshots) (mixedSticks x.gamepad1) wheel
            :: powers wheel h := by
  obtain ⟨s, h, hrun, hlatched⟩ := exists_run_of_wp (wp_runLoops_latched env snapshots h₀)
  refine ⟨s, h, hrun, hlatched.1, hlatched.2.1, hlatched.2.2, fun x => ?_⟩
  obtain ⟨s', h', hrun', -, hpowers⟩ := exists_run_of_wp (wp_loop_latched env x hlatched)
  refine ⟨s', h', ?_, hpowers⟩
  rw [runLoops, Program.run_bind, hrun]
  exact hrun'

end StandardTeleOp

end Designosaurs
