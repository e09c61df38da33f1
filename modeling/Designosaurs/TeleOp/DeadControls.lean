import Designosaurs.Interact.Simulation
import Designosaurs.TeleOp.Session

/-!
# What a session does not depend on

`loop` reads the clock twice, keeps four numbers in fields, and answers to two more arrows of the
second gamepad than it makes use of.  None of that comes out: with the lines that moved the lift and
the pitch motor to `liftPos` and `pitchPos` commented out, the fields are written and never read.

`session_same_but_clock` says so for whole sessions.  Two drivers who use the live controls alike,
on two robots that differ in nothing but their clocks, bring about the same commands and the same
readings, one for one.
-/

namespace Designosaurs

open Interact

variable {K : Type}

/-! ## Histories without their clock readings -/

/-- What is left of a history when the readings of the clock are taken out. -/
def untimed : History (robot K) → History (robot K)
  | [] => []
  | .answer .nsNow _ :: h => untimed h
  | e :: h => e :: untimed h

/-- Two histories that differ in nothing but readings of the clock. -/
def SameButClock (h h' : History (robot K)) : Prop := untimed h = untimed h'

/-- Two robots that differ in nothing but their clocks. -/
def AgreeButClock (env env' : Environment (robot K)) : Prop :=
  ∀ h h', SameButClock h h' → ∀ q, q ≠ .nsNow → env h q = env' h' q

/-- Not a reading of the clock. -/
def Clockless : Event (robot K) → Prop
  | .answer .nsNow _ => False
  | _ => True

lemma Clockless.untimed {e : Event (robot K)} (he : Clockless e) (h : History (robot K)) :
    untimed (e :: h) = e :: untimed h := by
  cases e with
  | command c => rfl
  | answer q a =>
      cases q with
      | nsNow => exact he.elim
      | _ => rfl

lemma SameButClock.cons {h h' : History (robot K)} (hsame : SameButClock h h')
    {e : Event (robot K)} (he : Clockless e) : SameButClock (e :: h) (e :: h') := by
  rw [SameButClock, he.untimed, he.untimed, hsame]

section Simulations

variable {env env' : Environment (robot K)} {α : Type}

/-- A part that does not look at the clock. -/
lemma simulates_clockless (hagree : AgreeButClock env env') {p : RobotProgram K α}
    (hp : Emits Clockless p) : Simulates env env' SameButClock p p (· = ·) := by
  refine simulates_self (fun c _ h h' hsame => hsame.cons trivial) (fun q a hq h h' hsame => ?_) hp
  have hne : q ≠ .nsNow := by
    rintro rfl
    exact hq
  have hanswer := hagree h h' hsame q hne
  refine ⟨hanswer, ?_⟩
  rw [hanswer]
  refine hsame.cons ?_
  cases q with
  | nsNow => exact absurd rfl hne
  | _ => trivial

/-- Two looks at the clock have nothing in common. -/
lemma simulates_now (unit : TimeUnit) :
    Simulates env env' SameButClock (ElapsedTime.now unit) (ElapsedTime.now unit)
      fun _ _ => True :=
  fun _ _ hsame => ⟨trivial, hsame⟩

end Simulations

namespace StandardTeleOp

variable [Field K] [LinearOrder K] {env env' : Environment (robot K)}

/-- What `loop` makes use of: the first gamepad without its buttons and arrows, the second without
the two arrows to the side and the sticks it does not read. -/
def live (x : Snapshot K) : Snapshot K where
  gamepad1 := { x.gamepad1 with
    a := false, b := false, x := false, y := false
    dpadUp := false, dpadDown := false, dpadLeft := false, dpadRight := false }
  gamepad2 := { x.gamepad2 with
    leftStickX := 0, rightStickX := 0, dpadLeft := false, dpadRight := false }

/-- **One loop**: whatever the dead controls are, and the fields but for the gear. -/
lemma simulates_loop (hagree : AgreeButClock env env') {x y : Snapshot K} (hlive : live x = live y)
    {s s' : StandardTeleOp} (hgear : s.isLowGear = s'.isLowGear) :
    Simulates env env' SameButClock (loop x.gamepad1 x.gamepad2 s) (loop y.gamepad1 y.gamepad2 s')
      fun t t' => t.isLowGear = t'.isLowGear := by
  -- a part that reads the live controls only is the same in both loops
  have hpart : ∀ {α : Type} (part : Snapshot K → RobotProgram K α),
      Emits Clockless (part (live y)) →
      Simulates env env' SameButClock (part (live x)) (part (live y)) (· = ·) := by
    intro α part hp
    rw [hlive]
    exact simulates_clockless hagree hp
  obtain ⟨gear, pitchPos, liftPos, lastTime, deltaTime⟩ := s
  obtain ⟨_, pitchPos', liftPos', lastTime', deltaTime'⟩ := s'
  obtain rfl : gear = _ := hgear
  refine simulates_bind (simulates_now _) fun _ _ _ => ?_
  refine simulates_bind (simulates_now _) fun _ _ _ => ?_
  refine simulates_bind (hpart (fun z => driveMotors gear z.gamepad1)
    (by simp [driveMotors, Clockless])) fun _ _ _ => ?_
  refine simulates_bind (hpart (fun z => moveMainGripper z.gamepad2)
    (emits_bind (by simp [Clockless]) fun _ => by simp [Clockless])) fun _ _ _ => ?_
  refine simulates_bind (hpart (fun z => setPower .liftMotor (z.gamepad2.leftStickY / 2))
    (by simp [Clockless])) fun _ _ _ => ?_
  refine simulates_bind (simulates_clockless hagree (by simp [showEncoders, Clockless]))
    fun _ _ _ => ?_
  refine simulates_bind (hpart (fun z => moveLeftGripper z.gamepad2)
    (by simp [moveLeftGripper, Clockless])) fun _ _ _ => ?_
  refine simulates_bind (hpart (fun z => moveFoundationGripper z.gamepad1)
    (by simp [moveFoundationGripper, Clockless])) fun _ _ _ => ?_
  refine simulates_bind (hpart (fun z => movePitch z.gamepad2) ?_) fun _ _ _ => ?_
  · refine emits_bind (by simp [Clockless]) fun _ => ?_
    exact emits_bind (by simp [Clockless]) fun _ => by simp [Clockless]
  refine simulates_bind (simulates_clockless hagree (by simp [powerPitch, Clockless]))
    fun _ _ _ => ?_
  refine simulates_bind (hpart (fun z => moveCapstoneGripper z.gamepad2)
    (by simp [moveCapstoneGripper, Clockless])) fun _ _ _ => ?_
  have hleft : x.gamepad1.leftBumper = y.gamepad1.leftBumper :=
    congrArg (fun z => z.gamepad1.leftBumper) hlive
  have hright : x.gamepad1.rightBumper = y.gamepad1.rightBumper :=
    congrArg (fun z => z.gamepad1.rightBumper) hlive
  exact simulates_pure (by simp only [hleft, hright])

/-- **Any sequence of loops**, by induction on it. -/
lemma simulates_runLoops (hagree : AgreeButClock env env') {xs ys : List (Snapshot K)}
    (hlive : xs.map live = ys.map live) :
    Simulates env env' SameButClock (runLoops xs) (runLoops ys)
      fun s s' => s.isLowGear = s'.isLowGear := by
  induction xs generalizing ys with
  | nil =>
      obtain rfl : ys = [] := List.map_eq_nil_iff.mp hlive.symm
      refine simulates_bind (simulates_now _) fun _ _ _ => ?_
      refine simulates_bind (simulates_clockless hagree (by simp [Designosaurs.init, Clockless]))
        fun _ _ _ => ?_
      iterate 5
        refine simulates_bind (simulates_clockless hagree (by simp [Clockless])) fun _ _ _ => ?_
      exact simulates_pure rfl
  | cons x xs ih =>
      obtain ⟨y, ys, rfl, hy, hys⟩ := List.map_eq_cons_iff.mp hlive.symm
      refine simulates_bind (ih hys.symm) fun s s' hgear => ?_
      exact simulates_loop hagree hy.symm hgear

/-- **A session depends on nothing but the live controls.**  Two sessions in which the live controls
are used alike, on two robots that agree but for their clocks, are the same command for command and
reading for reading, but for the readings of the clock. -/
theorem session_same_but_clock (hagree : AgreeButClock env env') {xs ys : List (Snapshot K)}
    (hlive : xs.map live = ys.map live) :
    ∃ s s' h h', Program.run env (session xs) [] = (some s, h)
      ∧ Program.run env' (session ys) [] = (some s', h')
      ∧ s.isLowGear = s'.isLowGear ∧ SameButClock h h' := by
  obtain ⟨s, h, hrun, -⟩ := session_returns env xs []
  obtain ⟨s', h', hrun', -⟩ := session_returns env' ys []
  have hsession : Simulates env env' SameButClock (session xs) (session ys)
      fun s s' => s.isLowGear = s'.isLowGear := by
    refine simulates_bind (simulates_runLoops hagree hlive) fun s s' hgear => ?_
    refine simulates_bind (simulates_clockless hagree ?_) fun _ _ _ => simulates_pure hgear
    exact ⟨trivial, trivial⟩
  have halike := hsession [] [] rfl
  rw [hrun, hrun'] at halike
  exact ⟨s, s', h, h', hrun, hrun', halike⟩

/-- A gamepad with an arrow to the side pushed. -/
noncomputable def sidewards : Gamepad ℝ := { Gamepad.idle with dpadRight := true }

/-- The robot on which nothing moves but the clock. -/
def tickingRobot : Environment (robot ℝ)
  | h, .nsNow => (lastReading h).elim 0 (· + 1)
  | h, query => stillRobot h query

lemma agreeButClock_tickingRobot : AgreeButClock stillRobot tickingRobot := by
  intro h h' _ q hq
  cases q with
  | nsNow => exact absurd rfl hq
  | _ => rfl

/-- The arrow does nothing. -/
theorem arrow_does_nothing : ∃ s s' h h',
    Program.run stillRobot (session [⟨Gamepad.idle, sidewards⟩]) [] = (some s, h)
      ∧ Program.run tickingRobot (session [⟨Gamepad.idle, Gamepad.idle⟩]) [] = (some s', h')
      ∧ s.isLowGear = s'.isLowGear ∧ SameButClock h h' :=
  session_same_but_clock agreeButClock_tickingRobot rfl

end StandardTeleOp

end Designosaurs
