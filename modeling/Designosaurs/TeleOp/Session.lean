import Designosaurs.TeleOp.Saturation

/-!
# Sessions at the sticks

A session of the driver-controlled op mode is `init()`, one `loop()` after the other, and `stop()`,
which only writes a line.  Three things hold of every one of them.

* `session_atRest_iff` — nobody stops the wheels but the driver: after `stop()` they are at rest
  exactly when the sticks were centred in the last loop, or there was none.
* `powers_eq_iff_sticks_eq` — nothing the driver asks for is lost: from the powers of a session, and
  its gears, one can tell where the sticks were in each loop.
* `session_within_reach` — and nothing is asked of the robot beyond its mechanisms: each command
  after `init()` is in the range of the motor or servo it goes to, and none touches a run mode, a
  direction or the right gripper.
-/

namespace Designosaurs

open Interact

namespace StandardTeleOp

variable {K : Type} [Field K] [LinearOrder K]

/-- `stop()` -/
def stop : RobotProgram K Unit := addData "status: " (.text "Done!")

/-- A session, given its loops newest first. -/
def session (snapshots : List (Snapshot K)) : RobotProgram K StandardTeleOp := do
  let s ← runLoops snapshots
  stop
  return s

/-! ## The powers of a session -/

/-- What a session tells a wheel, newest first. -/
def spins : List (Snapshot K) → Wheel → List K
  | [], _ => [0]
  | x :: past, wheel =>
      geared (latest gearOf false past) (mixedSticks x.gamepad1) wheel :: spins past wheel

section Powers

variable (env : Environment (robot K))

lemma wp_runLoops_spins (snapshots : List (Snapshot K)) (h : History (robot K)) :
    wp env (runLoops snapshots) (fun s h' => Latched snapshots s h'
      ∧ ∀ wheel, powers wheel h' = spins snapshots wheel ++ powers wheel h) (fun _ => False) h := by
  induction snapshots with
  | nil =>
      have hpowers : wp env init (fun _ h' => ∀ wheel, powers wheel h' = [0] ++ powers wheel h)
          (fun _ => False) h := by
        simp only [init, Designosaurs.init, ElapsedTime.now, wp_bind, wp_ask, wp_command, wp_done,
          wp_pure]
        rintro (_ | _ | _ | _) <;> rfl
      exact wp_mono (fun _ _ => id) (fun _ => And.left)
        (wp_conj (wp_init_latched env h) hpowers)
  | cons x past ih =>
      refine wp_seq ih fun s h₁ hh₁ => ?_
      refine wp_mono (fun s' h₂ hh₂ => ⟨hh₂.1, fun wheel => ?_⟩) (fun _ => id)
        (wp_loop_latched env x hh₁.1)
      rw [hh₂.2 wheel, hh₁.2 wheel]
      rfl

/-- A session returns, and has told the wheels what its loops ask for. -/
lemma session_returns (snapshots : List (Snapshot K)) (h₀ : History (robot K)) :
    ∃ s h, Program.run env (session snapshots) h₀ = (some s, h)
      ∧ ∀ wheel, powers wheel h = spins snapshots wheel ++ powers wheel h₀ := by
  refine exists_run_of_wp (wp_seq (wp_runLoops_spins env snapshots h₀) fun s h hh => ?_)
  exact fun wheel => hh.2 wheel

end Powers

/-! ## What the sticks ask for -/

/-- The three sticks are where they are when nobody touches them. -/
def Centred (gamepad1 : Gamepad K) : Prop :=
  gamepad1.leftStickX = 0 ∧ gamepad1.leftStickY = 0 ∧ gamepad1.rightStickX = 0

/-- The sticks of two snapshots are in one place. -/
def SameSticks (x y : Snapshot K) : Prop :=
  x.gamepad1.leftStickX = y.gamepad1.leftStickX ∧ x.gamepad1.leftStickY = y.gamepad1.leftStickY
    ∧ x.gamepad1.rightStickX = y.gamepad1.rightStickX

variable [IsStrictOrderedRing K]

/-- The sticks can be told from the mixed values. -/
lemma mixedSticks_inj {x y : Snapshot K} :
    mixedSticks x.gamepad1 = mixedSticks y.gamepad1 ↔ SameSticks x y := by
  have hcube : ∀ a b : K, a ^ 3 = b ^ 3 ↔ a = b := fun a b =>
    (Odd.strictMono_pow (by decide)).injective.eq_iff
  constructor
  · intro heq
    have hmotion := congrArg unmix heq
    simp only [mixedSticks, unmix_mix, Motion.mk.injEq, square_power, hcube, neg_inj] at hmotion
    exact ⟨hmotion.2.1, hmotion.1, hmotion.2.2⟩
  · rintro ⟨hx, hy, hr⟩
    rw [mixedSticks, mixedSticks, hx, hy, hr]

lemma geared_inj {isLowGear : Bool} {v v' : Wheel → K} :
    (∀ wheel, geared isLowGear v wheel = geared isLowGear v' wheel) ↔ v = v' := by
  have hthree : (3 : K) ≠ 0 := by norm_num
  rw [funext_iff]
  refine forall_congr' fun wheel => ?_
  cases isLowGear <;> simp [geared, div_left_inj' hthree]

/-- **At rest is the driver's business.**  After every session, whatever the robot answers, the last
power of each wheel is zero if and only if the sticks were centred in the last loop or there was
none, in exact arithmetic. -/
theorem session_atRest_iff (env : Environment (robot K)) (h₀ : History (robot K))
    (snapshots : List (Snapshot K)) :
    ∃ s h, Program.run env (session snapshots) h₀ = (some s, h)
      ∧ ((∀ wheel, (powers wheel h).head? = some 0)
        ↔ ∀ x ∈ snapshots.head?, Centred x.gamepad1) := by
  obtain ⟨s, h, hrun, hpowers⟩ := session_returns env snapshots h₀
  refine ⟨s, h, hrun, ?_⟩
  cases snapshots with
  | nil => simp [hpowers, spins]
  | cons x past =>
      -- rest is what an untouched gamepad asks for
      have hidle : ∀ gear wheel,
          geared gear (mixedSticks (Gamepad.idle : Gamepad K)) wheel = 0 := by
        intro gear wheel
        cases gear <;> cases wheel <;>
          simp [geared, mixedSticks, mix, Gamepad.idle, square_power]
      have hcentred : mixedSticks x.gamepad1 = mixedSticks Gamepad.idle ↔ Centred x.gamepad1 :=
        mixedSticks_inj (y := ⟨Gamepad.idle, Gamepad.idle⟩)
      have hspins : (∀ wheel, (powers wheel h).head? = some 0) ↔ ∀ wheel,
          geared (latest gearOf false past) (mixedSticks x.gamepad1) wheel
            = geared (latest gearOf false past) (mixedSticks Gamepad.idle) wheel := by
        simp [hpowers, spins, hidle]
      rw [hspins, geared_inj, hcentred]
      simp only [List.head?_cons, Option.mem_def, Option.some.injEq, forall_eq']

omit [Field K] [LinearOrder K] [IsStrictOrderedRing K] in
/-- Two sessions with the same gear buttons have the same gears. -/
lemma latest_congr {β : Type} {select : Snapshot K → Option β} {init : β}
    {xs ys : List (Snapshot K)} (hsame : List.Forall₂ (fun x y => select x = select y) xs ys) :
    latest select init xs = latest select init ys := by
  induction hsame with
  | nil => rfl
  | cons hx _ ih => rw [latest_cons, latest_cons, hx, ih]

/-- **The powers tell where the sticks were.**  Two sessions in which the gear buttons are used
alike give every wheel the same powers if and only if the sticks are in the same place in each
loop, in exact arithmetic. -/
theorem powers_eq_iff_sticks_eq (env env' : Environment (robot K)) {xs ys : List (Snapshot K)}
    (hgears : List.Forall₂ (fun x y => gearOf x = gearOf y) xs ys) :
    ∃ s s' h h', Program.run env (session xs) [] = (some s, h)
      ∧ Program.run env' (session ys) [] = (some s', h')
      ∧ ((∀ wheel, powers wheel h = powers wheel h') ↔ List.Forall₂ SameSticks xs ys) := by
  obtain ⟨s, h, hrun, hpowers⟩ := session_returns env xs []
  obtain ⟨s', h', hrun', hpowers'⟩ := session_returns env' ys []
  refine ⟨s, s', h, h', hrun, hrun', ?_⟩
  simp only [hpowers, hpowers', List.append_cancel_right_eq]
  clear hrun hrun' hpowers hpowers'
  induction hgears with
  | nil => simp [spins]
  | @cons x y xs ys hx hrest ih =>
      have hgear : latest gearOf false xs = latest gearOf false ys := latest_congr hrest
      simp only [spins, List.cons.injEq, forall_and, List.forall₂_cons, ih, hgear, geared_inj,
        mixedSticks_inj]

/-- A session that ends with the sticks pushed does not end at rest. -/
theorem pushed_sticks_not_atRest : ∃ s h,
    Program.run stillRobot (session [⟨forwardHalfRight, Gamepad.idle⟩]) [] = (some s, h)
      ∧ ¬ ∀ wheel, (powers wheel h).head? = some 0 := by
  obtain ⟨s, h, hrun, hiff⟩ :=
    session_atRest_iff stillRobot [] [⟨forwardHalfRight, Gamepad.idle⟩]
  refine ⟨s, h, hrun, fun hrest => ?_⟩
  have hcentred := hiff.mp hrest _ rfl
  norm_num [Centred, forwardHalfRight, Gamepad.idle] at hcentred

/-- With the sticks once pushed and once untouched, some wheel is told something else. -/
theorem powers_tell_pushed_sticks : ∃ s s' h h',
    Program.run stillRobot (session [⟨forwardHalfRight, Gamepad.idle⟩]) [] = (some s, h)
      ∧ Program.run stillRobot (session [⟨Gamepad.idle, Gamepad.idle⟩]) [] = (some s', h')
      ∧ ¬ ∀ wheel, powers wheel h = powers wheel h' := by
  have hgears : List.Forall₂ (fun x y : Snapshot ℝ => gearOf x = gearOf y)
      [⟨forwardHalfRight, Gamepad.idle⟩] [⟨Gamepad.idle, Gamepad.idle⟩] := .cons rfl .nil
  obtain ⟨s, s', h, h', hrun, hrun', hiff⟩ := powers_eq_iff_sticks_eq stillRobot stillRobot hgears
  refine ⟨s, s', h, h', hrun, hrun', fun heq => ?_⟩
  have hsticks := hiff.mp heq
  norm_num [SameSticks, forwardHalfRight, Gamepad.idle] at hsticks

/-! ## What a session asks of the robot -/

/-- The controls that are not buttons are in the range the SDK reports. -/
def InRange (x : Snapshot K) : Prop :=
  SticksInRange x.gamepad1 ∧ |x.gamepad2.leftStickY| ≤ 1

/-- The event is within reach of the mechanism it concerns. -/
def WithinReach : Event (robot K) → Prop
  | .command (.setPower (.drive _) power) => |power| ≤ 3
  | .command (.setPower .pitchMotor power) => power = 0.1 ∨ power = 0.5
  | .command (.setPower .liftMotor power) => |power| ≤ 1 / 2
  | .command (.setTargetPosition motor target) => motor = .pitchMotor ∧ 0 ≤ target ∧ target ≤ 1071
  | .command (.setPosition servo position) => servo ≠ .rightGripper ∧ 0 ≤ position ∧ position ≤ 1
  | .command (.setMode _ _) => False
  | .command (.setDirection _ _) => False
  | _ => True

/-- **One loop stays within reach.** -/
lemma emits_withinReach {x : Snapshot K} (hrange : InRange x) (s : StandardTeleOp) :
    Emits WithinReach (loop x.gamepad1 x.gamepad2 s) := by
  obtain ⟨⟨hx, hy, hr⟩, hlift⟩ := hrange
  have hmixed : ∀ wheel, |mixedSticks x.gamepad1 wheel| ≤ 3 := abs_mix_le
    (abs_square_power_le (by rwa [abs_neg])) (abs_square_power_le hx) (abs_square_power_le hr)
  have hdrive : ∀ wheel, |geared s.isLowGear (mixedSticks x.gamepad1) wheel| ≤ 3 := by
    intro wheel
    unfold geared
    split_ifs
    · rw [abs_div, abs_of_pos (by norm_num : (0 : K) < 3)]
      linarith [hmixed wheel, abs_nonneg (mixedSticks x.gamepad1 wheel)]
    · exact hmixed wheel
  have hhalf : |x.gamepad2.leftStickY / 2| ≤ 1 / 2 := by
    rw [abs_div, abs_of_pos (by norm_num : (0 : K) < 2)]
    linarith
  have hquarter : (0 : K) ≤ 0.25 ∧ (0.25 : K) ≤ 1 := by norm_num
  have hseven : (0 : K) ≤ 0.7 ∧ (0.7 : K) ≤ 1 := by norm_num
  have hnine : (0 : K) ≤ 0.9 ∧ (0.9 : K) ≤ 1 := by norm_num
  refine emits_bind (by simp [ElapsedTime.now, WithinReach]) fun nowTime => ?_
  refine emits_bind (by simp [ElapsedTime.now, WithinReach]) fun lastTime => ?_
  refine emits_bind (by simp [driveMotors, WithinReach, hdrive]) fun _ => ?_
  refine emits_bind (emits_bind ?_ fun _ => ?_) fun _ => ?_
  · simp [WithinReach]
  · simp [WithinReach, hquarter]
  refine emits_bind (by simpa [WithinReach] using hhalf) fun _ => ?_
  refine emits_bind (by simp [showEncoders, WithinReach]) fun _ => ?_
  refine emits_bind (by simp [moveLeftGripper, WithinReach]) fun _ => ?_
  refine emits_bind (by simp [moveFoundationGripper, WithinReach, hseven, hnine]) fun _ => ?_
  refine emits_bind ?_ fun _ => ?_
  · refine emits_bind (by simp [WithinReach]) fun _ => ?_
    exact emits_bind (by simp [WithinReach]) fun _ => by simp [WithinReach]
  refine emits_bind (by simp [powerPitch, WithinReach]) fun _ => ?_
  exact emits_bind (by simp [moveCapstoneGripper, WithinReach]) fun _ => emits_pure _

/-- **A session stays within reach.**  With the sticks in range, whatever is answered, every command
of a session after `init()` is in the range of its mechanism, and none sets a run mode or a
direction or moves the right gripper. -/
theorem session_within_reach (env : Environment (robot K)) {snapshots : List (Snapshot K)}
    (hrange : ∀ x ∈ snapshots, InRange x) :
    ∃ s₀ start, Program.run env init [] = (some s₀, start)
      ∧ ∀ e past, e :: past <:+ (Program.run env (session snapshots) []).2 → start <:+ past →
        WithinReach e := by
  obtain ⟨s₀, start, hinit, -⟩ := exists_run_of_wp (wp_init_latched env ([] : History (robot K)))
  refine ⟨s₀, start, hinit, ?_⟩
  have hloops : wp env (runLoops snapshots)
      (fun _ => Extends (fun e _ => WithinReach e) start) (fun _ => False) [] := by
    induction snapshots with
    | nil => exact wp_of_run hinit .refl
    | cons x past ih =>
        rw [List.forall_mem_cons] at hrange
        refine wp_seq (ih hrange.2) fun s h hx => ?_
        refine wp_mono (fun _ _ => And.right) (fun _ hh => hh.1) (wp_conj
          (leaves_loop x s h)
          ((emits_withinReach hrange.1 s).keeps (fun e past he hx => .step he hx) h hx))
  have hsession : wp env (session snapshots) (fun _ => Extends (fun e _ => WithinReach e) start)
      (Extends (fun e _ => WithinReach e) start) [] := by
    refine wp_seq (wp_mono (fun _ _ => id) (fun _ => False.elim) hloops) fun s h hx => ?_
    exact .step trivial hx
  exact (Extends.iff_forall.mp (wp_final hsession)).2

/-- A session of one loop, with the left stick pushed. -/
theorem pushed_sticks_within_reach : ∃ s₀ start, Program.run stillRobot init [] = (some s₀, start)
    ∧ ∀ e past, e :: past
        <:+ (Program.run stillRobot (session [⟨forwardHalfRight, Gamepad.idle⟩]) []).2 →
      start <:+ past → WithinReach e := by
  refine session_within_reach stillRobot fun x hx => ?_
  obtain rfl := List.mem_singleton.mp hx
  norm_num [InRange, SticksInRange, forwardHalfRight, Gamepad.idle, abs_le]

end StandardTeleOp

end Designosaurs
