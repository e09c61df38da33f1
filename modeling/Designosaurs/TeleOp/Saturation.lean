import Designosaurs.TeleOp.Latches

/-!
# When the drive saturates

`loop` adds up three shaped sticks for each wheel and passes the sum to `setPower`, in the high gear
as it is and in the low gear divided by three.  There is no normalisation: the motors clip what they
are given, each on its own, and a motion that is clipped on one wheel and not on another is bent.

`loop_proportional_iff` is about the powers that one call gives the four wheels, and says when what
is left of them after the clipping still points where the sticks do.
-/

namespace Designosaurs

open Interact

namespace StandardTeleOp

variable {K : Type} [Field K] [LinearOrder K]

/-- One call of `loop` gives each wheel one power: its mixed value, geared by the gear in force
before the call. -/
lemma wp_loop_powers (env : Environment (robot K)) (gamepad1 gamepad2 : Gamepad K)
    (s : StandardTeleOp) (h : History (robot K)) :
    wp env (loop gamepad1 gamepad2 s)
      (fun _ h' => ∀ wheel,
        powers wheel h' = geared s.isLowGear (mixedSticks gamepad1) wheel :: powers wheel h)
      (fun _ => False) h := by
  refine wp_mono (fun _ h' hfoot wheel => ?_) (fun _ => id) (leaves_loop ⟨gamepad1, gamepad2⟩ s h)
  exact congrFun (congrArg Footprint.drive hfoot) wheel

/-- **When the drive keeps the direction the sticks ask for.**  Whatever is answered, one call of
`loop` gives each wheel exactly one power.  In every gear state and for all sticks in range, these
powers, once clipped, are one positive multiple of the mixed vector in low gear, and in high gear
exactly when no wheel saturates or all the wheels that turn are asked for one magnitude. -/
theorem loop_proportional_iff [IsStrictOrderedRing K] (env : Environment (robot K))
    (gamepad1 gamepad2 : Gamepad K) (hsticks : SticksInRange gamepad1) (s : StandardTeleOp)
    (h : History (robot K)) :
    ∃ s' h', ∃ given : Wheel → K, Program.run env (loop gamepad1 gamepad2 s) h = (some s', h')
      ∧ (∀ wheel, powers wheel h' = given wheel :: powers wheel h)
      ∧ given = geared s.isLowGear (mixedSticks gamepad1)
      ∧ ((∃ k : K, 0 < k ∧ ∀ wheel, clip (given wheel) = k * mixedSticks gamepad1 wheel)
        ↔ s.isLowGear = true ∨ (∀ w, |mixedSticks gamepad1 w| ≤ 1)
          ∨ (∀ w w', mixedSticks gamepad1 w ≠ 0 → mixedSticks gamepad1 w' ≠ 0 →
              |mixedSticks gamepad1 w| = |mixedSticks gamepad1 w'|)) := by
  obtain ⟨s', h', hrun, hpowers⟩ := exists_run_of_wp (wp_loop_powers env gamepad1 gamepad2 s h)
  obtain ⟨hx, hy, hr⟩ := hsticks
  have hlv : |square (-gamepad1.leftStickY) power| ≤ 1 :=
    abs_square_power_le (by rw [abs_neg]; exact hy)
  have hclipped : Proportional s.isLowGear (mixedSticks gamepad1) ↔ _ :=
    proportional_iff hlv (abs_square_power_le hx) (abs_square_power_le hr) s.isLowGear
  exact ⟨s', h', _, hrun, hpowers, rfl, hclipped⟩

/-- A robot on which nothing moves, not even the clock. -/
def stillRobot : Environment (robot ℝ)
  | _, .isBusy _ => false
  | _, .getCurrentPosition _ => 0
  | _, .opModeIsActive => true
  | _, .nsNow => 0
  | _, .canCreateTFObjectDetector => false
  | _, .getUpdatedRecognitions => none

/-- In low gear the left stick drives where it points. -/
theorem loop_proportional_lowGear : ∃ s' h', ∃ given : Wheel → ℝ,
    Program.run stillRobot (loop forwardHalfRight Gamepad.idle ⟨true, 0, 0, 0, 0⟩) []
        = (some s', h')
      ∧ (∀ wheel, powers wheel h' = [given wheel])
      ∧ ∃ k : ℝ, 0 < k ∧ ∀ wheel, clip (given wheel) = k * mixedSticks forwardHalfRight wheel := by
  have hsticks : SticksInRange forwardHalfRight := by
    norm_num [SticksInRange, forwardHalfRight, Gamepad.idle, abs_le]
  obtain ⟨s', h', given, hrun, hpowers, -, hiff⟩ := loop_proportional_iff stillRobot
    forwardHalfRight Gamepad.idle hsticks ⟨true, 0, 0, 0, 0⟩ []
  exact ⟨s', h', given, hrun, hpowers, hiff.mpr (Or.inl rfl)⟩

/-- In high gear, which is where `init` starts, it does not: two wheels are given 1.125 and make 1
of it, the other two make the 0.875 they are given. -/
theorem highGear_bends_motion :
    ¬ ∀ (env : Environment (robot ℝ)) (past : List (Snapshot ℝ)) (gamepad1 gamepad2 : Gamepad ℝ)
        (s s' : StandardTeleOp) (h h' : History (robot ℝ)),
      SticksInRange gamepad1 → Program.run env (runLoops past) [] = (some s, h) →
      Program.run env (loop gamepad1 gamepad2 s) h = (some s', h') →
      ∃ k : ℝ, 0 < k ∧ ∀ wheel, ∃ power, powers wheel h' = power :: powers wheel h
        ∧ clip power = k * mixedSticks gamepad1 wheel := by
  intro hall
  have hsticks : SticksInRange forwardHalfRight := by
    norm_num [SticksInRange, forwardHalfRight, Gamepad.idle, abs_le]
  obtain ⟨s, h, hinit, hgear, -⟩ := exists_run_of_wp (wp_runLoops_latched stillRobot [] [])
  obtain ⟨s', h', hrun, hpowers⟩ :=
    exists_run_of_wp (wp_loop_powers stillRobot forwardHalfRight Gamepad.idle s h)
  obtain ⟨k, hk, hwheels⟩ := hall stillRobot [] _ _ s s' h h' hsticks hinit hrun
  have hprop : Proportional false (mixedSticks forwardHalfRight) := by
    refine ⟨k, hk, fun wheel => ?_⟩
    obtain ⟨power, hpower, hclip⟩ := hwheels wheel
    rw [hpowers wheel] at hpower
    obtain ⟨rfl, -⟩ := List.cons.inj hpower
    have hhigh : s.isLowGear = false := hgear
    rw [hhigh] at hclip
    exact hclip
  have hfl : mixedSticks forwardHalfRight .frontLeft = -0.875 := by
    norm_num [mixedSticks, mix, square_power, forwardHalfRight, Gamepad.idle]
  have hfr : mixedSticks forwardHalfRight .frontRight = -1.125 := by
    norm_num [mixedSticks, mix, square_power, forwardHalfRight, Gamepad.idle]
  rcases (proportional_highGear_iff _).mp hprop with hsat | hmag
  · have hle := hsat .frontRight
    norm_num [hfr] at hle
  · have heq := hmag .frontLeft .frontRight (by norm_num [hfl]) (by norm_num [hfr])
    norm_num [hfl, hfr] at heq

end StandardTeleOp

end Designosaurs
