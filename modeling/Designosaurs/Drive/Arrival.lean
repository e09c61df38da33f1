import Designosaurs.Drive.MoveRTP

/-!
# Arrival

The drive loop of `moveRTP` runs until *any* of the motors is in position: its guard is a
short-circuit conjunction, so the first wheel that is seen at its target ends the loop, and nobody
asks the others again.  The settle wait that follows is blind.

`moveRTP_one_arrival`: as long as the op mode is not stopped, a call that returns has heard exactly
one motor say that it is not busy, and it heard that before it waited and stopped the robot.
-/

namespace Designosaurs

open Interact

variable {K : Type}

/-- The drive wheels that were seen at their targets, newest first. -/
def arrivals : History (robot K) → List Wheel
  | [] => []
  | .answer (.isBusy (.drive wheel)) false :: h => wheel :: arrivals h
  | _ :: h => arrivals h

/-- An event that is no arrival. -/
def NoArrival (e : Event (robot K)) : Prop := ∀ h, arrivals (e :: h) = arrivals h

@[simp] lemma noArrival_command (c : Command K) : NoArrival (.command c) := fun _ => rfl

@[simp] lemma noArrival_busy (motor : Motor) :
    NoArrival (.answer (.isBusy motor) true : Event (robot K)) := fun _ => by
  cases motor <;> rfl

lemma Waiting.noArrival {e : Event (robot K)} (he : Waiting e) : NoArrival e := by
  intro h
  cases e with
  | command c => rfl
  | answer q a =>
      cases q with
      | nsNow => rfl
      | opModeIsActive => rfl
      | _ => exact he.elim

variable {env : Environment (robot K)}

/-- A program without arrivals adds none. -/
lemma keeps_arrivals (env : Environment (robot K)) {α : Type} {p : RobotProgram K α}
    (hp : Emits NoArrival p) (seen : List Wheel) : Keeps env (fun h => arrivals h = seen) p :=
  Emits.keeps_reading (f := arrivals) hp seen

/-! ## The guard -/

/-- A test that answers `false` has seen one wheel arrive, and none when it answers `true`. -/
def SeesArrival (env : Environment (robot K)) (test : RobotProgram K Bool) : Prop :=
  ∀ h, wp env test (fun busy h' => if busy then arrivals h' = arrivals h
    else ∃ wheel, arrivals h' = wheel :: arrivals h) (fun _ => False) h

lemma seesArrival_isBusy (wheel : Wheel) : SeesArrival env (isBusy (.drive wheel)) := by
  intro h
  rw [wp_ask, wp_done]
  cases env h (.isBusy (.drive wheel)) with
  | false => exact ⟨wheel, rfl⟩
  | true => exact noArrival_busy _ h

/-- The second test of a conjunction is asked only when the first one saw nothing. -/
lemma SeesArrival.and {p q : RobotProgram K Bool} (hp : SeesArrival env p)
    (hq : SeesArrival env q) : SeesArrival env (p.and q) := by
  intro h
  rw [wp_and]
  refine wp_mono ?_ (fun _ => id) (hp h)
  rintro (_ | _) h' hsame
  · exact hsame
  · have hnext := hq h'
    rw [show arrivals h' = arrivals h from hsame] at hnext
    exact hnext

lemma seesArrival_busyCheck : SeesArrival env busyCheck :=
  (((seesArrival_isBusy .frontRight).and (seesArrival_isBusy .frontLeft)).and
    (seesArrival_isBusy .backRight)).and (seesArrival_isBusy .backLeft)

/-- While the op mode is active, only an arrival ends the drive loop. -/
lemma seesArrival_driveGuard (hactive : ∀ h, env h .opModeIsActive = true) :
    SeesArrival env driveGuard := by
  refine seesArrival_busyCheck.and fun h => ?_
  rw [wp_ask, wp_done, hactive]
  rfl

/-! ## The call -/

section Call

variable [Field K] [LinearOrder K]

lemma emits_noArrival_prepare [FloorRing K] (hw : HardwareDesignosaurs K) (direction : StringRef)
    (distance : K) : Emits NoArrival (prepare hw direction distance) :=
  emits_prepare (fun _ => Waiting.noArrival) (by simp) (by simp) hw direction distance

lemma emits_noArrival_driveBody (d : DriveLoop K) (time : ElapsedTime) (s : RampState K) :
    Emits NoArrival (driveBody d time s) :=
  emits_driveBody (fun _ => Waiting.noArrival) (fun _ _ _ => rfl) (by simp) d time s

omit [LinearOrder K] in
lemma emits_noArrival_settleAndStop (fuel : ℕ) :
    Emits NoArrival (settleAndStop fuel : RobotProgram K ElapsedTime) :=
  emits_settleAndStop (fun _ => Waiting.noArrival) (by simp) (by simp) fuel

/-- **The drive loop ends at the first arrival.** -/
theorem wp_driveLoop_arrival (hactive : ∀ h, env h .opModeIsActive = true) (d : DriveLoop K)
    (time : ElapsedTime) (fuel : ℕ) {seen : List Wheel} {h : History (robot K)}
    (hseen : arrivals h = seen) :
    wp env (driveLoop d time fuel) (fun _ h' => ∃ wheel, arrivals h' = wheel :: seen)
      (fun _ => True) h := by
  refine wp_whileLoop (fun _ h' => arrivals h' = seen) (fun _ _ _ => trivial) (fun s h' hs => ?_)
    fuel _ h hseen
  refine wp_mono ?_ (fun _ _ => trivial) (seesArrival_driveGuard hactive h')
  rintro (_ | _) h'' hguard
  · obtain ⟨wheel, hwheel⟩ : ∃ wheel, arrivals h'' = wheel :: arrivals h' := hguard
    exact ⟨wheel, hwheel.trans (by rw [hs])⟩
  · have hsame : arrivals h'' = seen := Eq.trans hguard hs
    exact wp_mono (fun _ _ => id) (fun _ _ => trivial)
      (keeps_arrivals env (emits_noArrival_driveBody d time s) seen h'' hsame)

/-- **One arrival a call.**  While the op mode is active, a call of `moveRTP` that returns has heard
exactly one `isBusy` answer `false`, whatever its direction, and it began to wait and to stop the
robot after that one. -/
theorem moveRTP_one_arrival [FloorRing K] (hactive : ∀ h, env h .opModeIsActive = true)
    (hw : HardwareDesignosaurs K) (fuel : ℕ) (direction : StringRef) (maxSpeed distance : K)
    {start finish : History (robot K)} {time : ElapsedTime}
    (hrun : Program.run env (moveRTP hw fuel direction maxSpeed distance) start
      = (some time, finish)) :
    ∃ wheel h, arrivals h = wheel :: arrivals start
      ∧ Program.run env (settleAndStop fuel) h = (some time, finish)
      ∧ arrivals finish = wheel :: arrivals start := by
  refine wp_returns (R := fun _ => True) (Q := fun time finish => ∃ wheel h,
    arrivals h = wheel :: arrivals start
      ∧ Program.run env (settleAndStop fuel) h = (some time, finish)
      ∧ arrivals finish = wheel :: arrivals start) ?_ hrun
  have hprepare := keeps_arrivals env (emits_noArrival_prepare hw direction distance)
    (arrivals start) start rfl
  refine wp_seq (wp_mono (fun _ _ => id) (fun _ _ => trivial) hprepare) fun s h₁ hh₁ => ?_
  refine wp_seq (wp_driveLoop_arrival hactive _ s.1 fuel hh₁) ?_
  rintro _ h₂ ⟨wheel, hwheel⟩
  have hsettle := keeps_arrivals env (emits_noArrival_settleAndStop (K := K) fuel)
    (wheel :: arrivals start) h₂ hwheel
  refine wp_mono ?_ (fun _ _ => trivial) (wp_conj (wp_run env (settleAndStop fuel) h₂) hsettle)
  exact fun time' finish' hh => ⟨wheel, h₂, hwheel, hh.1, hh.2⟩

end Call

/-- A robot whose front-right wheel arrives at once and whose other wheels never do, on a clock
that is read once a second. -/
def lopsidedRobot : Environment (robot ℝ)
  | _, .isBusy motor => decide (motor ≠ .drive .frontRight)
  | _, .getCurrentPosition _ => 0
  | _, .opModeIsActive => true
  | h, .nsNow => (lastReading h).elim 0 (· + 1000000000)
  | _, .canCreateTFObjectDetector => false
  | _, .getUpdatedRecognitions => none

/-- It is done with a forward move when that wheel is. -/
theorem forward_one_arrival :
    ∃ time finish, Program.run lopsidedRobot
        (moveRTP designosaurs 1 (.literal "forward") 0.4 24.0) [] = (some time, finish)
      ∧ ∃ wheel, arrivals finish = [wheel] := by
  refine ⟨_, _, rfl, ?_⟩
  obtain ⟨wheel, -, -, -, hfinish⟩ := @moveRTP_one_arrival ℝ lopsidedRobot _ _ _ (fun _ => rfl)
    designosaurs 1 (.literal "forward") 0.4 24.0 [] _ _ rfl
  exact ⟨wheel, hfinish⟩

/-- The other three wheels were not seen at their targets. -/
theorem forward_returns_early :
    ¬ ∀ (env : Environment (robot ℝ)) (fuel : ℕ) (direction : StringRef) (maxSpeed distance : ℝ)
        (start finish : History (robot ℝ)) (time : ElapsedTime),
      (∀ h, env h .opModeIsActive = true) → (Heading.ofString direction).isSome →
      Program.run env (moveRTP designosaurs fuel direction maxSpeed distance) start
        = (some time, finish) →
      ∀ wheel, ∃ new, finish = new ++ start ∧ wheel ∈ arrivals new := by
  intro h
  obtain ⟨new, hnew, hmem⟩ := h lopsidedRobot 1 (.literal "forward") 0.4 24.0 [] _ _
    (fun _ => rfl) rfl rfl .backLeft
  rw [List.append_nil] at hnew
  subst hnew
  change Wheel.backLeft ∈ [Wheel.frontRight] at hmem
  exact absurd hmem (by decide)

end Designosaurs
