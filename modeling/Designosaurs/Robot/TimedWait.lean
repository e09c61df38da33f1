import Designosaurs.Robot.Hardware
import Designosaurs.Robot.Record

/-!
# The clock, and the waits that watch it

Every wait of the robot code is one loop: compare a whole number read off the clock with a limit,
ask whether the op mode is still active, show something, and go round.  `waitWhile` is that loop;
the idioms differ in the number they read.

A history fixes the clock only where it was read; `ClockRuns` says that the environment never
answers with a reading earlier than the newest one.
-/

namespace Designosaurs

open Interact

variable {K : Type}

/-- `while (reading < limit && opModeIsActive()) report`. -/
def waitWhile (reading : RobotProgram K ℤ) (limit : ℤ) (report : RobotProgram K Unit)
    (fuel : ℕ) : RobotProgram K Unit :=
  Program.whileLoop ((do return decide ((← reading) < limit)).and opModeIsActive)
    (fun _ => report) fuel ()

/-- The body of most waits: show a number read off the clock. -/
def showReading (caption : String) (reading : RobotProgram K ℤ) : RobotProgram K Unit := do
  addData caption (.count (← reading))
  updateTelemetry

/-- The clock never goes back. -/
def ClockRuns (env : Environment (robot K)) : Prop :=
  ∀ h, ∀ t ∈ lastReading h, t ≤ env h .nsNow

/-- No two readings of the clock are the same. -/
def ClockTicks (env : Environment (robot K)) : Prop :=
  ∀ h, ∀ t ∈ lastReading h, t < env h .nsNow

/-- The clock was read at `since` or later. -/
def ReadSince (since : ℤ) (h : History (robot K)) : Prop :=
  ∃ t ∈ lastReading h, since ≤ t

variable {env : Environment (robot K)}

lemma ClockTicks.runs (hticks : ClockTicks env) : ClockRuns env := fun h t ht => (hticks h t ht).le

/-- Once the clock has been read, it stays at that reading or later, whatever is run. -/
lemma keeps_readSince {α : Type} (hclock : ClockRuns env) (since : ℤ) (p : RobotProgram K α) :
    Keeps env (ReadSince since) p := by
  refine keeps_of_env (fun c h hh => hh) (fun q h hh => ?_) p
  obtain ⟨t, ht, hle⟩ := hh
  by_cases hq : q = .nsNow
  · subst hq
    exact ⟨env h .nsNow, rfl, hle.trans (hclock h t ht)⟩
  · exact ⟨t, by simpa [hq] using ht, hle⟩

/-- A wait does nothing but wait. -/
lemma emits_waiting {reading shown : RobotProgram K ℤ} (hreading : Emits Waiting reading)
    (hshown : Emits Waiting shown) (limit : ℤ) (caption : String) (fuel : ℕ) :
    Emits Waiting (waitWhile reading limit (showReading caption shown) fuel) := by
  refine emits_whileLoop (emits_and ?_ ?_) (fun _ => ?_) fuel ()
  · exact emits_bind hreading fun _ => emits_pure _
  · simp [Waiting]
  · exact emits_bind hshown fun _ => by simp [Waiting]

/-- **What the end of a wait tells.**  Unless the op mode was stopped, the number was no longer
under the limit at the newest clock reading, and that reading is not earlier than the clock was when
the wait began. -/
theorem wp_waitWhile (hclock : ClockRuns env) (hactive : ∀ h, env h .opModeIsActive = true)
    (f : ℤ → ℤ) (limit : ℤ) (report : RobotProgram K Unit) (fuel : ℕ) {since : ℤ}
    {h : History (robot K)} (hread : ReadSince since h) :
    wp env (waitWhile (do return f (← nsNow)) limit report fuel)
      (fun _ h' => ∃ t ∈ lastReading h', since ≤ t ∧ limit ≤ f t) (fun _ => True) h := by
  have hend : wp env (waitWhile (do return f (← nsNow)) limit report fuel)
      (fun _ h' => ∃ t ∈ lastReading h', limit ≤ f t) (fun _ => True) h := by
    refine wp_whileLoop (fun _ _ => True) (fun _ _ _ => trivial) (fun _ h _ => ?_) fuel () h trivial
    by_cases hlt : f (env h .nsNow) < limit
    · simp [wp_and, hlt, hactive, wp_true]
    · simp [wp_and, hlt, not_lt.mp hlt]
  refine wp_mono ?_ (fun _ _ => trivial) (wp_conj hend (keeps_readSince hclock since _ h hread))
  rintro _ h' ⟨⟨t, ht, hlimit⟩, t', ht', hsince⟩
  obtain rfl : t = t' := Option.mem_unique ht ht'
  exact ⟨t, ht, hsince, hlimit⟩

/-- A wait on a timer that was just reset lasts its time, to the nanosecond. -/
lemma wp_waitWhile_timeIn (hclock : ClockRuns env) (hactive : ∀ h, env h .opModeIsActive = true)
    (time : ElapsedTime) (millis : ℤ) (report : RobotProgram K Unit) (fuel : ℕ)
    {h : History (robot K)} (hread : ReadSince time.nsStartTime h) :
    wp env (waitWhile (time.timeIn .MILLISECONDS) millis report fuel)
      (fun _ h' => ∃ t ∈ lastReading h',
        millis * TimeUnit.MILLISECONDS.nanos ≤ t - time.nsStartTime) (fun _ => True) h := by
  refine wp_mono ?_ (fun _ => id) (wp_waitWhile hclock hactive
    (fun now => TimeUnit.MILLISECONDS.convert (now - time.nsStartTime)) millis report fuel hread)
  rintro _ h' ⟨t, ht, hsince, hlimit⟩
  refine ⟨t, ht, ?_⟩
  have hparts := TimeUnit.MILLISECONDS.convert_add_phase (t - time.nsStartTime)
  have hphase := TimeUnit.MILLISECONDS.convert_of_nonneg (sub_nonneg.mpr hsince)
  simp only [TimeUnit.nanos] at *
  omega

/-- Nanoseconds that are left on the clock until `deadline`. -/
def untilDeadline (deadline : ℤ) (h : History (robot K)) : ℕ :=
  (deadline - (lastReading h).getD deadline).toNat

/-- **A wait ends.**  On a clock that ticks it takes no more rounds than there are nanoseconds until
the number it watches has come to its limit. -/
theorem wp_waitWhile_returns (hticks : ClockTicks env) (f : ℤ → ℤ) (limit deadline : ℤ)
    (hlimit : ∀ t, deadline ≤ t → limit ≤ f t) {report : RobotProgram K Unit}
    (hreport : ∀ h, wp env report (fun _ _ => True) (fun _ => False) h) {fuel : ℕ}
    {h : History (robot K)} {since : ℤ} (hread : ReadSince since h)
    (hfuel : (deadline - since).toNat < fuel) :
    wp env (waitWhile (do return f (← nsNow)) limit report fuel) (fun _ _ => True)
      (fun _ => False) h := by
  refine wp_whileLoop_variant (fun _ => ReadSince since) (fun _ => untilDeadline deadline)
    (fun _ h hh => ?_) fuel () h hread ?_
  · obtain ⟨t, ht, hsince⟩ := hh
    have hnow : t < env h .nsNow := hticks h t ht
    by_cases hlt : f (env h .nsNow) < limit
    · have hdeadline := mt (hlimit (env h .nsNow)) (not_le.mpr hlt)
      have hbody : ∀ h', ReadSince (env h .nsNow) h' →
          wp env report (fun _ h'' => ReadSince since h''
            ∧ untilDeadline deadline h'' < untilDeadline deadline h) (fun _ => False) h' := by
        intro h' hh'
        refine wp_mono ?_ (fun _ => And.left)
          (wp_conj (hreport h') (keeps_readSince hticks.runs _ report h' hh'))
        rintro _ h'' ⟨-, t'', ht'', hle⟩
        refine ⟨⟨t'', ht'', by omega⟩, ?_⟩
        rw [untilDeadline, untilDeadline, Option.mem_def.mp ht, Option.mem_def.mp ht'',
          Option.getD_some, Option.getD_some]
        omega
      cases hactive : env (.answer .nsNow (env h .nsNow) :: h) .opModeIsActive with
      | false => simp [wp_and, hlt, hactive]
      | true =>
          simp only [wp_and, wp_bind, wp_ask, wp_done, wp_pure, hlt, decide_true, if_true, hactive]
          exact hbody _ ⟨_, rfl, le_rfl⟩
    · simp [wp_and, hlt]
  · obtain ⟨t, ht, hsince⟩ := hread
    have hle : untilDeadline deadline h ≤ (deadline - since).toNat := by
      rw [untilDeadline, Option.mem_def.mp ht, Option.getD_some]
      omega
    omega

end Designosaurs
