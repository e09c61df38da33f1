import Designosaurs.Autonomous.OpMode

/-!
# How long the timed waits last

The autonomous programs wait in three ways.  They reset the shared timer and compare what it shows;
they compare the difference of two values it shows; and they compare the difference of two whole
seconds on the clock itself.  The first is exact to the nanosecond: a truncated value that has
reached the limit stands for a time that has.  The other two subtract truncated values, and the
difference of two truncations can be a unit more than the truncation of the difference.

`waits_last_iff` follows a whole run, through every `moveRTP` and its resets of the timer, and says
for each wait in it exactly when it lasts its nominal time.
-/

namespace Designosaurs

open Interact

variable {K : Type}

/-! ## Nominal time -/

/-- The nanoseconds a statement is to wait. -/
def Statement.nominal : Statement K → ℤ
  | .moveRTP _ _ _ => 500 * TimeUnit.MILLISECONDS.nanos
  | .waitAfterReset millis => millis * TimeUnit.MILLISECONDS.nanos
  | .waitDifference millis => millis * TimeUnit.MILLISECONDS.nanos
  | .hold _ seconds _ => seconds * TimeUnit.SECONDS.nanos
  | .setPosition _ _ => 0
  | .shutdownTfod => 0

/-- The clock reading a statement's wait is counted from, if it waits: the last reset of the timer,
the first reading of the wait, or the reading `matchStart` that `matchStartTime` was taken from. -/
def Statement.waitsFrom (matchStart first : ℤ) (finish : ElapsedTime) : Statement K → Option ℤ
  | .moveRTP _ _ _ => some finish.nsStartTime
  | .waitAfterReset _ => some finish.nsStartTime
  | .waitDifference _ => some first
  | .hold _ _ _ => some matchStart
  | .setPosition _ _ => none
  | .shutdownTfod => none

/-- The statement's wait, from `since` to the newest reading `t`, lasted its nominal time. -/
def Statement.Lasted (statement : Statement K) (since : Option ℤ) (finish : History (robot K)) :
    Prop :=
  ∀ s ∈ since, ∃ t ∈ lastReading finish, statement.nominal ≤ t - s

/-- From the reading `s` to the reading `t`, a difference of truncated units that is to reach
`limit` went past it, or `t` is at least as far into its unit as `s`. -/
def OnTime (unit : TimeUnit) (limit s t : ℤ) : Prop :=
  limit < unit.convert t - unit.convert s ∨ unit.phase s ≤ unit.phase t

/-- When the statement's wait is on time.  A wait after a reset always is; the two others are when
the readings they subtract are, on the shared timer for the one and on the clock for the other. -/
def Statement.IsOnTime (statement : Statement K) (runtime : ElapsedTime) (since : Option ℤ)
    (finish : History (robot K)) : Prop :=
  match statement with
  | .waitDifference millis => ∀ s ∈ since, ∃ t ∈ lastReading finish,
      OnTime .MILLISECONDS millis (s - runtime.nsStartTime) (t - runtime.nsStartTime)
  | .hold _ seconds _ => ∀ s ∈ since, ∃ t ∈ lastReading finish, OnTime .SECONDS seconds s t
  | _ => True

/-- A `hold` counts from the whole second that the reading `matchStart` was truncated to. -/
def Statement.CountsFrom (matchStart : ℤ) : Statement K → Prop
  | .hold matchStartTime _ _ => matchStartTime = TimeUnit.SECONDS.convert matchStart
  | _ => True

def Auto.CountsFrom (matchStart : ℤ) : Auto K → Prop
  | .done => True
  | .step statement next => statement.CountsFrom matchStart ∧ next.CountsFrom matchStart
  | .detect _ _ next => ∀ pos, (next pos).CountsFrom matchStart

variable [Field K]

/-- The foundation programs count from the reading they take when the match starts, and it is not
later than anything they read afterwards. -/
lemma foundation_countsFrom (env : Environment (robot K)) (R : History (robot K) → Prop)
    {op : OpMode K} (hop : op = BlueFoundationMove ∨ op = RedFoundationMove) :
    wp env op.start (fun s h => ∃ matchStart, ReadSince matchStart h
      ∧ (op.body s.2).CountsFrom matchStart) R [] := by
  rcases hop with rfl | rfl <;>
    simp only [OpMode.start, BlueFoundationMove, RedFoundationMove, ElapsedTime.reset,
      ElapsedTime.now, init, wp_bind, wp_ask, wp_command, wp_done, wp_pure] <;>
    exact ⟨_, ⟨_, rfl, le_rfl⟩, by simp [Auto.steps, Auto.CountsFrom, Statement.CountsFrom]⟩

/-! ## The waits of a run -/

variable [LinearOrder K] [FloorRing K]
  {env : Environment (robot K)} {hw : HardwareDesignosaurs K} {fuel : ℕ}

/-- What was read before a run was read before each of its statements. -/
lemma Executes.readSince (hclock : ClockRuns env) {since : ℤ} {auto : Auto K}
    {runtime time : ElapsedTime} {h start : History (robot K)} {statement : Statement K}
    (hexec : Executes env hw fuel auto runtime h statement time start)
    (hread : ReadSince since h) : ReadSince since start := by
  induction hexec with
  | here => exact hread
  | later hrun _ ih => exact ih ((keeps_readSince hclock since _).returns hread hrun)
  | seen hrun _ ih => exact ih ((keeps_readSince hclock since _).returns hread hrun)

lemma Executes.countsFrom {matchStart : ℤ} {auto : Auto K} {runtime time : ElapsedTime}
    {h start : History (robot K)} {statement : Statement K}
    (hexec : Executes env hw fuel auto runtime h statement time start)
    (hcounts : auto.CountsFrom matchStart) : statement.CountsFrom matchStart := by
  induction hexec with
  | here => exact hcounts.1
  | later _ _ ih => exact ih hcounts.2
  | seen _ _ ih => exact ih (hcounts _)

section Waits

variable {start : History (robot K)} (hclock : ClockRuns env)
  (hactive : ∀ h, env h .opModeIsActive = true)

include hclock hactive

/-- The settle wait of `moveRTP` lasts half a second from the last reset of the timer. -/
lemma wp_moveRTP_lasted (direction : StringRef) (maxSpeed distance : K) :
    wp env (moveRTP hw fuel direction maxSpeed distance)
      (fun finish h' => ∃ t ∈ lastReading h',
        500 * TimeUnit.MILLISECONDS.nanos ≤ t - finish.nsStartTime) (fun _ => True) start := by
  refine wp_seq (wp_true env _ _) fun _ h₁ _ => wp_seq (wp_true env _ _) fun _ h₂ _ => ?_
  simp only [settleAndStop, ElapsedTime.reset, wp_bind, wp_ask, wp_done, wp_pure]
  refine wp_mono ?_ (fun _ => id)
    (wp_waitWhile_timeIn hclock hactive ⟨env h₂ .nsNow⟩ 500 _ fuel ⟨_, rfl, le_rfl⟩)
  rintro _ h₃ ⟨t, ht, hlasted⟩
  simp only [setPowers, restoreDirections, wp_bind, wp_command, wp_done, lastReading_command]
  exact ⟨t, ht, hlasted⟩

/-- **One statement**: its wait lasts its nominal time exactly when it is on time. -/
theorem wp_statement_lasted_iff {matchStart : ℤ} {statement : Statement K} {time : ElapsedTime}
    (hread : ReadSince matchStart start) (hcounts : statement.CountsFrom matchStart) :
    wp env (statement.program hw fuel time)
      (fun finish h' =>
        statement.Lasted (statement.waitsFrom matchStart (env start .nsNow) finish) h'
          ↔ statement.IsOnTime time (statement.waitsFrom matchStart (env start .nsNow) finish) h')
      (fun _ => True) start := by
  cases statement with
  | moveRTP direction maxSpeed distance =>
      refine wp_mono (fun finish h' hlasted => ?_) (fun _ => id)
        (wp_moveRTP_lasted hclock hactive direction maxSpeed distance)
      refine iff_of_true ?_ trivial
      rintro _ ⟨⟩
      exact hlasted
  | waitAfterReset millis =>
      simp only [Statement.program, ElapsedTime.reset, wp_bind, wp_ask, wp_done, wp_pure]
      refine wp_mono (fun _ h' hlasted => ?_) (fun _ => id)
        (wp_waitWhile_timeIn hclock hactive ⟨env start .nsNow⟩ millis _ fuel ⟨_, rfl, le_rfl⟩)
      refine iff_of_true ?_ trivial
      rintro _ ⟨⟩
      exact hlasted
  | waitDifference millis =>
      have hfirst : ReadSince (env start .nsNow) (.answer .nsNow (env start .nsNow) :: start) :=
        ⟨_, rfl, le_rfl⟩
      show wp env (do
        waitWhile (do return |(← time.timeIn .MILLISECONDS)
            - TimeUnit.MILLISECONDS.convert (env start .nsNow - time.nsStartTime)|) millis
          (showReading "time elapsed" (time.timeIn .MILLISECONDS)) fuel
        return time) _ _ (.answer .nsNow (env start .nsNow) :: start)
      refine wp_seq (wp_waitWhile hclock hactive
        (fun now => |TimeUnit.MILLISECONDS.convert (now - time.nsStartTime)
          - TimeUnit.MILLISECONDS.convert (env start .nsNow - time.nsStartTime)|) millis
        (showReading "time elapsed" (time.timeIn .MILLISECONDS)) fuel hfirst) fun _ h' hend => ?_
      obtain ⟨t, ht, hsince, hlimit⟩ := hend
      have hiff := TimeUnit.MILLISECONDS.le_sub_iff_of_le_convert_sub
        (sub_le_sub_right hsince time.nsStartTime) hlimit
      rw [sub_sub_sub_cancel_right] at hiff
      simpa [Statement.Lasted, Statement.waitsFrom, Statement.IsOnTime, Statement.nominal, OnTime,
        Option.mem_def.mp ht] using hiff
  | hold matchStartTime seconds caption =>
      obtain rfl : matchStartTime = TimeUnit.SECONDS.convert matchStart := hcounts
      refine wp_seq (wp_waitWhile hclock hactive
        (fun now => TimeUnit.SECONDS.convert now - TimeUnit.SECONDS.convert matchStart) seconds
        _ fuel hread) fun _ h' hend => ?_
      obtain ⟨t, ht, hsince, hlimit⟩ := hend
      have hiff := TimeUnit.SECONDS.le_sub_iff_of_le_convert_sub hsince
        (hlimit.trans (le_abs_self _))
      simpa [Statement.Lasted, Statement.waitsFrom, Statement.IsOnTime, Statement.nominal, OnTime,
        Option.mem_def.mp ht] using hiff
  | setPosition servo position =>
      simp [Statement.program, Statement.Lasted, Statement.waitsFrom, Statement.IsOnTime]
  | shutdownTfod =>
      simp [Statement.program, Statement.Lasted, Statement.waitsFrom, Statement.IsOnTime]

/-- **How long the waits of a run last.**  In every run of every autonomous program, on a clock that
never goes back and with the op mode active throughout, a wait that ended lasted its nominal time
exactly when it was on time; a settle wait and a wait after a reset always were. -/
theorem waits_last_iff {auto : Auto K} {runtime : ElapsedTime} {h : History (robot K)}
    {matchStart : ℤ} (hread : ReadSince matchStart h) (hcounts : auto.CountsFrom matchStart)
    {statement : Statement K} {time finish : ElapsedTime} {h' : History (robot K)}
    (hexec : Executes env hw fuel auto runtime h statement time start)
    (hrun : Program.run env (statement.program hw fuel time) start = (some finish, h')) :
    statement.Lasted (statement.waitsFrom matchStart (env start .nsNow) finish) h'
      ↔ statement.IsOnTime time (statement.waitsFrom matchStart (env start .nsNow) finish) h' :=
  wp_returns (wp_statement_lasted_iff hclock hactive (hexec.readSince hclock hread)
    (hexec.countsFrom hcounts)) hrun

end Waits

/-- A clock that is read every half second, but for one reading that comes a millisecond late. -/
def nextReading : Option ℤ → ℤ
  | none => 0
  | some t => 500000000 * (t / 500000000 + 1) + if t = 6500000000 then 999999 else 0

/-- A robot with that clock, whose motors are never busy. -/
def hastyRobot : Environment (robot ℝ)
  | _, .isBusy _ => false
  | _, .getCurrentPosition _ => 0
  | _, .opModeIsActive => true
  | h, .nsNow => nextReading (lastReading h)
  | _, .canCreateTFObjectDetector => false
  | _, .getUpdatedRecognitions => none

lemma clockRuns_hastyRobot : ClockRuns hastyRobot := by
  intro h t ht
  show t ≤ nextReading (lastReading h)
  rw [Option.mem_def.mp ht, nextReading]
  split_ifs <;> omega

/-- The blue foundation program after `Robot.init`, with `matchStartTime` zero. -/
noncomputable def foundationBody : Auto ℝ := BlueFoundationMove.body (0 : ℤ)

/-- The history at that moment. -/
noncomputable def foundationStart : History (robot ℝ) :=
  (Program.run hastyRobot BlueFoundationMove.start []).2

lemma readSince_foundationStart : ReadSince 500000000 foundationStart := ⟨_, rfl, le_rfl⟩

lemma foundationBody_countsFrom : foundationBody.CountsFrom 500000000 := by
  simp [foundationBody, BlueFoundationMove, Auto.steps, Auto.CountsFrom, Statement.CountsFrom,
    TimeUnit.convert, TimeUnit.nanos]

/-- The second gripper wait of that program lasts its half second. -/
theorem second_gripper_wait_lasts : ∃ time start h',
    Executes hastyRobot designosaurs 1 foundationBody ⟨0⟩ foundationStart (.waitDifference 500) time
        start
      ∧ Program.run hastyRobot ((Statement.waitDifference 500).program designosaurs 1 time) start
        = (some time, h')
      ∧ (Statement.waitDifference 500 : Statement ℝ).Lasted
          (some (hastyRobot start .nsNow)) h' := by
  have hexec : Executes hastyRobot designosaurs 1 foundationBody ⟨0⟩ foundationStart
      (.waitDifference 500) _ _ :=
    .later rfl (.later rfl (.later rfl (.later rfl (.later rfl (.later rfl (.later rfl .here))))))
  refine ⟨_, _, _, hexec, rfl, ?_⟩
  refine (waits_last_iff clockRuns_hastyRobot (fun _ => rfl) readSince_foundationStart
    foundationBody_countsFrom hexec rfl).mpr ?_
  rintro _ ⟨⟩
  exact ⟨_, rfl, .inr (by decide)⟩

/-- Its first gripper wait lasts a nanosecond more than 499 ms. -/
theorem gripper_wait_short :
    ¬ ∀ (env : Environment (robot ℝ)) (fuel : ℕ) (matchStart : ℤ) (runtime : ElapsedTime)
        (memory : ℤ) (h start h' : History (robot ℝ)) (statement : Statement ℝ)
        (time finish : ElapsedTime),
      ClockRuns env → (∀ h, env h .opModeIsActive = true) →
      Program.run env BlueFoundationMove.start [] = (some (runtime, memory), h) →
      ReadSince matchStart h → (BlueFoundationMove.body memory : Auto ℝ).CountsFrom matchStart →
      Executes env designosaurs fuel (BlueFoundationMove.body memory) runtime h statement time
        start →
      Program.run env (statement.program designosaurs fuel time) start = (some finish, h') →
      statement.Lasted (statement.waitsFrom matchStart (env start .nsNow) finish) h' := by
  intro hlasted
  have hrun := hlasted hastyRobot 1 500000000 ⟨0⟩ 0 foundationStart _ _ (.waitDifference 500) _ _
    clockRuns_hastyRobot (fun _ => rfl) rfl readSince_foundationStart foundationBody_countsFrom
    (.later rfl (.later rfl (.later rfl (.later rfl .here)))) rfl
  obtain ⟨t, ht, hle⟩ := hrun _ rfl
  have hend : some (7500000000 : ℤ) = some t := ht
  have hnominal : (500000000 : ℤ) ≤ t - 7000999999 := hle
  rw [Option.some.injEq] at hend
  omega

end Designosaurs
