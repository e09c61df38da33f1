import Designosaurs.Autonomous.Liveness

/-!
# What the waits leave of the thirty seconds

The waits of a program come on top of its drives: half a second to settle at the end of each, the
time for a gripper to close, and in the foundation programs a hold that lasts nearly to the end of
the period.  `earliest` adds them up, the hold against the clock and the others one after the other;
`Reaches.readSince_earliest` says that no run is ahead of that, and `timetable` has the sums for the
op modes of the source.
-/

namespace Designosaurs

open Interact

variable {K : Type}

/-- The earliest a statement can end that begins at `t`. -/
def Statement.due (matchStart : ℤ) : Statement K → ℤ → ℤ
  | .moveRTP _ _ _, t => t + 500 * TimeUnit.MILLISECONDS.nanos
  | .waitAfterReset millis, t => t + millis * TimeUnit.MILLISECONDS.nanos
  | .waitDifference millis, t => t + (millis - 1) * TimeUnit.MILLISECONDS.nanos
  | .hold _ seconds _, t => max t (matchStart + (seconds - 1) * TimeUnit.SECONDS.nanos)
  | .setPosition _ _, t => t
  | .shutdownTfod, t => t

/-- The earliest that a line of statements can be through. -/
def earliest (matchStart : ℤ) (script : List (Statement K)) (t : ℤ) : ℤ :=
  script.foldl (fun t statement => statement.due matchStart t) t

section Earliest

variable (matchStart t : ℤ)

@[simp] lemma earliest_nil : earliest matchStart ([] : List (Statement K)) t = t := rfl

@[simp] lemma earliest_cons (s : Statement K) (script : List (Statement K)) :
    earliest matchStart (s :: script) t = earliest matchStart script (s.due matchStart t) := rfl

/-- Shutting the detector down takes no fixed time. -/
@[simp] lemma earliest_shutdown (tfod : Bool) :
    earliest matchStart (shutdown tfod : List (Statement K)) t = t := by
  cases tfod <;> rfl

end Earliest

section Runs

variable [Field K] [LinearOrder K] [FloorRing K] {env : Environment (robot K)}
  {hw : HardwareDesignosaurs K} {fuel : ℕ} {matchStart since : ℤ} (hclock : ClockRuns env)
  (hactive : ∀ h, env h .opModeIsActive = true)

include hclock hactive

omit [Field K] [LinearOrder K] [FloorRing K] hactive in
/-- A timer that is reset now starts no earlier than the newest reading. -/
lemma wp_reset_since {R : History (robot K) → Prop} {h : History (robot K)}
    (hread : ReadSince since h) :
    wp env ElapsedTime.reset
      (fun time h' => since ≤ time.nsStartTime ∧ ReadSince time.nsStartTime h') R h := by
  obtain ⟨t, ht, hsince⟩ := hread
  exact ⟨hsince.trans (hclock h t ht), _, rfl, le_rfl⟩

omit [Field K] [LinearOrder K] [FloorRing K] in
/-- And a wait on it ends no earlier than its time after that. -/
lemma wp_timeIn_due {time : ElapsedTime} (millis : ℤ) (report : RobotProgram K Unit)
    {h : History (robot K)} (htime : since ≤ time.nsStartTime ∧ ReadSince time.nsStartTime h) :
    wp env (waitWhile (time.timeIn .MILLISECONDS) millis report fuel)
      (fun _ => ReadSince (since + millis * TimeUnit.MILLISECONDS.nanos)) (fun _ => True) h := by
  refine wp_mono (fun _ h' hend => ?_) (fun _ => id)
    (wp_waitWhile_timeIn hclock hactive time millis report fuel htime.2)
  obtain ⟨t, ht, hlasted⟩ := hend
  exact ⟨t, ht, by linarith [htime.1]⟩

/-- **No statement ends before it is due.** -/
lemma wp_statement_due {statement : Statement K} (hcounts : statement.CountsFrom matchStart)
    (time : ElapsedTime) {h : History (robot K)} (hmatch : ReadSince matchStart h)
    (hread : ReadSince since h) :
    wp env (statement.program hw fuel time)
      (fun _ => ReadSince (statement.due matchStart since)) (fun _ => True) h := by
  have hkeeps : ∀ {α : Type} (p : RobotProgram K α) h', ReadSince since h' →
      wp env p (fun _ => ReadSince since) (fun _ => True) h' := fun p h' hh' =>
    wp_mono (fun _ _ => id) (fun _ _ => trivial) (keeps_readSince hclock since p h' hh')
  cases statement with
  | moveRTP direction maxSpeed distance =>
      refine wp_seq (hkeeps _ h hread) fun s h₁ hread₁ => ?_
      refine wp_seq (hkeeps _ h₁ hread₁) fun _ h₂ hread₂ => ?_
      refine wp_seq (wp_reset_since hclock hread₂) fun time h₃ htime => ?_
      refine wp_seq (wp_timeIn_due hclock hactive 500 _ htime) fun _ h₄ hread₄ => ?_
      simp only [setPowers, restoreDirections, wp_bind, wp_command, wp_done]
      exact hread₄
  | waitAfterReset millis =>
      refine wp_seq (wp_reset_since hclock hread) fun time h₁ htime => ?_
      exact wp_seq (wp_timeIn_due hclock hactive millis _ htime) fun _ _ => id
  | waitDifference millis =>
      obtain ⟨t₀, ht₀, hsince⟩ := hread
      have hnow : t₀ ≤ env h .nsNow := hclock h t₀ ht₀
      have hstart : ReadSince (env h .nsNow) (.answer .nsNow (env h .nsNow) :: h) :=
        ⟨_, rfl, le_rfl⟩
      show wp env (do
        waitWhile (do return |(← time.timeIn .MILLISECONDS)
            - TimeUnit.MILLISECONDS.convert (env h .nsNow - time.nsStartTime)|) millis
          (showReading "time elapsed" (time.timeIn .MILLISECONDS)) fuel
        return time) _ _ (.answer .nsNow (env h .nsNow) :: h)
      refine wp_seq (wp_waitWhile hclock hactive
        (fun now => |TimeUnit.MILLISECONDS.convert (now - time.nsStartTime)
          - TimeUnit.MILLISECONDS.convert (env h .nsNow - time.nsStartTime)|) millis
        (showReading "time elapsed" (time.timeIn .MILLISECONDS)) fuel hstart)
        fun _ h' hend => ?_
      obtain ⟨t, ht, hfirst, hlimit⟩ := hend
      have hlasted := TimeUnit.MILLISECONDS.lt_sub_of_le_convert_sub
        (sub_le_sub_right hfirst time.nsStartTime) hlimit
      rw [sub_sub_sub_cancel_right] at hlasted
      refine ⟨t, ht, ?_⟩
      simp only [Statement.due]
      omega
  | hold matchStartTime seconds caption =>
      obtain rfl : matchStartTime = TimeUnit.SECONDS.convert matchStart := hcounts
      refine wp_seq (wp_mono (fun _ _ => id) (fun _ _ => trivial) (wp_conj (wp_waitWhile hclock
        hactive (fun now => TimeUnit.SECONDS.convert now - TimeUnit.SECONDS.convert matchStart)
        seconds _ fuel hmatch) (keeps_readSince hclock since _ h hread))) fun _ h' hend => ?_
      obtain ⟨⟨t, ht, hfirst, hlimit⟩, t', ht', hsince⟩ := hend
      obtain rfl : t = t' := Option.mem_unique ht ht'
      have hlasted := TimeUnit.SECONDS.lt_sub_of_le_convert_sub hfirst
        (hlimit.trans (le_abs_self _))
      exact ⟨t, ht, max_le hsince (by omega)⟩
  | setPosition servo position => exact hkeeps _ h hread
  | shutdownTfod => exact hkeeps _ h hread

/-- **No run is ahead of the earliest.** -/
theorem Reaches.readSince_earliest {auto rest : Auto K} {runtime time : ElapsedTime}
    {h start : History (robot K)} {past : List (Statement K)}
    (hcounts : auto.CountsFrom matchStart) (hmatch : ReadSince matchStart h)
    (hread : ReadSince since h)
    (hreach : Reaches env hw fuel auto runtime h past rest time start) :
    ReadSince (earliest matchStart past since) start := by
  induction hreach generalizing since with
  | here => exact hread
  | @later first next rest past runtime runtime' time h h' start hrun _ ih =>
      have hdue : ReadSince (first.due matchStart since) h' :=
        wp_returns (Q := fun _ => ReadSince (first.due matchStart since))
          (wp_statement_due hclock hactive hcounts.1 runtime hmatch hread) hrun
      exact ih hcounts.2 ((keeps_readSince hclock matchStart _).returns hmatch hrun) hdue
  | seen hrun _ ih =>
      exact ih (hcounts _) ((keeps_readSince hclock matchStart _).returns hmatch hrun)
        ((keeps_readSince hclock since _).returns hread hrun)

end Runs

/-! ## The op modes -/

/-- The op modes, and how many milliseconds they cannot do without. -/
def timetable [Field K] [LinearOrder K] : List (OpMode K × ℤ) := [
  (ParkingAuto, 500),
  (MoveRTPTest, 2000),
  (BlueFoundationMove, 25500),
  (RedFoundationMove, 25500),
  (BlueSkystoneAuto, 8200),
  (RedSkystoneAuto, 8200),
  (BlueSkystoneAutoOneBlock, 6000),
  (RedSkystoneAutoOneBlock, 6000)]

section OpModes

variable [Field K] [LinearOrder K] {env : Environment (robot K)} {matchStart first millis : ℤ}

/-- The numbers of the source add up to the timetable, on every branch. -/
lemma timetable_earliest {op : OpMode K} (hop : (op, millis) ∈ timetable) (memory : op.Memory)
    {script : List (Statement K)} (hscript : (op.body memory).Scripts script)
    (hfirst : first ≤ matchStart) :
    first + millis * TimeUnit.MILLISECONDS.nanos ≤ earliest matchStart script first := by
  simp only [timetable, List.mem_cons, Prod.mk.injEq, List.not_mem_nil, or_false] at hop
  rcases hop with ⟨rfl, rfl⟩ | ⟨rfl, rfl⟩ | ⟨rfl, rfl⟩ | ⟨rfl, rfl⟩ | ⟨rfl, rfl⟩ | ⟨rfl, rfl⟩ |
    ⟨rfl, rfl⟩ | ⟨rfl, rfl⟩
  iterate 4
    · simp only [ParkingAuto, MoveRTPTest, BlueFoundationMove, RedFoundationMove,
        Auto.scripts_steps_iff, Auto.scripts_done_iff] at hscript
      obtain ⟨_, rfl, rfl⟩ := hscript
      simp only [List.append_nil, earliest_cons, earliest_nil, Statement.due, TimeUnit.nanos]
      omega
  iterate 4
    · change Bool at memory
      simp only [BlueSkystoneAuto, RedSkystoneAuto, BlueSkystoneAutoOneBlock,
        RedSkystoneAutoOneBlock, BlueSkystoneAuto.classifier, RedSkystoneAuto.classifier,
        BlueSkystoneAutoOneBlock.classifier, RedSkystoneAutoOneBlock.classifier,
        Auto.scripts_steps_iff, Auto.scripts_detect_iff, Auto.scripts_done_iff,
        Classifier.Answers] at hscript
      obtain ⟨_, ⟨pos, hpos, _, rfl, rfl⟩, rfl⟩ := hscript
      rcases hpos with rfl | rfl | rfl
      iterate 3
        · simp only [byPos, if_true, if_false, one_ne_zero, OfNat.ofNat_ne_zero,
            OfNat.ofNat_ne_one, List.cons_append, List.nil_append, List.append_nil, earliest_cons,
            earliest_shutdown, Statement.due, TimeUnit.nanos]
          omega

omit [LinearOrder K] in
/-- What an op mode is going to hold by is read after its first reading. -/
lemma wp_start_countsFrom (hclock : ClockRuns env) {op : OpMode K} (hop : op ∈ opModes) :
    wp env op.start (fun s h => ∃ matchStart, env [] .nsNow ≤ matchStart ∧ ReadSince matchStart h
      ∧ ReadSince (env [] .nsNow) h ∧ (op.body s.2).CountsFrom matchStart) (fun _ => True) [] := by
  rcases foundation_or_countsFrom hop with hfoundation | hcounts
  · have hlater : ∀ (h : History (robot K)), lastReading h = some (env [] .nsNow) →
        env [] .nsNow ≤ env h .nsNow := fun h hh => hclock h _ hh
    rcases hfoundation with rfl | rfl <;>
      simp only [OpMode.start, BlueFoundationMove, RedFoundationMove, ElapsedTime.reset,
        ElapsedTime.now, init, wp_bind, wp_ask, wp_command, wp_done, wp_pure] <;>
      exact ⟨_, hlater _ rfl, ⟨_, rfl, le_rfl⟩, ⟨_, rfl, hlater _ rfl⟩,
        by simp [Auto.steps, Auto.CountsFrom, Statement.CountsFrom]⟩
  · have hread : wp env op.start (fun _ => ReadSince (env [] .nsNow)) (fun _ => True) [] := by
      refine wp_seq (M := fun _ => ReadSince (env [] .nsNow)) ⟨_, rfl, le_rfl⟩ fun _ h₁ hread₁ => ?_
      exact wp_mono (fun _ _ => id) (fun _ _ => trivial) (keeps_readSince hclock _ _ h₁ hread₁)
    exact wp_mono (fun s h hh => ⟨_, le_rfl, hh, hh, hcounts s.2 _⟩) (fun _ => id) hread

variable [FloorRing K]

/-- **The op modes keep their timetable.**  With the op mode active throughout, on a clock that
never goes back, a run that returns has taken the time of the timetable, from its first clock
reading to its last, whatever the camera and the motors answer. -/
theorem op_modes_keep_timetable {op : OpMode K} (hop : (op, millis) ∈ timetable)
    (hclock : ClockRuns env) (hactive : ∀ h, env h .opModeIsActive = true)
    (hw : HardwareDesignosaurs K) (fuel : ℕ) {finish : History (robot K)}
    (hrun : Program.run env (op.runOpMode hw fuel) [] = (some (), finish)) :
    ReadSince (env [] .nsNow + millis * TimeUnit.MILLISECONDS.nanos) finish := by
  have hmem : op ∈ opModes := by
    have hmap : timetable.map Prod.fst = (opModes : List (OpMode K)) := rfl
    exact hmap ▸ List.mem_map_of_mem hop
  obtain ⟨past, time, runtime, memory, h, hstart, hreach⟩ := OpMode.reaches_of_run hrun
  obtain ⟨matchStart, hfirst, hmatch, hread, hcounts⟩ :=
    wp_returns (wp_start_countsFrom hclock hmem) hstart
  have hscript : (op.body memory).Scripts past := by simpa using hreach.scripts .done
  obtain ⟨t, ht, hdue⟩ :=
    hreach.readSince_earliest hclock hactive hcounts hmatch hread
  exact ⟨t, ht, (timetable_earliest hop memory hscript hfirst).trans hdue⟩

end OpModes

/-- The parking program takes half a second on a robot that is there at once. -/
theorem parking_keeps_timetable : ∃ finish,
    Program.run promptRobot (ParkingAuto.runOpMode designosaurs 2) [] = (some (), finish)
      ∧ ReadSince 500000000 finish := by
  have hop : ((ParkingAuto, 500) : OpMode ℝ × ℤ) ∈ timetable := by simp [timetable]
  exact ⟨_, rfl, op_modes_keep_timetable hop clockTicks_promptRobot.runs (fun _ => rfl)
    designosaurs 2 rfl⟩

end Designosaurs
