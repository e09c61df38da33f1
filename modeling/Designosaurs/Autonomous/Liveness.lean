import Designosaurs.Autonomous.Script
import Designosaurs.Autonomous.Waits

/-!
# The op modes come to an end

Nothing in the code bounds its loops: a drive loop goes on until a wheel says that it is not busy,
a wait until the clock has come far enough.  `runOpMode_returns` says what the robot has to do for
its part.  If the clock ticks, and one of the four wheels says at most `limit` times after a reset
of its encoder that it is busy, then every op mode of the source returns, and the fuel it takes
bounds the rounds of each of its loops.

The variant of a drive loop is what is left to that wheel, the variant of a wait what is left on the
clock.
-/

namespace Designosaurs

open Interact

variable {K : Type}

/-- How many times a wheel has said that it is busy since its encoder was reset. -/
def busyAnswers (wheel : Wheel) : History (robot K) → ℕ
  | [] => 0
  | .answer (.isBusy (.drive w)) true :: h =>
      if w = wheel then busyAnswers wheel h + 1 else busyAnswers wheel h
  | .command (.setMode (.drive w) .STOP_AND_RESET_ENCODER) :: h =>
      if w = wheel then 0 else busyAnswers wheel h
  | _ :: h => busyAnswers wheel h

/-- The wheel arrives: after a reset it says at most `limit` times that it is busy. -/
def Arrives (env : Environment (robot K)) (wheel : Wheel) (limit : ℕ) : Prop :=
  ∀ h, env h (.isBusy (.drive wheel)) = true → busyAnswers wheel h < limit

section Drive

variable {env : Environment (robot K)} {wheel : Wheel} {limit : ℕ}

/-- The wheels `asked` were asked since `start`, and said that they are busy. -/
def Busy (wheel : Wheel) (limit : ℕ) (start : History (robot K)) (asked : List Wheel)
    (h : History (robot K)) : Prop :=
  busyAnswers wheel h = busyAnswers wheel start + asked.count wheel
    ∧ (wheel ∈ asked → busyAnswers wheel start < limit)

lemma wp_isBusy (harrives : Arrives env wheel limit) (w : Wheel) {asked : List Wheel}
    {start h : History (robot K)}
    (hasked : Busy wheel limit start asked h) :
    wp env (isBusy (.drive w)) (fun busy h' => busy = true →
      Busy wheel limit start (w :: asked) h') (fun _ => False) h := by
  obtain ⟨hcount, hlimit⟩ := hasked
  intro hbusy
  have harrives' : w = wheel → busyAnswers wheel h < limit := by
    rintro rfl
    exact harrives h hbusy
  rw [hbusy]
  by_cases hw : w = wheel
  · refine ⟨?_, fun _ => by have := harrives' hw; omega⟩
    rw [busyAnswers, if_pos hw, hcount, hw, List.count_cons_self, Nat.add_assoc]
  · refine ⟨?_, fun hmem => hlimit ((List.mem_cons.mp hmem).resolve_left (Ne.symm hw))⟩
    rw [busyAnswers, if_neg hw, hcount, List.count_cons_of_ne hw]

/-- A round of the drive loop is one more of the answers that the wheel has. -/
lemma wp_driveGuard_busyAnswers (harrives : Arrives env wheel limit) (start : History (robot K)) :
    wp env driveGuard (fun go h' => go = true →
      busyAnswers wheel start < limit ∧ busyAnswers wheel h' = busyAnswers wheel start + 1)
      (fun _ => False) start := by
  have hnone : Busy wheel limit start [] start := ⟨rfl, by simp⟩
  refine wp_and_true (M := Busy wheel limit start [.backLeft, .backRight, .frontLeft, .frontRight])
    ?_ fun h hasked => ?_
  · have hfl := wp_and_true (wp_isBusy harrives .frontRight hnone)
      fun _ => wp_isBusy harrives .frontLeft
    have hbr := wp_and_true hfl fun _ => wp_isBusy harrives .backRight
    exact wp_and_true hbr fun _ => wp_isBusy harrives .backLeft
  · intro _
    obtain ⟨hcount, hlimit⟩ := hasked
    refine ⟨hlimit (by cases wheel <;> simp), hcount.trans ?_⟩
    cases wheel <;> rfl

variable [Field K]

/-- The other calls of the drive loop are no answers of a wheel. -/
lemma wp_driveBody_busyAnswers [LinearOrder K] (wheel : Wheel) (d : DriveLoop K)
    (time : ElapsedTime) (s : RampState K) (h : History (robot K)) :
    wp env (driveBody d time s) (fun _ h' => busyAnswers wheel h' = busyAnswers wheel h)
      (fun _ => False) h := by
  simp [driveBody, ElapsedTime.time, setPowers, showDrive, busyAnswers]

/-- **The drive loop ends** when the wheel has arrived, if not before. -/
lemma wp_driveLoop_returns [LinearOrder K] (harrives : Arrives env wheel limit) (d : DriveLoop K)
    (time : ElapsedTime) {fuel : ℕ} (hfuel : limit < fuel) (h : History (robot K)) :
    wp env (driveLoop d time fuel) (fun _ _ => True) (fun _ => False) h := by
  refine wp_whileLoop_variant (fun _ _ => True) (fun _ h => limit - busyAnswers wheel h)
    (fun s h _ => ?_) fuel _ h trivial (by omega)
  refine wp_mono ?_ (fun _ => id) (wp_driveGuard_busyAnswers harrives h)
  rintro (_ | _) h₁ hround
  · trivial
  · obtain ⟨hlimit, hround⟩ := hround rfl
    rw [if_pos rfl]
    refine wp_mono (fun _ h₂ hbody => ⟨trivial, ?_⟩) (fun _ => id)
      (wp_driveBody_busyAnswers wheel d time s h₁)
    omega

end Drive

/-! ## Waits -/

section Wait

variable {env : Environment (robot K)} (hticks : ClockTicks env)

include hticks

/-- A wait on a timer ends. -/
lemma wp_waitWhile_timeIn_returns (time : ElapsedTime) (millis : ℤ) {caption : String}
    {shown : RobotProgram K ℤ} (hshown : ∀ h, wp env shown (fun _ _ => True) (fun _ => False) h)
    {fuel : ℕ} (hfuel : ((millis + 2) * 1000000).toNat < fuel) {h : History (robot K)}
    (hread : ReadSince time.nsStartTime h) :
    wp env (waitWhile (time.timeIn .MILLISECONDS) millis (showReading caption shown) fuel)
      (fun _ _ => True) (fun _ => False) h := by
  refine wp_waitWhile_returns hticks
    (fun now => TimeUnit.MILLISECONDS.convert (now - time.nsStartTime)) millis
    (time.nsStartTime + (millis + 2) * 1000000) (fun t ht => ?_) (fun h => ?_) hread (by omega)
  · have hlasted : (millis + 2) * TimeUnit.MILLISECONDS.nanos ≤ t - time.nsStartTime - 0 := by
      simp only [TimeUnit.nanos]
      omega
    simpa [TimeUnit.convert] using TimeUnit.le_convert_sub_of_le_sub _ hlasted
  · simp [showReading, hshown]

end Wait

/-! ## Statements and programs -/

section Program

variable [Field K] [LinearOrder K] [FloorRing K] {env : Environment (robot K)}
  (hw : HardwareDesignosaurs K) {wheel : Wheel} {limit fuel : ℕ} {matchStart : ℤ}
  {h : History (robot K)}

/-- The fuel that a run can take: as much as the longest drive takes rounds, and the longest wait
nanoseconds. -/
structure EnoughFuel (limit fuel : ℕ) : Prop where
  drive : limit < fuel
  wait : 28000000000 < fuel

/-- A call returns, known direction or not. -/
lemma wp_moveRTP_returns (hticks : ClockTicks env) (harrives : Arrives env wheel limit)
    (hfuel : EnoughFuel limit fuel) (direction : StringRef) (maxSpeed distance : K) :
    wp env (moveRTP hw fuel direction maxSpeed distance) (fun _ _ => True) (fun _ => False) h := by
  refine wp_seq (wp_prepare_returns env hw direction distance h) fun s h₁ _ => ?_
  refine wp_seq (wp_driveLoop_returns harrives _ s.1 hfuel.drive h₁) fun _ h₂ _ => ?_
  refine wp_seq (M := fun time => ReadSince time.nsStartTime) ⟨_, rfl, le_rfl⟩
    fun time h₃ hread => ?_
  have hwait := hfuel.wait
  refine wp_seq (wp_waitWhile_timeIn_returns hticks time 500 ?_ (by omega) hread) fun _ h₄ _ => ?_
  · simp [ElapsedTime.timeIn]
  · simp [setPowers, restoreDirections]

/-- **Every statement returns.** -/
lemma wp_statement_returns (hticks : ClockTicks env) (harrives : Arrives env wheel limit)
    (hfuel : EnoughFuel limit fuel) {statement : Statement K} (hsound : statement.Sound)
    (hcounts : statement.CountsFrom matchStart) (time : ElapsedTime)
    (hread : ReadSince matchStart h) :
    wp env (statement.program hw fuel time) (fun _ _ => True) (fun _ => False) h := by
  have hwait := hfuel.wait
  cases statement with
  | moveRTP direction maxSpeed distance =>
      exact wp_moveRTP_returns hw hticks harrives hfuel direction maxSpeed distance
  | waitAfterReset millis =>
      obtain ⟨h0, hle⟩ := hsound
      refine wp_seq (M := fun time => ReadSince time.nsStartTime) ⟨_, rfl, le_rfl⟩
        fun time h₁ hread₁ => ?_
      refine wp_seq (wp_waitWhile_timeIn_returns hticks time millis ?_ (by omega) hread₁)
        fun _ _ _ => trivial
      simp [ElapsedTime.timeIn]
  | waitDifference millis =>
      obtain ⟨h0, hle⟩ := hsound
      show wp env (do
        waitWhile (do return |(← time.timeIn .MILLISECONDS)
            - TimeUnit.MILLISECONDS.convert (env h .nsNow - time.nsStartTime)|) millis
          (showReading "time elapsed" (time.timeIn .MILLISECONDS)) fuel
        return time) _ _ (.answer .nsNow (env h .nsNow) :: h)
      have hfirst : ReadSince (env h .nsNow) (.answer .nsNow (env h .nsNow) :: h) :=
        ⟨_, rfl, le_rfl⟩
      refine wp_seq (wp_waitWhile_returns hticks
        (fun now => |TimeUnit.MILLISECONDS.convert (now - time.nsStartTime)
          - TimeUnit.MILLISECONDS.convert (env h .nsNow - time.nsStartTime)|) millis
        (env h .nsNow + (millis + 2) * 1000000) (fun t ht => ?_) (fun h => ?_) hfirst (by omega))
        fun _ _ _ => trivial
      · refine (TimeUnit.le_convert_sub_of_le_sub _ ?_).trans (le_abs_self _)
        simp only [TimeUnit.nanos]
        omega
      · simp [showReading, ElapsedTime.timeIn]
  | hold matchStartTime seconds caption =>
      obtain ⟨h0, hle⟩ := hsound
      obtain rfl : matchStartTime = TimeUnit.SECONDS.convert matchStart := hcounts
      refine wp_seq (wp_waitWhile_returns hticks
        (fun now => TimeUnit.SECONDS.convert now - TimeUnit.SECONDS.convert matchStart) seconds
        (matchStart + (seconds + 2) * 1000000000) (fun t ht => ?_) (fun h => ?_) hread (by omega))
        fun _ _ _ => trivial
      · refine TimeUnit.le_convert_sub_of_le_sub _ ?_
        simp only [TimeUnit.nanos]
        omega
      · simp [showReading, ElapsedTime.timeIn]
  | setPosition servo position => simp [Statement.program]
  | shutdownTfod => simp [Statement.program]

/-- **Any program of sound statements returns**, by induction on it. -/
lemma wp_auto_returns (hticks : ClockTicks env) (harrives : Arrives env wheel limit)
    (hfuel : EnoughFuel limit fuel) {auto : Auto K} (hsound : auto.Every Statement.Sound)
    (hcounts : auto.CountsFrom matchStart) (time : ElapsedTime) (hread : ReadSince matchStart h) :
    wp env (auto.program hw fuel time) (fun _ _ => True) (fun _ => False) h := by
  induction auto generalizing time h with
  | done => trivial
  | step statement next ih =>
      have hreturns := wp_statement_returns hw hticks harrives hfuel hsound.1 hcounts.1 time hread
      refine wp_seq (wp_mono (fun _ _ => And.right) (fun _ => And.left)
        (wp_conj hreturns (keeps_readSince hticks.runs matchStart _ h hread))) ?_
      exact fun time h' hread' => ih hsound.2 hcounts.2 time hread'
  | detect classifier tfod next ih =>
      refine wp_seq (wp_mono (fun _ _ => And.right) (fun _ => And.left)
        (wp_conj (classifier.wp_detect_answers tfod h)
          (keeps_readSince hticks.runs matchStart _ h hread))) ?_
      exact fun pos h' hread' => ih pos (hsound pos) (hcounts pos) time hread'

/-! ## Op modes -/

omit [Field K] [LinearOrder K] [FloorRing K] in
lemma countsFrom_iff_every {auto : Auto K} :
    auto.CountsFrom matchStart ↔ auto.Every (Statement.CountsFrom matchStart) := by
  induction auto with
  | done => exact Iff.rfl
  | step statement next ih => exact and_congr_right fun _ => ih
  | detect classifier tfod next ih => exact forall_congr' ih

omit [LinearOrder K] [FloorRing K] in
/-- No op mode holds but the foundation programs. -/
lemma foundation_or_countsFrom {op : OpMode K} (hop : op ∈ opModes) :
    (op = BlueFoundationMove ∨ op = RedFoundationMove)
      ∨ ∀ memory matchStart, (op.body memory).CountsFrom matchStart := by
  simp only [opModes, List.mem_cons, List.not_mem_nil, or_false] at hop
  simp only [countsFrom_iff_every]
  rcases hop with rfl | rfl | rfl | rfl | rfl | rfl | rfl | rfl
  · exact .inr fun _ _ => by simp [ParkingAuto, Auto.every_steps, Auto.Every, Statement.CountsFrom]
  · exact .inr fun _ _ => by simp [MoveRTPTest, Auto.every_steps, Auto.Every, Statement.CountsFrom]
  · exact .inl (.inl rfl)
  · exact .inl (.inr rfl)
  iterate 4
    · refine .inr fun memory matchStart => ?_
      simp only [BlueSkystoneAuto, RedSkystoneAuto, BlueSkystoneAutoOneBlock,
        RedSkystoneAutoOneBlock, Auto.every_steps, Auto.Every, List.forall_mem_append,
        forall_mem_byPos_iff, shutdown]
      simp [Statement.CountsFrom]

omit [LinearOrder K] [FloorRing K] in
/-- Up to `Robot.init` an op mode returns, and it has read the clock. -/
lemma wp_start_read (hticks : ClockTicks env) {op : OpMode K} (hop : op ∈ opModes) :
    wp env op.start (fun _ h => ∃ matchStart, ReadSince matchStart h) (fun _ => False) [] := by
  have hsetup : ∀ h, wp env op.setup (fun _ _ => True) (fun _ => False) h := by
    simp only [opModes, List.mem_cons, List.not_mem_nil, or_false] at hop
    rcases hop with rfl | rfl | rfl | rfl | rfl | rfl | rfl | rfl
    iterate 4
      · simp [ParkingAuto, MoveRTPTest, BlueFoundationMove, RedFoundationMove, ElapsedTime.now]
    iterate 4
      · intro h
        cases htfod : env h .canCreateTFObjectDetector <;>
          simp [BlueSkystoneAuto, RedSkystoneAuto, BlueSkystoneAutoOneBlock,
            RedSkystoneAutoOneBlock, initVision, Program.when, htfod]
  have hkeeps : ∀ {α : Type} (p : RobotProgram K α), Keeps env (ReadSince (env [] .nsNow)) p :=
    fun p => keeps_readSince hticks.runs _ p
  refine wp_seq (M := fun _ => ReadSince (env [] .nsNow)) ⟨_, rfl, le_rfl⟩ fun _ h₁ hread₁ => ?_
  refine wp_seq (wp_mono (fun _ _ => And.right) (fun _ => And.left)
    (wp_conj (hsetup h₁) (hkeeps _ h₁ hread₁))) fun _ h₂ hread₂ => ?_
  have hinit : wp env init (fun _ _ => True) (fun _ => False) h₂ := by simp [init]
  exact wp_seq (wp_mono (fun _ _ => And.right) (fun _ => And.left)
    (wp_conj hinit (hkeeps _ h₂ hread₂))) fun _ h₃ hread₃ => ⟨_, hread₃⟩

omit [LinearOrder K] [FloorRing K] in
/-- Up to `Robot.init` an op mode returns; and where it is going to hold, it counts from a reading
that it has taken. -/
lemma wp_start_returns (hticks : ClockTicks env) {op : OpMode K} (hop : op ∈ opModes) :
    wp env op.start (fun s h => ∃ matchStart, ReadSince matchStart h
      ∧ (op.body s.2).CountsFrom matchStart) (fun _ => False) [] := by
  rcases foundation_or_countsFrom hop with hfoundation | hcounts
  · exact foundation_countsFrom env _ hfoundation
  · refine wp_mono (fun s h => ?_) (fun _ => id) (wp_start_read hticks hop)
    rintro ⟨matchStart, hread⟩
    exact ⟨matchStart, hread, hcounts s.2 matchStart⟩

/-- No run of an op mode of the source runs out of fuel. -/
lemma wp_runOpMode_returns [IsStrictOrderedRing K] {op : OpMode K} (hop : op ∈ opModes)
    (hticks : ClockTicks env) (harrives : Arrives env wheel limit) (hfuel : EnoughFuel limit fuel) :
    wp env (op.runOpMode hw fuel) (fun _ _ => True) (fun _ => False) [] := by
  refine wp_seq (wp_start_returns hticks hop) fun start h hh => ?_
  obtain ⟨matchStart, hread, hcounts⟩ := hh
  exact wp_auto_returns hw hticks harrives hfuel (opModes_sound hop start.2) hcounts start.1 hread

/-- **The op modes come to an end.**  On a clock that ticks, and with one wheel that says at most
`limit` times after a reset that it is busy, every op mode of the source returns, whatever else is
answered: fuel for that many rounds of a drive, and for the longest wait, is enough. -/
theorem runOpMode_returns [IsStrictOrderedRing K] {op : OpMode K} (hop : op ∈ opModes)
    (hticks : ClockTicks env) (harrives : Arrives env wheel limit) (hfuel : EnoughFuel limit fuel) :
    ∃ finish, Program.run env (op.runOpMode hw fuel) [] = (some (), finish) := by
  obtain ⟨_, finish, hrun, -⟩ :=
    exists_run_of_wp (wp_runOpMode_returns hw hop hticks harrives hfuel)
  exact ⟨finish, hrun⟩

end Program

/-- A robot whose motors say ten thousand times that they are busy. -/
def patientRobot : Environment (robot ℝ)
  | h, .isBusy (.drive wheel) => decide (busyAnswers wheel h < 10000)
  | h, query => promptRobot h query

/-- On it the blue skystone program returns. -/
theorem skystone_returns : ∃ finish, Program.run patientRobot
    (BlueSkystoneAuto.runOpMode designosaurs 28000000001) [] = (some (), finish) := by
  have harrives : Arrives patientRobot .frontRight 10000 := fun _ => of_decide_eq_true
  have hfuel : EnoughFuel 10000 28000000001 := ⟨by norm_num, by norm_num⟩
  exact runOpMode_returns designosaurs (by simp [opModes]) clockTicks_promptRobot harrives hfuel

end Designosaurs
