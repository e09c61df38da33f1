import Designosaurs.Autonomous.Odometry

/-!
# Where the op modes bring the stones

The skystone programs do something else for each position the camera can answer with: other
distances to the first stone, back, to the second one and back again, some twenty numbers a program.
`itineraries` says what they add up to: for each servo command the rectangle in which it happens,
and the rectangle in which the run ends, whatever the camera has answered.

`op_modes_keep_itinerary` carries that from the numbers of the source to the runs, through the
odometers of the wheels.
-/

namespace Designosaurs

open Interact Route

/-- A servo command, and the rectangle it is meant to happen in: inches forward of the start, and
inches to the right of it. -/
structure Stop where
  act : Servo × ℝ
  lo : ℝ × ℝ
  hi : ℝ × ℝ

/-- The servo commands of an op mode, and the rectangle it ends in. -/
structure Itinerary where
  stops : List Stop
  parkLo : ℝ × ℝ
  parkHi : ℝ × ℝ

/-- What a plan has to do with its itinerary. -/
structure Itinerary.Covers (itinerary : Itinerary) (plan : List (Step (ℝ × ℝ) (Servo × ℝ))) : Prop
    where
  stops : ∀ entry ∈ acts 0 plan,
    ∃ stop ∈ itinerary.stops, stop.act = entry.1 ∧ entry.2 ∈ Set.Icc stop.lo stop.hi
  park : displacement plan ∈ Set.Icc itinerary.parkLo itinerary.parkHi

/-- The autonomous op modes and their itineraries. -/
noncomputable def itineraries : List (OpMode ℝ × Itinerary) := [
  (ParkingAuto, ⟨[], (0, -6.0), (0, -6.0)⟩),
  (MoveRTPTest, ⟨[], (0, 0), (0, 0)⟩),
  (BlueFoundationMove, ⟨[
    ⟨(.foundationGripper, 1), (-34.0, 12.0), (-34.0, 12.0)⟩,
    ⟨(.foundationGripper, 0), (0, 12.0), (0, 12.0)⟩], (0, -24.0), (0, -24.0)⟩),
  (RedFoundationMove, ⟨[
    ⟨(.foundationGripper, 1), (-34.0, -12.0), (-34.0, -12.0)⟩,
    ⟨(.foundationGripper, 0), (0, -12.0), (0, -12.0)⟩], (0, 24.0), (0, 24.0)⟩),
  (BlueSkystoneAuto, ⟨[
    ⟨(.leftGripper, 1), (-26.5, -19.5), (-26.5, 10.5)⟩,
    ⟨(.leftGripper, 0), (-18.5, 40.5), (-17.5, 43.0)⟩], (-18.5, 30.0), (-18.5, 31.0)⟩),
  (RedSkystoneAuto, ⟨[
    ⟨(.rightGripper, 0.05), (-26.5, -12.0), (-24.5, 19.5)⟩,
    ⟨(.rightGripper, 1), (-17.5, -45.0), (-16.5, -42.5)⟩], (-16.5, -33.0), (-16.5, -30.5)⟩),
  (BlueSkystoneAutoOneBlock, ⟨[
    ⟨(.leftGripper, 1), (-30.25, -2.25), (-29.75, 9.75)⟩,
    ⟨(.leftGripper, 0), (-21.25, 40.75), (-20.75, 42.25)⟩], (-30.25, 25.75), (-29.75, 27.25)⟩),
  (RedSkystoneAutoOneBlock, ⟨[
    ⟨(.rightGripper, 0.05), (-30.2, -11.5), (-30.05, 0.45)⟩,
    ⟨(.rightGripper, 1), (-21.2, -41.0), (-21.05, -39.55)⟩], (-31.2, -29.0), (-31.05, -27.55)⟩)]

/-! ## From the numbers of the source to the plan -/

-- the four literals, for `simp` to read a line of statements

@[simp] lemma ofString_forward : Heading.ofString (.literal "forward") = some .forward := rfl

@[simp] lemma ofString_backward : Heading.ofString (.literal "backward") = some .backward := rfl

@[simp] lemma ofString_left : Heading.ofString (.literal "left") = some .left := rfl

@[simp] lemma ofString_right : Heading.ofString (.literal "right") = some .right := rfl

@[simp] lemma course_shutdown {V : Type} (f : Heading → ℝ → V) (tfod : Bool) :
    (shutdown tfod).flatMap (Statement.course f) = [] := by
  cases tfod <;> rfl

/-- **The numbers of the source add up to the itineraries**, on every branch. -/
theorem itinerary_covers {op : OpMode ℝ} {itinerary : Itinerary}
    (hop : (op, itinerary) ∈ itineraries) (memory : op.Memory) {script : List (Statement ℝ)}
    (hscript : (op.body memory).Scripts script) :
    calls script ≤ 11 ∧ itinerary.Covers (course planned script) := by
  simp only [itineraries, List.mem_cons, Prod.mk.injEq, List.not_mem_nil, or_false] at hop
  rcases hop with ⟨rfl, rfl⟩ | ⟨rfl, rfl⟩ | ⟨rfl, rfl⟩ | ⟨rfl, rfl⟩ | ⟨rfl, rfl⟩ | ⟨rfl, rfl⟩ |
    ⟨rfl, rfl⟩ | ⟨rfl, rfl⟩
  iterate 4
    · simp only [ParkingAuto, MoveRTPTest, BlueFoundationMove, RedFoundationMove,
        Auto.scripts_steps_iff, Auto.scripts_done_iff] at hscript
      obtain ⟨_, rfl, rfl⟩ := hscript
      refine ⟨?_, ?_, ?_⟩
      · norm_num [calls, course, Statement.course, moves]
      · norm_num [course, Statement.course, acts, planned]
      · norm_num [course, Statement.course, displacement, planned]
  iterate 4
    · change Bool at memory
      simp only [BlueSkystoneAuto, RedSkystoneAuto, BlueSkystoneAutoOneBlock,
        RedSkystoneAutoOneBlock, BlueSkystoneAuto.classifier, RedSkystoneAuto.classifier,
        BlueSkystoneAutoOneBlock.classifier, RedSkystoneAutoOneBlock.classifier,
        Auto.scripts_steps_iff, Auto.scripts_detect_iff, Auto.scripts_done_iff,
        Classifier.Answers] at hscript
      obtain ⟨_, ⟨pos, hpos, _, rfl, rfl⟩, rfl⟩ := hscript
      rcases hpos with rfl | rfl | rfl
      iterate 3
        · refine ⟨?_, ?_, ?_⟩
          · norm_num [calls, course, byPos, Statement.course, moves]
          · norm_num [course, byPos, Statement.course, acts, planned]
          · norm_num [course, byPos, Statement.course, displacement, planned]

/-! ## From the plan to the runs -/

/-- Where the wheels have been sent, in inches forward of the start and to the right of it. -/
noncomputable def place (h : History (robot ℝ)) : ℝ × ℝ :=
  (forwardInches designosaurs (ticks (sent h)), strafeInches designosaurs (ticks (sent h)))

/-- Up to `Robot.init` the wheels are not sent anywhere. -/
lemma sent_start {env : Environment (robot ℝ)} {op : OpMode ℝ} {runtime : ElapsedTime}
    {memory : op.Memory} {h : History (robot ℝ)}
    (hrun : Program.run env op.start [] = (some (runtime, memory), h)) : sent h = 0 := by
  have hstart : Emits Unmetered op.start := by
    refine emits_bind (by simp [ElapsedTime.reset]) fun runtime => ?_
    refine emits_bind (op.setup_passive.mono fun _ => Passive.unmetered) fun memory => ?_
    simp [init]
  exact (keeps_sent hstart 0).returns rfl hrun

/-- A fifth of an inch holds the rounding of eleven moves. -/
lemma rounding_le {script : List (Statement ℝ)} (hcalls : calls script ≤ 11) :
    calls script * (1 / 2 * designosaurs.encoderTicksPerInch) ≤ 0.2
      ∧ calls script * (1 / 2 * (designosaurs.encoderTicksPerInch / designosaurs.sideBias))
        ≤ 0.2 := by
  obtain ⟨-, hticks⟩ := designosaurs_encoderTicksPerInch_bounds
  obtain ⟨hbias, -⟩ := designosaurs_sideBias_bounds
  have hpos := designosaurs.encoderTicksPerInch_pos
  have hcalls' : (calls script : ℝ) ≤ 11 := by exact_mod_cast hcalls
  have hside : designosaurs.encoderTicksPerInch / designosaurs.sideBias
      ≤ designosaurs.encoderTicksPerInch := div_le_self hpos.le (by linarith)
  have hside0 := div_pos hpos designosaurs.sideBias_pos
  constructor <;> nlinarith

/-- So the wheels are sent that near to the places of the plan. -/
lemma place_near_plan {env : Environment (robot ℝ)} {fuel : ℕ} {op : OpMode ℝ}
    (hop : op ∈ opModes) {past : List (Statement ℝ)} {rest : Auto ℝ} {time : ElapsedTime}
    {start : History (robot ℝ)} (hcalls : calls past ≤ 11)
    (hreach : op.Reaches env designosaurs fuel past rest time start) :
    |(place start).1 - (displacement (course planned past)).1| ≤ 0.2
      ∧ |(place start).2 - (displacement (course planned past)).2| ≤ 0.2 := by
  obtain ⟨runtime, memory, h, hrun, hreach⟩ := hreach
  have hfits := (opModes_sound hop memory).mono fun _ => Statement.Sound.fits
  obtain ⟨-, hforward, hstrafe⟩ := hreach.near_plan hfits
  rw [sent_start hrun, sub_zero, zero_add] at hforward hstrafe
  obtain ⟨hticks, hside⟩ := rounding_le hcalls
  exact ⟨hforward.trans hticks, hstrafe.trans hside⟩

lemma calls_le_append (past later : List (Statement ℝ)) : calls past ≤ calls (past ++ later) := by
  rw [calls, calls, course, course, List.flatMap_append, moves_append]
  exact Nat.le_add_right _ _

/-- What rounding may add to a rectangle, on each side. -/
noncomputable def slack : ℝ × ℝ := (0.2, 0.2)

/-- A place is as near to a rectangle as it is to a point of it. -/
lemma mem_of_near {p q lo hi : ℝ × ℝ} (hfirst : |p.1 - q.1| ≤ 0.2) (hsecond : |p.2 - q.2| ≤ 0.2)
    (hq : q ∈ Set.Icc lo hi) : p ∈ Set.Icc (lo - slack) (hi + slack) := by
  obtain ⟨⟨hlo, hlo'⟩, hhi, hhi'⟩ := hq
  rw [abs_le] at hfirst hsecond
  refine ⟨⟨?_, ?_⟩, ?_, ?_⟩ <;> simp only [slack, Prod.fst_sub, Prod.snd_sub, Prod.fst_add,
    Prod.snd_add] <;> linarith

/-- **The op modes keep their itineraries.**  In every run of every op mode of the source, whatever
the camera, the clock and the motors answer and however long the loops go on, a servo is told to
move only when the wheels have been sent to its place in the itinerary; and a run that returns has
sent them to where the op mode is to end. -/
theorem op_modes_keep_itinerary {op : OpMode ℝ} {itinerary : Itinerary}
    (hop : (op, itinerary) ∈ itineraries) (env : Environment (robot ℝ)) (fuel : ℕ) :
    (∀ servo position next past time start,
      op.Reaches env designosaurs fuel past (.step (.setPosition servo position) next) time start →
      ∃ stop ∈ itinerary.stops, stop.act = (servo, position)
        ∧ place start ∈ Set.Icc (stop.lo - slack) (stop.hi + slack))
    ∧ ∀ finish, Program.run env (op.runOpMode designosaurs fuel) [] = (some (), finish) →
      place finish ∈ Set.Icc (itinerary.parkLo - slack) (itinerary.parkHi + slack) := by
  have hmem : op ∈ opModes := by
    have hmap : itineraries.map Prod.fst = opModes := rfl
    exact hmap ▸ List.mem_map_of_mem hop
  constructor
  · intro servo position next past time start hreach
    obtain ⟨later, hlater⟩ := next.exists_script
    have hscript : ∃ memory, (op.body memory).Scripts
        (past ++ .setPosition servo position :: later) := by
      obtain ⟨_, memory, _, _, hreach⟩ := hreach
      exact ⟨memory, hreach.scripts (.step hlater)⟩
    obtain ⟨memory, hscript⟩ := hscript
    obtain ⟨hcalls, hcovers⟩ := itinerary_covers hop memory hscript
    have hplan : course planned (past ++ .setPosition servo position :: later)
        = course planned past ++ .act (servo, position) :: course planned later :=
      List.flatMap_append
    have hact := mem_acts 0 (course planned past) (course planned later) (servo, position)
    rw [← hplan, zero_add] at hact
    obtain ⟨stop, hstop, hsame, hplace⟩ := hcovers.stops _ hact
    obtain ⟨hfirst, hsecond⟩ :=
      place_near_plan hmem ((calls_le_append past _).trans hcalls) hreach
    exact ⟨stop, hstop, hsame, mem_of_near hfirst hsecond hplace⟩
  · intro finish hrun
    obtain ⟨past, time, hreach⟩ := OpMode.reaches_of_run hrun
    have hscript : ∃ memory, (op.body memory).Scripts past := by
      obtain ⟨_, memory, _, _, hreach⟩ := hreach
      exact ⟨memory, by simpa using hreach.scripts .done⟩
    obtain ⟨memory, hscript⟩ := hscript
    obtain ⟨hcalls, hcovers⟩ := itinerary_covers hop memory hscript
    obtain ⟨hfirst, hsecond⟩ := place_near_plan hmem hcalls hreach
    exact mem_of_near hfirst hsecond hcovers.park

/-- A robot at work whose clock is read every half minute. -/
def slowRobot : Environment (robot ℝ)
  | h, .nsNow => (lastReading h).elim 0 (· + 30000000000)
  | h, query => workingRobot h query

/-- It comes to the first servo command of the blue foundation program. -/
lemma reaches_foundation : ∃ next past time start,
    BlueFoundationMove.Reaches slowRobot designosaurs 2 past
      (.step (.setPosition .foundationGripper 1) next) time start :=
  ⟨_, _, _, _, _, _, _, rfl, .later rfl (.later rfl (.later rfl .here))⟩

/-- There the robot has been sent 34 inches back and a foot to the right, and in the end two feet to
the left of its start. -/
theorem foundation_keeps_itinerary :
    (∃ next past time start,
      BlueFoundationMove.Reaches slowRobot designosaurs 2 past
          (.step (.setPosition .foundationGripper 1) next) time start
        ∧ place start ∈ Set.Icc ((-34.0, 12.0) - slack) ((-34.0, 12.0) + slack))
      ∧ ∃ finish,
        Program.run slowRobot (BlueFoundationMove.runOpMode designosaurs 2) [] = (some (), finish)
          ∧ place finish ∈ Set.Icc ((0, -24.0) - slack) ((0, -24.0) + slack) := by
  have hop : (BlueFoundationMove, _) ∈ itineraries := List.mem_of_getElem? (i := 2) rfl
  obtain ⟨hstops, hpark⟩ := op_modes_keep_itinerary hop slowRobot 2
  obtain ⟨next, past, time, start, hreach⟩ := reaches_foundation
  refine ⟨⟨next, past, time, start, hreach, ?_⟩, _, rfl, hpark _ rfl⟩
  obtain ⟨stop, hstop, hsame, hplace⟩ := hstops _ _ _ _ _ _ hreach
  rcases List.mem_cons.mp hstop with rfl | hstop
  · exact hplace
  · obtain rfl := List.mem_singleton.mp hstop
    simp at hsame

end Designosaurs
