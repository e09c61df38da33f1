import Designosaurs.Autonomous.Detector
import Designosaurs.Autonomous.Itinerary
import Designosaurs.Autonomous.Liveness
import Designosaurs.Autonomous.Servos

/-!
# Where the stones go

The skystone programs look at the camera once and then do one of three things.  `scriptFor` is what
a program does for a picture, and `servoPlaces` reads off a history the servo commands it holds,
each with what the wheels have been sent when it is given.

`stones_go_where_seen` puts the two together, from the boxes the detector has drawn to the inches of
the field: in every run of every skystone program the grippers act where the stones of that picture
are to be taken and to be put.
-/

namespace Designosaurs

open Interact Route

variable {K : Type}

/-! ## What a program does for a picture -/

/-- What the detector answered last; `none` is that it had nothing new, or was not asked. -/
def picture : History (robot K) → Option (List (Recognition K))
  | [] => none
  | .answer .getUpdatedRecognitions answer :: _ => answer
  | _ :: h => picture h

/-- The value of `pos` after the look at the camera. -/
def Classifier.posFor [Field K] [LinearOrder K] (c : Classifier K)
    (picture : Option (List (Recognition K))) : ℕ :=
  picture.elim 0 c.classify

namespace Auto

/-- The statements of the program when the look at the camera is at that picture. -/
def scriptFor [Field K] [LinearOrder K] (picture : Option (List (Recognition K))) :
    Auto K → List (Statement K)
  | done => []
  | step statement next => statement :: next.scriptFor picture
  | detect classifier _ next => (next (classifier.posFor picture)).scriptFor picture

/-- The program does not look at the camera. -/
def Blind : Auto K → Prop
  | done => True
  | step _ next => next.Blind
  | detect _ _ _ => False

/-- The program looks at the camera once at most. -/
def LooksOnce : Auto K → Prop
  | done => True
  | step _ next => next.LooksOnce
  | detect _ _ next => ∀ pos, (next pos).Blind

/-- The program looks at the camera, and with a detector. -/
def Looks : Auto K → Prop
  | done => False
  | step _ next => next.Looks
  | detect _ tfod next => tfod = true ∧ ∀ pos, (next pos).Blind

lemma scriptFor_steps [Field K] [LinearOrder K] (seen : Option (List (Recognition K)))
    (statements : List (Statement K)) (next : Auto K) :
    (steps statements next).scriptFor seen = statements ++ next.scriptFor seen := by
  induction statements with
  | nil => rfl
  | cons s rest ih => exact congrArg (s :: ·) ih

lemma blind_steps {statements : List (Statement K)} {next : Auto K} :
    (steps statements next).Blind ↔ next.Blind := by
  induction statements with
  | nil => rfl
  | cons s rest ih => exact ih

lemma looksOnce_steps {statements : List (Statement K)} {next : Auto K} :
    (steps statements next).LooksOnce ↔ next.LooksOnce := by
  induction statements with
  | nil => rfl
  | cons s rest ih => exact ih

lemma looks_steps {statements : List (Statement K)} {next : Auto K} :
    (steps statements next).Looks ↔ next.Looks := by
  induction statements with
  | nil => rfl
  | cons s rest ih => exact ih

lemma Blind.looksOnce {auto : Auto K} (hblind : auto.Blind) : auto.LooksOnce := by
  induction auto with
  | done => trivial
  | step s next ih => exact ih hblind
  | detect classifier tfod next ih => exact hblind.elim

/-- It is one of the scripts of the program. -/
lemma scripts_scriptFor [Field K] [LinearOrder K] (seen : Option (List (Recognition K)))
    (auto : Auto K) : auto.Scripts (auto.scriptFor seen) := by
  have hposition : ∀ classifier : Classifier K, classifier.Answers (classifier.posFor seen) := by
    intro classifier
    cases seen with
    | none => exact .inl rfl
    | some recognitions => exact classifier.answers_position _
  induction auto with
  | done => exact .done
  | step s next ih => exact .step ih
  | detect classifier tfod next ih => exact .detect (hposition classifier) (ih _)

end Auto

/-- An event in which the detector does not answer. -/
def Unseen (e : Event (robot K)) : Prop := ∀ h, picture (e :: h) = picture h

@[simp] lemma unseen_command (c : Command K) : Unseen (.command c : Event (robot K)) := fun _ => rfl

lemma Aside.unseen {e : Event (robot K)} (he : Aside e) : Unseen e := by
  intro h
  cases e with
  | command c => rfl
  | answer q a =>
      cases q with
      | getUpdatedRecognitions => exact absurd (he .shut) (by simp [detector])
      | _ => rfl

section Seen

variable [Field K] [LinearOrder K] [FloorRing K] (hw : HardwareDesignosaurs K) (fuel : ℕ)

/-- A statement does not ask the detector. -/
lemma Statement.emits_unseen (statement : Statement K) (time : ElapsedTime) :
    Emits Unseen (statement.program hw fuel time) := by
  by_cases hshutdown : statement = .shutdownTfod
  · subst hshutdown
    simp [Statement.program]
  · exact (Statement.emits_aside hw fuel hshutdown time).mono fun _ he => he.unseen

/-- A blind program does not either. -/
lemma Auto.Blind.emits_unseen {auto : Auto K} (hblind : auto.Blind) (time : ElapsedTime) :
    Emits Unseen (auto.program hw fuel time) := by
  induction auto generalizing time with
  | done => trivial
  | step s next ih => exact emits_bind (s.emits_unseen hw fuel time) fun time => ih hblind time
  | detect classifier tfod next ih => exact hblind.elim

end Seen

section Look

variable [Field K] [LinearOrder K] {env : Environment (robot K)}

/-- With a detector, the look at the camera gets a picture. -/
lemma Classifier.wp_detect_asks (c : Classifier K) (h : History (robot K)) :
    wp env (c.detect true 0) (fun _ h' => picture h' = env h .getUpdatedRecognitions)
      (fun h' => picture h' = env h .getUpdatedRecognitions) h := by
  simp only [detect, if_true]
  refine wp_seq (M := fun answer h' => answer = env h .getUpdatedRecognitions
    ∧ picture h' = env h .getUpdatedRecognitions) ⟨rfl, rfl⟩ ?_
  rintro answer h' ⟨-, hseen⟩
  cases answer with
  | none => exact hseen
  | some recognitions =>
      have hboxes := c.emits_boxes (φ := Unseen) (by simp) (by simp) recognitions 0
      exact hboxes.keeps_reading _ h' hseen

/-- **The look at the camera** leaves in `pos` what the classifier makes of the picture. -/
lemma Classifier.wp_detect_picture (c : Classifier K) (tfod : Bool) {h : History (robot K)}
    (hunseen : picture h = none) :
    wp env (c.detect tfod 0) (fun pos h' => pos = c.posFor (picture h')) (fun _ => False) h := by
  cases tfod with
  | false =>
      show (0 : ℕ) = c.posFor (picture h)
      rw [hunseen]
      rfl
  | true =>
      cases hanswer : env h .getUpdatedRecognitions with
      | none =>
          simp only [detect, if_true, wp_bind, wp_ask, wp_done, hanswer, wp_pure]
          rfl
      | some recognitions =>
          have hpos : wp env (c.detect true 0) (fun pos _ => pos = c.classify recognitions)
              (fun _ => False) h := c.wp_detect h hanswer
          refine wp_mono ?_ (fun _ => And.left) (wp_conj hpos (c.wp_detect_asks h))
          rintro pos h' ⟨rfl, hseen⟩
          rw [hseen, hanswer]
          rfl

/-- So a program that looks with a detector has the picture that the detector shows. -/
lemma wp_auto_picture [FloorRing K] (hw : HardwareDesignosaurs K) (fuel : ℕ) {auto : Auto K}
    (hlooks : auto.Looks) {answer : Option (List (Recognition K))}
    (hanswer : ∀ h, env h .getUpdatedRecognitions = answer) (time : ElapsedTime)
    (h : History (robot K)) :
    wp env (auto.program hw fuel time) (fun _ h' => picture h' = answer) (fun _ => True) h := by
  induction auto generalizing time h with
  | done => exact hlooks.elim
  | step s next ih =>
      exact wp_seq (wp_true env _ h) fun time h' _ => ih hlooks time h'
  | detect classifier tfod next ih =>
      obtain ⟨rfl, hblind⟩ := hlooks
      refine wp_seq (wp_mono (fun _ _ => id) (fun _ _ => trivial) (classifier.wp_detect_asks h)) ?_
      intro pos h' hseen
      rw [hanswer] at hseen
      exact wp_mono (fun _ _ => id) (fun _ _ => trivial)
        (((hblind pos).emits_unseen hw fuel time).keeps_reading answer h' hseen)

end Look

/-! ## Where the servos are told to move -/

/-- The servo commands of a history, newest first, each with what the wheels had been sent. -/
def servoPlaces : History (robot K) → List ((Servo × K) × (Wheel → ℤ))
  | [] => []
  | .command (.setPosition servo position) :: h => ((servo, position), sent h) :: servoPlaces h
  | _ :: h => servoPlaces h

lemma Unservoed.servoPlaces_eq {e : Event (robot K)} (he : Unservoed e) (h : History (robot K)) :
    servoPlaces (e :: h) = servoPlaces h := by
  cases e with
  | answer q a => rfl
  | command c =>
      rw [unservoed_command] at he
      cases c with
      | setPosition servo position => exact absurd rfl (he servo position)
      | _ => rfl

section Places

variable [Field K] [LinearOrder K] [FloorRing K] {env : Environment (robot K)}
  (hw : HardwareDesignosaurs K) (fuel : ℕ)

/-- A statement has its own servo command done where it begins, and no other. -/
lemma wp_statement_places (statement : Statement K) (time : ElapsedTime) (h : History (robot K)) :
    wp env (statement.program hw fuel time)
      (fun _ h' => servoPlaces h'
        = (acts (sent h) (statement.course (target hw))).reverse ++ servoPlaces h)
      (fun h' => servoPlaces h' = servoPlaces h) h := by
  have hkeeps : ∀ {α : Type} {p : RobotProgram K α}, Emits Unservoed p →
      wp env p (fun _ h' => servoPlaces h' = servoPlaces h)
        (fun h' => servoPlaces h' = servoPlaces h) h := fun hp =>
    (hp.mono fun _ he => he.servoPlaces_eq).keeps_reading (servoPlaces h) h rfl
  cases statement with
  | setPosition servo position => exact rfl
  | shutdownTfod => exact rfl
  | moveRTP direction maxSpeed distance =>
      have hnone : acts (sent h)
          ((Statement.moveRTP direction maxSpeed distance).course (target hw)) = [] := by
        simp only [Statement.course]
        cases Heading.ofString direction <;> rfl
      rw [hnone]
      exact hkeeps (emits_unservoed_moveRTP hw fuel direction maxSpeed distance)
  | _ =>
      refine hkeeps ((Statement.emits_waiting hw fuel time _ ?_).mono
        fun _ he => he.passive.unservoed)
      trivial

/-- Between `h` and `h'` a program has had the servos do what its script for the picture says, up to
what is still to do. -/
def Delivered (auto : Auto K) (todo : List ((Servo × K) × (Wheel → ℤ))) (h h' : History (robot K)) :
    Prop :=
  ∃ past, acts (sent h) (course (target hw) (auto.scriptFor (picture h'))) = past ++ todo
    ∧ servoPlaces h' = past.reverse ++ servoPlaces h

/-- **A program does what it does for the picture**, or, if it is cut, the beginning of it. -/
theorem wp_auto_delivered {auto : Auto K} (honce : auto.LooksOnce) (time : ElapsedTime)
    {h : History (robot K)} (hunseen : auto.Blind ∨ picture h = none) :
    wp env (auto.program hw fuel time) (fun _ h' => Delivered hw auto [] h h')
      (fun h' => ∃ todo, Delivered hw auto todo h h') h := by
  induction auto generalizing time h with
  | done => exact ⟨[], rfl, rfl⟩
  | step s next ih =>
      have hseen : wp env (s.program hw fuel time) (fun _ h' => picture h' = picture h)
          (fun h' => picture h' = picture h) h :=
        (s.emits_unseen hw fuel time).keeps_reading (picture h) h rfl
      refine wp_seq (wp_mono (fun _ _ => id) ?_ (wp_conj (wp_statement_places hw fuel s time h)
        (wp_conj (wp_statement_sent hw fuel s time h) hseen))) ?_
      · rintro h' ⟨hplaces, -, -⟩
        exact ⟨_, [], rfl, hplaces⟩
      · rintro time h₁ ⟨hplaces, hsent, hpicture⟩
        have hlater : ∀ todo h', Delivered hw next todo h₁ h' →
            Delivered hw (.step s next) todo h h' := by
          rintro todo h' ⟨past, hpast, hdone⟩
          refine ⟨acts (sent h) (s.course (target hw)) ++ past, ?_, ?_⟩
          · rw [Auto.scriptFor, course, List.flatMap_cons, acts_append, ← hsent, List.append_assoc,
              ← hpast]
            rfl
          · rw [hdone, hplaces, List.reverse_append, List.append_assoc]
        refine wp_mono (fun _ h' => hlater [] h') ?_ (ih honce time ?_)
        · rintro h' ⟨todo, hdone⟩
          exact ⟨todo, hlater todo h' hdone⟩
        · rwa [hpicture]
  | detect classifier tfod next ih =>
      have hlook : wp env (classifier.detect tfod 0) (fun _ h' => servoPlaces h' = servoPlaces h
          ∧ sent h' = sent h) (fun h' => servoPlaces h' = servoPlaces h ∧ sent h' = sent h) h := by
        refine (classifier.emits_detect tfod 0).keeps (fun e h₁ he hsame => ?_) h ⟨rfl, rfl⟩
        rwa [he.unservoed.servoPlaces_eq, he.unmetered.sent_eq]
      refine wp_seq (wp_mono (fun _ _ => id) (fun _ hh => hh.1.elim)
        (wp_conj (classifier.wp_detect_picture tfod (hunseen.resolve_left id)) hlook)) ?_
      rintro pos h₁ ⟨rfl, hplaces, hsent⟩
      have hblind := honce (classifier.posFor (picture h₁))
      have hseen : wp env ((next (classifier.posFor (picture h₁))).program hw fuel time)
          (fun _ h' => picture h' = picture h₁) (fun h' => picture h' = picture h₁) h₁ :=
        (hblind.emits_unseen hw fuel time).keeps_reading (picture h₁) h₁ rfl
      have hlater : ∀ todo h', picture h' = picture h₁ →
          Delivered hw (next (classifier.posFor (picture h₁))) todo h₁ h' →
          Delivered hw (.detect classifier tfod next) todo h h' := by
        rintro todo h' hpicture ⟨past, hpast, hdone⟩
        refine ⟨past, ?_, hdone.trans (by rw [hplaces])⟩
        rw [← hpast, Auto.scriptFor, hpicture, hsent]
      refine wp_mono (fun _ h' hh => hlater [] h' hh.2 hh.1) ?_
        (wp_conj (ih _ hblind.looksOnce time (.inl hblind)) hseen)
      rintro h' ⟨⟨todo, hdone⟩, hpicture⟩
      exact ⟨todo, hlater todo h' hpicture hdone⟩

end Places

/-! ## The skystone programs -/

/-- The stones of a skystone program: the gripper with its two positions, and for each value of
`pos` from where to where it brings one stone after the other, in inches forward of the start and to
the right of it. -/
structure Delivery where
  servo : Servo
  closed : ℝ
  opened : ℝ
  stones : ℕ → List ((ℝ × ℝ) × (ℝ × ℝ))

/-- The servo commands that takes. -/
def Delivery.stops (delivery : Delivery) (pos : ℕ) : List ((Servo × ℝ) × (ℝ × ℝ)) :=
  (delivery.stones pos).flatMap fun stone =>
    [((delivery.servo, delivery.closed), stone.1), ((delivery.servo, delivery.opened), stone.2)]

/-- The skystone programs, each with its classifier and its stones. -/
noncomputable def skystones : List (OpMode ℝ × Classifier ℝ × Delivery) := [
  (BlueSkystoneAuto, BlueSkystoneAuto.classifier, ⟨.leftGripper, 1, 0, fun
    | 0 => [((-26.5, -2.5), (-17.5, 40.5)), ((-26.5, -19.5), (-18.5, 42.5))]
    | 1 => [((-26.5, 3.5), (-17.5, 40.5)), ((-26.5, -14.0), (-18.5, 42.0))]
    | _ => [((-26.5, 10.5), (-17.5, 43.0)), ((-26.5, -7.0), (-18.5, 43.0))]⟩),
  (RedSkystoneAuto, RedSkystoneAuto.classifier, ⟨.rightGripper, 0.05, 1, fun
    | 0 => [((-26.5, 0.5), (-17.5, -42.5)), ((-24.5, 19.5), (-16.5, -42.5))]
    | 1 => [((-26.5, -6.5), (-17.5, -43.5)), ((-24.5, 11.0), (-16.5, -45.0))]
    | _ => [((-26.5, -12.0), (-17.5, -44.5)), ((-24.5, 5.5), (-16.5, -44.5))]⟩),
  (BlueSkystoneAutoOneBlock, BlueSkystoneAutoOneBlock.classifier, ⟨.leftGripper, 1, 0, fun
    | 0 => [((-29.75, -2.25), (-20.75, 40.75))]
    | 1 => [((-30.0, 3.75), (-21.0, 40.75))]
    | _ => [((-30.25, 9.75), (-21.25, 42.25))]⟩),
  (RedSkystoneAutoOneBlock, RedSkystoneAutoOneBlock.classifier, ⟨.rightGripper, 0.05, 1, fun
    | 0 => [((-30.2, 0.45), (-21.2, -39.55))]
    | 1 => [((-30.2, -5.95), (-21.2, -39.95))]
    | _ => [((-30.05, -11.5), (-21.05, -41.0))]⟩)]

lemma looksOnce_skystones {op : OpMode ℝ} {classifier : Classifier ℝ} {delivery : Delivery}
    (hop : (op, classifier, delivery) ∈ skystones) (memory : op.Memory) :
    (op.body memory).LooksOnce := by
  simp only [skystones, List.mem_cons, Prod.mk.injEq, List.not_mem_nil, or_false] at hop
  rcases hop with ⟨rfl, -⟩ | ⟨rfl, -⟩ | ⟨rfl, -⟩ | ⟨rfl, -⟩
  all_goals exact Auto.looksOnce_steps.mpr fun pos => Auto.blind_steps.mpr trivial

/-- **The numbers of the source bring the stones there**, for every picture. -/
lemma acts_skystones {op : OpMode ℝ} {classifier : Classifier ℝ} {delivery : Delivery}
    (hop : (op, classifier, delivery) ∈ skystones) (memory : op.Memory)
    (seen : Option (List (Recognition ℝ))) :
    acts 0 (course planned ((op.body memory).scriptFor seen))
      = delivery.stops (classifier.posFor seen) := by
  have hanswers : classifier.Answers (classifier.posFor seen) := by
    cases seen with
    | none => exact .inl rfl
    | some recognitions => exact classifier.answers_position _
  simp only [skystones, List.mem_cons, Prod.mk.injEq, List.not_mem_nil, or_false] at hop
  rcases hop with ⟨rfl, rfl, rfl⟩ | ⟨rfl, rfl, rfl⟩ | ⟨rfl, rfl, rfl⟩ | ⟨rfl, rfl, rfl⟩
  all_goals
    change Bool at memory
    simp only [BlueSkystoneAuto, RedSkystoneAuto, BlueSkystoneAutoOneBlock,
      RedSkystoneAutoOneBlock, Auto.scriptFor_steps, Auto.scriptFor]
    rcases hanswers with hpos | hpos | hpos
    all_goals
      rw [hpos]
      norm_num [Delivery.stops, course, byPos, Statement.course, acts, planned,
        BlueSkystoneAuto.classifier, RedSkystoneAuto.classifier,
        BlueSkystoneAutoOneBlock.classifier, RedSkystoneAutoOneBlock.classifier]

/-- A servo command is the one of its stop, and is given when the wheels have been sent there, up to
a fifth of an inch in each direction. -/
def AtStop (command : (Servo × ℝ) × (Wheel → ℤ)) (stop : (Servo × ℝ) × (ℝ × ℝ)) : Prop :=
  command.1 = stop.1
    ∧ |forwardInches designosaurs (ticks command.2) - stop.2.1| ≤ 0.2
    ∧ |strafeInches designosaurs (ticks command.2) - stop.2.2| ≤ 0.2

/-- The targets of a script have the servos act where its plan does. -/
lemma acts_atStop {script : List (Statement ℝ)} (hfits : ∀ s ∈ script, s.Fits designosaurs)
    (hcalls : calls script ≤ 11) :
    List.Forall₂ AtStop (acts 0 (course (target designosaurs) script))
      (acts 0 (course planned script)) := by
  have hpos := designosaurs.encoderTicksPerInch_pos
  have hside0 := div_pos hpos designosaurs.sideBias_pos
  obtain ⟨hticks, hside⟩ := rounding_le hcalls
  have hforward := acts_near (φ := (forwardInches designosaurs).comp ticks)
    (ψ := AddMonoidHom.fst ℝ ℝ) (v := 0) (w := 0) (b := 0)
    (mul_nonneg (by norm_num) hpos.le) (course_shadows (g := planned) hfits
      fun heading distance h0 hfit => (target_near h0 hfit).2.1) (by simp)
  have hstrafe := acts_near (φ := (strafeInches designosaurs).comp ticks)
    (ψ := AddMonoidHom.snd ℝ ℝ) (v := 0) (w := 0) (b := 0)
    (mul_nonneg (by norm_num) hside0.le) (course_shadows (g := planned) hfits
      fun heading distance h0 hfit => (target_near h0 hfit).2.2) (by simp)
  rw [moves_course, zero_add] at hforward hstrafe
  exact hforward.mp (fun x y hx hy => ⟨hx.1, hx.2.trans hticks, hy.2.trans hside⟩) hstrafe

/-- What `Robot.init` tells the servos. -/
noncomputable def initStops : List ((Servo × ℝ) × (ℝ × ℝ)) :=
  initServos.reverse.map fun command => (command, 0)

/-- `Robot.init`, after something that asked the detector nothing and moved nothing. -/
lemma wp_init_atStop {env : Environment (robot ℝ)} {h : History (robot ℝ)}
    (hunseen : picture h = none) (hsent : sent h = 0) (hplaces : servoPlaces h = []) :
    wp env init (fun _ h' => picture h' = none ∧ sent h' = 0
      ∧ List.Forall₂ AtStop (servoPlaces h').reverse initStops) (fun _ => False) h := by
  refine ⟨hunseen, hsent, ?_⟩
  show List.Forall₂ AtStop
    (initServos.map (fun command => (command, sent h)) ++ servoPlaces h).reverse initStops
  rw [hplaces, hsent, List.append_nil, ← List.map_reverse, initStops, List.forall₂_map_left_iff,
    List.forall₂_map_right_iff, List.forall₂_same]
  intro command _
  norm_num [AtStop]

/-- A skystone program up to its first statement. -/
lemma wp_skystone_start {env : Environment (robot ℝ)} {op : OpMode ℝ} {classifier : Classifier ℝ}
    {delivery : Delivery} (hop : (op, classifier, delivery) ∈ skystones) :
    wp env op.start (fun _ h => picture h = none ∧ sent h = 0
      ∧ List.Forall₂ AtStop (servoPlaces h).reverse initStops) (fun _ => False) [] := by
  have hvision : ∀ h : History (robot ℝ), picture h = none ∧ sent h = 0 ∧ servoPlaces h = [] →
      wp env initVision (fun _ h' => picture h' = none ∧ sent h' = 0 ∧ servoPlaces h' = [])
        (fun _ => False) h := by
    rintro h ⟨hunseen, hsent, hplaces⟩
    simp only [initVision, Program.when, wp_bind, wp_ask, wp_done]
    cases env h .canCreateTFObjectDetector <;> exact ⟨hunseen, hsent, hplaces⟩
  simp only [skystones, List.mem_cons, Prod.mk.injEq, List.not_mem_nil, or_false] at hop
  rcases hop with ⟨rfl, -⟩ | ⟨rfl, -⟩ | ⟨rfl, -⟩ | ⟨rfl, -⟩
  all_goals
    refine wp_seq (M := fun _ h => picture h = none ∧ sent h = 0 ∧ servoPlaces h = [])
      ⟨rfl, rfl, rfl⟩ fun runtime h hh => ?_
    refine wp_seq (hvision h hh) fun memory h' hh' => ?_
    exact wp_seq (wp_init_atStop hh'.1 hh'.2.1 hh'.2.2) fun _ _ => id

/-- **The stones go where they were seen.**  In every run of a skystone program, whatever is
answered, the servos are told after `Robot.init` to take and to put the stones of the position that
the classifier makes of the picture: these commands and no others, in this order, and each when the
wheels have been sent to its place.  A run that is cut has given the first of them. -/
theorem stones_go_where_seen {op : OpMode ℝ} {classifier : Classifier ℝ} {delivery : Delivery}
    (hop : (op, classifier, delivery) ∈ skystones) (env : Environment (robot ℝ)) (fuel : ℕ) :
    wp env (op.runOpMode designosaurs fuel)
      (fun _ h => List.Forall₂ AtStop (servoPlaces h).reverse
        (initStops ++ delivery.stops (classifier.posFor (picture h))))
      (fun h => ∃ past, past <+: initStops ++ delivery.stops (classifier.posFor (picture h))
        ∧ List.Forall₂ AtStop (servoPlaces h).reverse past) [] := by
  refine wp_seq (wp_mono (fun _ _ => id) (fun _ => False.elim) (wp_skystone_start hop)) ?_
  rintro ⟨runtime, memory⟩ h ⟨hunseen, hsent, hinit⟩
  have hmem : op ∈ opModes :=
    List.mem_of_mem_drop (i := 4) (List.mem_map_of_mem (f := Prod.fst) hop)
  have hstops : ∀ seen, List.Forall₂ AtStop
      (acts 0 (course (target designosaurs) ((op.body memory).scriptFor seen)))
      (delivery.stops (classifier.posFor seen)) := by
    intro seen
    have hscript := Auto.scripts_scriptFor seen (op.body memory)
    have hlisted : op ∈ itineraries.map Prod.fst := hmem
    obtain ⟨⟨_, itinerary⟩, hitinerary, rfl⟩ := List.mem_map.mp hlisted
    rw [← acts_skystones hop memory seen]
    exact acts_atStop
      (((opModes_sound hmem memory).mono fun _ => Statement.Sound.fits).script hscript)
      (itinerary_covers hitinerary memory hscript).1
  refine wp_mono ?_ ?_ (wp_auto_delivered designosaurs fuel (looksOnce_skystones hop memory) runtime
    (.inr hunseen))
  · rintro _ h' ⟨past, hpast, hplaces⟩
    rw [hsent, List.append_nil] at hpast
    rw [hplaces, List.reverse_append, List.reverse_reverse]
    exact List.rel_append hinit (hpast ▸ hstops _)
  · rintro h' ⟨todo, past, hpast, hplaces⟩
    rw [hplaces, List.reverse_append, List.reverse_reverse]
    have hall := hstops (picture h')
    rw [← hsent, hpast] at hall
    have hpart := List.forall₂_take past.length hall
    rw [List.take_left] at hpart
    exact ⟨_, (List.prefix_append_right_inj _).mpr (List.take_prefix _ _),
      List.rel_append hinit hpart⟩

/-- A plain stone, and two skystones right of it. -/
def threeStones : List (Recognition ℝ) := [
  ⟨.literal "Skystone", 600.0, 300.0, 800.0, 400.0⟩,
  ⟨.literal "Stone", 0, 300.0, 100.0, 400.0⟩,
  ⟨.literal "Skystone", 400.0, 300.0, 600.0, 400.0⟩]

lemma classify_threeStones : BlueSkystoneAutoOneBlock.classifier.classify threeStones = 1 := by
  have hcentres : skystoneCentres threeStones = [700, 500] := by
    show [(600.0 + 800.0) / 2, (400.0 + 600.0) / 2] = [(700 : ℝ), 500]
    norm_num
  have hlowest : lowestAvg threeStones = ((500 : ℝ) : WithTop ℝ) := by
    rw [lowestAvg_eq_minimum, hcentres, List.minimum_eq_coe_iff]
    norm_num
  rw [Classifier.classify, hlowest, Classifier.position]
  simp only [gt_iff_lt, WithTop.coe_lt_coe, BlueSkystoneAutoOneBlock.classifier]
  norm_num

/-- A robot that sees them, with motors that say once in each move that they are busy. -/
def sightedRobot : Environment (robot ℝ)
  | h, .isBusy (.drive wheel) => decide (busyAnswers wheel h < 1)
  | _, .canCreateTFObjectDetector => true
  | _, .getUpdatedRecognitions => some threeStones
  | h, query => promptRobot h query

lemma wp_sighted_picture (fuel : ℕ) :
    wp sightedRobot (BlueSkystoneAutoOneBlock.runOpMode designosaurs fuel)
      (fun _ h => picture h = some threeStones) (fun _ => True) [] := by
  refine wp_seq (M := fun start _ => start.2 = true) ?_ ?_
  · simp only [OpMode.start, BlueSkystoneAutoOneBlock, initVision, ElapsedTime.reset, wp_bind,
      wp_ask, wp_done]
    trivial
  · rintro ⟨time, memory⟩ h (rfl : memory = true)
    refine wp_auto_picture designosaurs fuel ?_ (fun _ => rfl) time h
    exact Auto.looks_steps.mpr ⟨rfl, fun pos => Auto.blind_steps.mpr trivial⟩

/-- On it the blue program for one block goes for the middle stone. -/
theorem middle_stone_delivered : ∃ h,
    Program.run sightedRobot (BlueSkystoneAutoOneBlock.runOpMode designosaurs 28000000001) []
        = (some (), h)
      ∧ picture h = some threeStones
      ∧ List.Forall₂ AtStop (servoPlaces h).reverse (initStops
        ++ [((.leftGripper, 1), (-30.0, 3.75)), ((.leftGripper, 0), (-21.0, 40.75))]) := by
  have hop : (BlueSkystoneAutoOneBlock, BlueSkystoneAutoOneBlock.classifier, _) ∈ skystones :=
    List.mem_of_getElem? (i := 2) rfl
  have harrives : Arrives sightedRobot .frontRight 1 := fun _ => of_decide_eq_true
  obtain ⟨_, finish, hrun, -⟩ := exists_run_of_wp (wp_runOpMode_returns designosaurs
    (show (BlueSkystoneAutoOneBlock : OpMode ℝ) ∈ opModes by simp [opModes])
    (show ClockTicks sightedRobot from clockTicks_promptRobot) harrives
    (show EnoughFuel 1 28000000001 from ⟨by norm_num, by norm_num⟩))
  have hstops := wp_returns (stones_go_where_seen hop sightedRobot 28000000001) hrun
  have hseen := wp_returns (wp_sighted_picture 28000000001) hrun
  have hpos : BlueSkystoneAutoOneBlock.classifier.posFor (some threeStones) = 1 :=
    classify_threeStones
  rw [hseen, hpos] at hstops
  exact ⟨finish, hrun, hseen, hstops⟩

end Designosaurs
