import Designosaurs.Robot.Hardware
import Designosaurs.Robot.Record
import Mathlib.Data.List.MinMax

/-!
# Finding the skystone

The four skystone op modes each hold a copy of one classifier: go through the boxes the detector
drew, keep the lowest centre of those labelled `"Skystone"`, and turn that number into a position by
two thresholds.  `Classifier` has what the copies differ in.

* `lowestAvg_eq_minimum` — the loop computes the minimum of the skystone centres, `⊤` for none.
* `wp_detect` — the block of the op mode leaves `classify` of the boxes in `pos`.
* `classifiers_agree_iff` — on which pictures the two copies of an alliance agree.

Both thresholds are compared strictly, so a centre exactly on one leaves the position as it was.
-/

namespace Designosaurs

open Interact

variable {K : Type}

/-! ## From a centre to a position -/

section Position

variable [LinearOrder K]

/-- What one op mode's copy compares with, and the positions it assigns. -/
structure Classifier (K : Type) where
  leftOf : K
  rightOf : K
  middle : ℕ
  right : ℕ

namespace Classifier

/-- The value the `if` chain leaves in `pos`; none of its branches may be taken. -/
def position (c : Classifier K) (lowestAvg : WithTop K) (pos : ℕ) : ℕ :=
  if lowestAvg > c.leftOf then 0
  else if lowestAvg > c.rightOf ∧ lowestAvg < c.leftOf then c.middle
  else if lowestAvg < c.rightOf then c.right
  else pos

/-- The `if` chain as the op modes have it. -/
def setPos (c : Classifier K) (lowestAvg : WithTop K) (pos : ℕ) : RobotProgram K ℕ :=
  if lowestAvg > c.leftOf then do
    addData "Target pos" (.text "Left")
    return 0
  else if lowestAvg > c.rightOf ∧ lowestAvg < c.leftOf then do
    addData "Target pos" (.text "Middle")
    return c.middle
  else if lowestAvg < c.rightOf then do
    addData "Target pos" (.text "Right")
    return c.right
  else return pos

variable (c : Classifier K) (lowestAvg : WithTop K) (pos : ℕ)

lemma emits_setPos : Emits Passive (c.setPos lowestAvg pos) := by
  simp [setPos]

lemma wp_setPos {env : Environment (robot K)} {Q : ℕ → History (robot K) → Prop}
    {R : History (robot K) → Prop} (h : History (robot K))
    (hQ : ∀ h', Q (c.position lowestAvg pos) h') : wp env (c.setPos lowestAvg pos) Q R h := by
  unfold setPos position at *
  split_ifs at hQ ⊢ <;> exact hQ _

end Classifier

end Position

/-! ## The loop over the recognitions -/

variable [Field K] [LinearOrder K]

/-- The centre of a box. -/
def centre (recognition : Recognition K) : K := (recognition.left + recognition.right) / 2

/-- The box is labelled with the very `"Skystone"` the op mode compares with. -/
def IsSkystone (recognition : Recognition K) : Prop := recognition.label = .literal "Skystone"

instance (recognition : Recognition K) : Decidable (IsSkystone recognition) :=
  inferInstanceAs (Decidable (_ = _))

/-- One turn of the loop, on the lowest centre so far. -/
def lower (lowestAvg : WithTop K) (recognition : Recognition K) : WithTop K :=
  if IsSkystone recognition then
    let currentAvg : K := centre recognition
    if currentAvg < lowestAvg then currentAvg else lowestAvg
  else lowestAvg

/-- The lowest centre after the loop; it starts at positive infinity. -/
def lowestAvg (recognitions : List (Recognition K)) : WithTop K := recognitions.foldl lower ⊤

/-- The centres of the boxes labelled as skystones. -/
def skystoneCentres (recognitions : List (Recognition K)) : List K :=
  (recognitions.filter fun r => IsSkystone r).map centre

/-- From any value it starts with, the loop takes the minimum with every skystone's centre. -/
lemma foldl_lower (recognitions : List (Recognition K)) (start : WithTop K) :
    recognitions.foldl lower start = min start (skystoneCentres recognitions).minimum := by
  induction recognitions generalizing start with
  | nil => simp [skystoneCentres]
  | cons r rest ih =>
      rw [List.foldl_cons, ih]
      by_cases hr : IsSkystone r
      · have hcentres : skystoneCentres (r :: rest) = centre r :: skystoneCentres rest := by
          simp [skystoneCentres, hr]
        have hlower : lower start r = min start ((centre r : K) : WithTop K) := by
          rw [lower, if_pos hr, min_comm, min_def_lt]
        rw [hcentres, hlower, List.minimum_cons, min_assoc]
      · have hcentres : skystoneCentres (r :: rest) = skystoneCentres rest := by
          simp [skystoneCentres, hr]
        rw [hcentres, lower, if_neg hr]

/-- **The loop finds the minimum.** -/
theorem lowestAvg_eq_minimum (recognitions : List (Recognition K)) :
    lowestAvg recognitions = (skystoneCentres recognitions).minimum := by
  rw [lowestAvg, foldl_lower, min_eq_right le_top]

/-- The lowest centre is left of `c` exactly when some skystone's is. -/
lemma lowestAvg_lt_iff (recognitions : List (Recognition K)) (c : K) :
    lowestAvg recognitions < c ↔ ∃ x ∈ skystoneCentres recognitions, x < c := by
  rw [lowestAvg_eq_minimum]
  induction skystoneCentres recognitions with
  | nil => simp
  | cons x rest ih =>
      rw [List.minimum_cons, min_lt_iff, ih, WithTop.coe_lt_coe, List.exists_mem_cons_iff]

lemma lowestAvg_le_iff (recognitions : List (Recognition K)) (c : K) :
    lowestAvg recognitions ≤ c ↔ ∃ x ∈ skystoneCentres recognitions, x ≤ c := by
  rw [lowestAvg_eq_minimum]
  induction skystoneCentres recognitions with
  | nil => simp
  | cons x rest ih =>
      rw [List.minimum_cons, min_le_iff, ih, WithTop.coe_le_coe, List.exists_mem_cons_iff]

/-- `pos` after a picture, from its initial value `0`. -/
def Classifier.classify (c : Classifier K) (recognitions : List (Recognition K)) : ℕ :=
  c.position (lowestAvg recognitions) 0

/-! ## The block of the op modes -/

/-- The loop as the op modes have it, with its telemetry.  Its counter `i` stays zero. -/
def scan : List (Recognition K) → WithTop K → RobotProgram K (WithTop K)
  | [], lowestAvg => return lowestAvg
  | recognition :: rest, lowestAvg => do
      addData "label (0)" (.label recognition.label)
      addData "  left,top (0)" (.pair recognition.left recognition.top)
      addData "  right,bottom (0)" (.pair recognition.right recognition.bottom)
      scan rest (lower lowestAvg recognition)

/-- The block under `if (tfod != null)`.  The detector may answer that it has nothing new. -/
def Classifier.detect (c : Classifier K) (tfod : Bool) (pos : ℕ) : RobotProgram K ℕ :=
  if tfod then do
    match ← getUpdatedRecognitions with
    | none => return pos
    | some updatedRecognitions => do
        addData "# Object Detected" (.count updatedRecognitions.length)
        let lowestAvg ← scan updatedRecognitions ⊤
        addData "middle of sky" (.lowest lowestAvg)
        let pos ← c.setPos lowestAvg pos
        updateTelemetry
        return pos
  else return pos

lemma emits_scan (recognitions : List (Recognition K)) (lowestAvg : WithTop K) :
    Emits Passive (scan recognitions lowestAvg) := by
  induction recognitions generalizing lowestAvg with
  | nil => trivial
  | cons r rest ih => exact ⟨trivial, trivial, trivial, ih _⟩

/-- Looking at the picture leaves the robot alone. -/
lemma Classifier.emits_detect (c : Classifier K) (tfod : Bool) (pos : ℕ) :
    Emits Passive (c.detect tfod pos) := by
  unfold detect
  split_ifs
  · refine emits_bind (by simp) fun answer => ?_
    cases answer with
    | none => trivial
    | some recognitions =>
        refine emits_bind (by simp) fun _ => emits_bind (emits_scan recognitions ⊤) fun low => ?_
        refine emits_bind (by simp) fun _ => emits_bind (c.emits_setPos low pos) fun _ => ?_
        simp
  · trivial

section Runs

variable {env : Environment (robot K)} {R : History (robot K) → Prop}

lemma wp_scan {Q : WithTop K → History (robot K) → Prop} (recognitions : List (Recognition K))
    (start : WithTop K) (h : History (robot K))
    (hQ : ∀ h', Q (recognitions.foldl lower start) h') :
    wp env (scan recognitions start) Q R h := by
  induction recognitions generalizing start h with
  | nil => exact hQ h
  | cons r rest ih =>
      simp only [scan, Program.command_then, Program.done_then, wp_command]
      exact ih _ _ hQ

/-- **The block computes `classify`** on the boxes the detector answers with. -/
theorem Classifier.wp_detect (c : Classifier K) (h : History (robot K))
    {recognitions : List (Recognition K)}
    (hnew : env h .getUpdatedRecognitions = some recognitions) :
    wp env (c.detect true 0) (fun pos _ => pos = c.classify recognitions) R h := by
  simp only [detect, if_true, wp_bind, wp_ask, wp_done, hnew, wp_command, wp_pure]
  refine wp_scan recognitions ⊤ _ fun h' => ?_
  exact c.wp_setPos _ 0 _ fun h'' => rfl

end Runs

/-! ## The four copies -/

/-- The numbers of `BlueSkystoneAuto`. -/
def BlueSkystoneAuto.classifier : Classifier K := ⟨1000, 391, 1, 2⟩

/-- The numbers of `BlueSkystoneAutoOneBlock`. -/
def BlueSkystoneAutoOneBlock.classifier : Classifier K := ⟨600, 391, 1, 2⟩

/-- The numbers of `RedSkystoneAuto`. -/
def RedSkystoneAuto.classifier : Classifier K := ⟨1000, 320, 2, 1⟩

/-- The numbers of `RedSkystoneAutoOneBlock`. -/
def RedSkystoneAutoOneBlock.classifier : Classifier K := ⟨1000, 330, 2, 1⟩

variable [IsStrictOrderedRing K]

lemma blue_position_eq_iff (lowestAvg : WithTop K) :
    BlueSkystoneAuto.classifier.position lowestAvg 0
        = BlueSkystoneAutoOneBlock.classifier.position lowestAvg 0
      ↔ ¬ (lowestAvg < (1000 : K) ∧ ¬ lowestAvg < (600 : K)) := by
  cases lowestAvg with
  | top => simp [Classifier.position]
  | coe m =>
      simp only [Classifier.position, BlueSkystoneAuto.classifier,
        BlueSkystoneAutoOneBlock.classifier, gt_iff_lt, WithTop.coe_lt_coe]
      grind

lemma red_position_eq_iff (lowestAvg : WithTop K) :
    RedSkystoneAuto.classifier.position lowestAvg 0
        = RedSkystoneAutoOneBlock.classifier.position lowestAvg 0
      ↔ ¬ (lowestAvg ≤ (330 : K) ∧ ¬ lowestAvg < (320 : K)) := by
  cases lowestAvg with
  | top => simp [Classifier.position]
  | coe m =>
      simp only [Classifier.position, RedSkystoneAuto.classifier,
        RedSkystoneAutoOneBlock.classifier, gt_iff_lt, WithTop.coe_lt_coe, WithTop.coe_le_coe]
      grind

/-- **When the copies of an alliance agree.**  The blue copies assign the same position unless the
leftmost skystone is centred in `[600, 1000)`, the red ones unless it is centred in `[320, 330]`. -/
theorem classifiers_agree_iff (recognitions : List (Recognition K)) :
    (BlueSkystoneAuto.classifier.classify recognitions
        = BlueSkystoneAutoOneBlock.classifier.classify recognitions
      ↔ ¬ ((∃ x ∈ skystoneCentres recognitions, x < 1000)
          ∧ ∀ x ∈ skystoneCentres recognitions, 600 ≤ x))
    ∧ (RedSkystoneAuto.classifier.classify recognitions
        = RedSkystoneAutoOneBlock.classifier.classify recognitions
      ↔ ¬ ((∃ x ∈ skystoneCentres recognitions, x ≤ 330)
          ∧ ∀ x ∈ skystoneCentres recognitions, 320 ≤ x)) := by
  constructor
  · rw [Classifier.classify, Classifier.classify, blue_position_eq_iff, lowestAvg_lt_iff,
      lowestAvg_lt_iff]
    simp only [not_exists, not_and, not_lt]
  · rw [Classifier.classify, Classifier.classify, red_position_eq_iff, lowestAvg_le_iff,
      lowestAvg_lt_iff]
    simp only [not_exists, not_and, not_lt]

/-- A stone labelled as a skystone, a hundred pixels wide. -/
def stoneAt (x : ℚ) : Recognition ℚ := ⟨.literal "Skystone", x - 50, 300, x + 50, 400⟩

/-- A stone centred at 200 is the right one for both copies of each alliance. -/
theorem copies_agree_on_the_right :
    BlueSkystoneAuto.classifier.classify [stoneAt 200]
        = BlueSkystoneAutoOneBlock.classifier.classify [stoneAt 200]
      ∧ RedSkystoneAuto.classifier.classify [stoneAt 200]
        = RedSkystoneAutoOneBlock.classifier.classify [stoneAt 200] := by
  have hcentres : skystoneCentres [stoneAt 200] = [200] := by decide +kernel
  obtain ⟨hblue, hred⟩ := classifiers_agree_iff [stoneAt 200]
  rw [hcentres] at hblue hred
  exact ⟨hblue.mpr (by norm_num), hred.mpr (by norm_num)⟩

/-- On a stone centred at 800 one blue copy says middle, the other left. -/
theorem copies_differ_in_the_middle :
    ¬ ∀ recognitions : List (Recognition ℚ),
      BlueSkystoneAuto.classifier.classify recognitions
          = BlueSkystoneAutoOneBlock.classifier.classify recognitions
        ∧ RedSkystoneAuto.classifier.classify recognitions
          = RedSkystoneAutoOneBlock.classifier.classify recognitions := by
  intro h
  have heq := (h [stoneAt 800]).1
  have htwo : BlueSkystoneAuto.classifier.classify [stoneAt 800] = 1 := by decide +kernel
  have hone : BlueSkystoneAutoOneBlock.classifier.classify [stoneAt 800] = 0 := by decide +kernel
  rw [htwo, hone] at heq
  exact absurd heq (by decide)

end Designosaurs
