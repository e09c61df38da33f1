import Designosaurs.Vision.Classifier

/-!
# What the choice of a stone depends on

Two laws of the classifier, for every copy of it.

`pos_ignores_distractors`: the position depends on the lowest skystone centre alone.  The order of
the boxes, the boxes labelled as something else and the skystones that are not the leftmost make no
difference, wherever the detector puts them in its list.

`zones_monotone_iff`: moving the leftmost skystone to the right moves the chosen zone to the right
or leaves it, with one gap.  Both thresholds are compared strictly and the chain of the source has
no last `else`, so a centre exactly on the lower threshold leaves `pos` at `0`, which is the far
zone and not one of the two it lies between.
-/

namespace Designosaurs

open Interact

variable {K : Type} [Field K] [LinearOrder K]

/-! ## Distractors -/

/-- A box that changes nothing beside the boxes `kept`: no skystone, or one that is not further left
than the leftmost of theirs. -/
def Distractor (kept : List (Recognition K)) (recognition : Recognition K) : Prop :=
  ¬ IsSkystone recognition ∨ (skystoneCentres kept).minimum ≤ (centre recognition : K)

/-- The lowest centre does not depend on the order of the boxes. -/
lemma lowestAvg_perm {recognitions recognitions' : List (Recognition K)}
    (hperm : recognitions.Perm recognitions') :
    lowestAvg recognitions = lowestAvg recognitions' := by
  refine hperm.foldl_eq' (fun r _ r' _ low => ?_) ⊤
  -- two turns of the loop take the minimum with both centres, in whichever order
  have hpair : ∀ r₁ r₂ : Recognition K, lower (lower low r₁) r₂
      = min low (skystoneCentres [r₁, r₂]).minimum := fun r₁ r₂ => foldl_lower [r₁, r₂] low
  rw [hpair, hpair]
  by_cases hr : IsSkystone r <;> by_cases hr' : IsSkystone r' <;>
    simp [skystoneCentres, hr, hr', List.minimum_cons, min_comm]

/-- Distractors at the end leave the lowest centre alone. -/
lemma lowestAvg_append {kept extra : List (Recognition K)}
    (hextra : ∀ r ∈ extra, Distractor kept r) : lowestAvg (kept ++ extra) = lowestAvg kept := by
  have hle : ∀ x ∈ skystoneCentres extra, (skystoneCentres kept).minimum ≤ (x : K) := by
    intro x hx
    obtain ⟨r, hr, rfl⟩ := List.mem_map.mp hx
    obtain ⟨hmem, hsky⟩ := List.mem_filter.mp hr
    exact (hextra r hmem).resolve_left (not_not.mpr (of_decide_eq_true hsky))
  calc lowestAvg (kept ++ extra)
      = min (lowestAvg kept) (skystoneCentres extra).minimum := by
        rw [lowestAvg, List.foldl_append, foldl_lower extra]
        rfl
    _ = lowestAvg kept := by
        rw [lowestAvg_eq_minimum, min_eq_left]
        exact List.le_minimum_of_forall_le fun x hx => hle x hx

/-- What the block of an op mode leaves in `pos`. -/
lemma run_detect (c : Classifier K) {env : Environment (robot K)} {h : History (robot K)}
    {recognitions : List (Recognition K)}
    (hnew : env h .getUpdatedRecognitions = some recognitions) :
    (Program.run env (c.detect true 0) h).1 = some (c.classify recognitions) := by
  obtain ⟨pos, h', hrun, rfl⟩ := exists_run_of_wp (c.wp_detect (R := fun _ => False) h hnew)
  rw [hrun]

/-- **The choice ignores order and distractors.**  Two runs of a classifier's block choose the same
position when the boxes they are shown have the same lowest skystone centre; in particular when the
one list is a rearrangement of the other, and when it is one of the other and of distractors put in
anywhere. -/
theorem pos_ignores_distractors (c : Classifier K) {env env' : Environment (robot K)}
    {h h' : History (robot K)} {recognitions recognitions' : List (Recognition K)}
    (hnew : env h .getUpdatedRecognitions = some recognitions)
    (hnew' : env' h' .getUpdatedRecognitions = some recognitions') :
    ((skystoneCentres recognitions).minimum = (skystoneCentres recognitions').minimum →
      (Program.run env (c.detect true 0) h).1 = (Program.run env' (c.detect true 0) h').1)
    ∧ (recognitions.Perm recognitions' →
      (Program.run env (c.detect true 0) h).1 = (Program.run env' (c.detect true 0) h').1)
    ∧ ∀ extra, recognitions'.Perm (recognitions ++ extra) →
      (∀ r ∈ extra, Distractor recognitions r) →
        (Program.run env (c.detect true 0) h).1 = (Program.run env' (c.detect true 0) h').1 := by
  have hpos : lowestAvg recognitions = lowestAvg recognitions' →
      (Program.run env (c.detect true 0) h).1 = (Program.run env' (c.detect true 0) h').1 := by
    intro hlow
    rw [run_detect c hnew, run_detect c hnew', Classifier.classify, Classifier.classify, hlow]
  refine ⟨fun hmin => hpos ?_, fun hperm => hpos (lowestAvg_perm hperm), ?_⟩
  · rw [lowestAvg_eq_minimum, lowestAvg_eq_minimum, hmin]
  · intro extra hperm hextra
    exact hpos ((lowestAvg_append hextra).symm.trans (lowestAvg_perm hperm).symm)

/-- A detector that always sees the same boxes. -/
def seeing (recognitions : List (Recognition ℚ)) : Environment (robot ℚ)
  | _, .isBusy _ => false
  | _, .getCurrentPosition _ => 0
  | _, .opModeIsActive => true
  | _, .nsNow => 0
  | _, .canCreateTFObjectDetector => true
  | _, .getUpdatedRecognitions => some recognitions

/-- A plain stone, wherever it is, and a second skystone further right do not distract it. -/
theorem pos_ignores_two_distractors :
    (Program.run (seeing [stoneAt 200]) (BlueSkystoneAuto.classifier.detect true 0) []).1
      = (Program.run (seeing [⟨.literal "Stone", 0, 0, 50, 50⟩, stoneAt 500, stoneAt 200])
          (BlueSkystoneAuto.classifier.detect true 0) []).1 := by
  have hnew : seeing [stoneAt 200] [] .getUpdatedRecognitions = some [stoneAt 200] := rfl
  refine (pos_ignores_distractors BlueSkystoneAuto.classifier hnew rfl).2.2
    [stoneAt 500, ⟨.literal "Stone", 0, 0, 50, 50⟩] ?_ ?_
  · exact List.reverse_perm [stoneAt 200, stoneAt 500, ⟨.literal "Stone", 0, 0, 50, 50⟩]
  · have hmin : (skystoneCentres [stoneAt 200]).minimum = ((200 : ℚ) : WithTop ℚ) := by
      have hcentres : skystoneCentres [stoneAt 200] = [200] := by decide +kernel
      rw [hcentres]
      rfl
    simp only [List.forall_mem_cons, List.not_mem_nil, false_imp_iff, implies_true, and_true,
      Distractor, hmin, WithTop.coe_le_coe]
    exact ⟨Or.inr (by norm_num [centre, stoneAt]), Or.inl (by decide)⟩

/-! ## Zones -/

/-- The three places a skystone can be in, from right to left. -/
inductive Zone where
  | right
  | middle
  | left
  deriving DecidableEq, Repr

namespace Zone

/-- How far to the left a zone is. -/
def rank : Zone → ℕ
  | right => 0
  | middle => 1
  | left => 2

/-- What the op modes write for it. -/
def label : Zone → String
  | right => "Right"
  | middle => "Middle"
  | left => "Left"

lemma rank_injective : Function.Injective rank := by
  intro a b hab
  cases a <;> cases b <;> first | rfl | exact absurd hab (by decide)

instance : LinearOrder Zone := LinearOrder.lift' rank rank_injective

end Zone

namespace Classifier

/-- The two thresholds, and the three positions, are apart. -/
structure Apart (c : Classifier K) : Prop where
  rightOf_lt : c.rightOf < c.leftOf
  middle_ne : c.middle ≠ 0
  right_ne : c.right ≠ 0
  right_ne_middle : c.right ≠ c.middle

/-- The zone a position of this copy stands for. -/
def zone (c : Classifier K) (pos : ℕ) : Zone :=
  if pos = 0 then .left else if pos = c.middle then .middle else .right

/-- The zone chosen for a picture. -/
def chosen (c : Classifier K) (recognitions : List (Recognition K)) : Zone :=
  c.zone (c.classify recognitions)

variable {c : Classifier K}

omit [Field K] in
/-- `zone` reads a position as the label that the copy shows when it assigns it. -/
lemma emits_setPos_label (hc : c.Apart) (low : WithTop K) :
    Emits (fun e : Event (robot K) => ∀ text, e = .command (.addData "Target pos" (.text text)) →
      text = (c.zone (c.position low 0)).label) (c.setPos low 0) := by
  have hmiddle := hc.middle_ne
  have hright := hc.right_ne
  have hne := hc.right_ne_middle
  unfold setPos position
  split_ifs <;> simp [zone, Zone.label, hmiddle, hright, hne]

/-- The chosen zone, by where the leftmost skystone is.  On the lower threshold it is the left
one. -/
lemma chosen_eq (hc : c.Apart) (recognitions : List (Recognition K)) :
    c.chosen recognitions
      = if (skystoneCentres recognitions).minimum < c.rightOf then .right
        else if c.rightOf < (skystoneCentres recognitions).minimum
          ∧ (skystoneCentres recognitions).minimum < c.leftOf then .middle
        else .left := by
  have hlt : (c.rightOf : WithTop K) < c.leftOf := WithTop.coe_lt_coe.mpr hc.rightOf_lt
  have hmiddle := hc.middle_ne
  have hright := hc.right_ne
  have hne := hc.right_ne_middle
  unfold chosen classify position
  rw [lowestAvg_eq_minimum]
  generalize (skystoneCentres recognitions).minimum = low
  rcases lt_trichotomy low c.rightOf with hlow | rfl | hlow
  · have h₁ : ¬ low > c.leftOf := (hlow.trans hlt).not_gt
    simp [zone, h₁, hlow, hlow.not_gt, hright, hne]
  · simp [zone, hlt.not_gt]
  · rcases lt_trichotomy low c.leftOf with hlow' | rfl | hlow'
    · simp [zone, hlow, hlow', hlow.not_gt, hlow'.not_gt, hmiddle]
    · simp [zone, hlow.not_gt]
    · simp [zone, hlow', hlow.not_gt, hlow'.not_gt]

/-- When the leftmost skystone is centred exactly on a threshold, the chosen zone is one of the two
that the threshold is between. -/
def GapFree (c : Classifier K) (recognitions : List (Recognition K)) : Prop :=
  ((skystoneCentres recognitions).minimum = c.leftOf →
    c.chosen recognitions = .middle ∨ c.chosen recognitions = .left)
  ∧ ((skystoneCentres recognitions).minimum = c.rightOf →
    c.chosen recognitions = .right ∨ c.chosen recognitions = .middle)

/-- The gap is the lower threshold. -/
lemma gapFree_iff (hc : c.Apart) (recognitions : List (Recognition K)) :
    c.GapFree recognitions ↔ (skystoneCentres recognitions).minimum ≠ c.rightOf := by
  unfold GapFree
  rw [chosen_eq hc]
  constructor
  · rintro ⟨-, hright⟩ heq
    simpa [heq] using hright heq
  · intro hne
    refine ⟨fun heq => ?_, fun heq => absurd heq hne⟩
    have hlt : (c.rightOf : WithTop K) < c.leftOf := WithTop.coe_lt_coe.mpr hc.rightOf_lt
    simp [heq, hlt.not_gt]

/-- The order is lost only from the gap to the middle. -/
lemma chosen_le_iff (hc : c.Apart) {recognitions recognitions' : List (Recognition K)}
    (hle : (skystoneCentres recognitions).minimum ≤ (skystoneCentres recognitions').minimum) :
    c.chosen recognitions ≤ c.chosen recognitions'
      ↔ ¬ ((skystoneCentres recognitions).minimum = c.rightOf
          ∧ c.rightOf < (skystoneCentres recognitions').minimum
          ∧ (skystoneCentres recognitions').minimum < c.leftOf) := by
  have hlt : (c.rightOf : WithTop K) < c.leftOf := WithTop.coe_lt_coe.mpr hc.rightOf_lt
  have hrank : ∀ z z' : Zone, z ≤ z' ↔ z.rank ≤ z'.rank := fun _ _ => Iff.rfl
  rw [chosen_eq hc, chosen_eq hc, hrank]
  generalize (skystoneCentres recognitions).minimum = low at hle ⊢
  generalize (skystoneCentres recognitions').minimum = low' at hle ⊢
  split_ifs <;> simp only [Zone.rank] <;> grind

/-- The copies of the four skystone op modes. -/
def copies : List (Classifier K) :=
  [BlueSkystoneAuto.classifier, BlueSkystoneAutoOneBlock.classifier, RedSkystoneAuto.classifier,
    RedSkystoneAutoOneBlock.classifier]

variable [IsStrictOrderedRing K]

lemma apart_of_mem_copies (hc : c ∈ copies) : c.Apart := by
  simp only [copies, List.mem_cons, List.not_mem_nil, or_false] at hc
  rcases hc with rfl | rfl | rfl | rfl
  all_goals
    constructor <;> norm_num [BlueSkystoneAuto.classifier, BlueSkystoneAutoOneBlock.classifier,
      RedSkystoneAuto.classifier, RedSkystoneAutoOneBlock.classifier]

/-- **When the zones follow the stone.**  Take two pictures, the leftmost skystone of the first not
to the right of the second's.  In each copy the zones are in order and free of gaps exactly when
neither of the two is centred on the lower threshold; and they are in order unless the first is
centred there and the second strictly between the two thresholds. -/
theorem zones_monotone_iff (hc : c ∈ copies) {recognitions recognitions' : List (Recognition K)}
    (hle : (skystoneCentres recognitions).minimum ≤ (skystoneCentres recognitions').minimum) :
    (c.chosen recognitions ≤ c.chosen recognitions'
        ∧ c.GapFree recognitions ∧ c.GapFree recognitions'
      ↔ (skystoneCentres recognitions).minimum ≠ c.rightOf
        ∧ (skystoneCentres recognitions').minimum ≠ c.rightOf)
    ∧ (c.chosen recognitions ≤ c.chosen recognitions'
      ↔ ¬ ((skystoneCentres recognitions).minimum = c.rightOf
          ∧ c.rightOf < (skystoneCentres recognitions').minimum
          ∧ (skystoneCentres recognitions').minimum < c.leftOf)) := by
  have happart := apart_of_mem_copies hc
  have horder := chosen_le_iff happart hle
  refine ⟨?_, horder⟩
  rw [gapFree_iff happart, gapFree_iff happart, horder]
  exact ⟨And.right, fun hne => ⟨fun hgap => hne.1 hgap.1, hne⟩⟩

/-- A plain stone at the left edge of the picture. -/
def plainStone : Recognition ℚ := ⟨.literal "Stone", 0, 300, 100, 400⟩

/-- Two pictures for `BlueSkystoneAuto`, each with two skystones and a plain stone further left: the
leftmost skystone is centred at 200 in the one and at 500 in the other. -/
theorem zones_monotone_right_middle :
    (BlueSkystoneAuto.classifier : Classifier ℚ) ∈ copies
      ∧ (skystoneCentres [plainStone, stoneAt 700, stoneAt 200]).minimum
        ≤ (skystoneCentres [stoneAt 500, plainStone, stoneAt 900]).minimum
      ∧ BlueSkystoneAuto.classifier.chosen [plainStone, stoneAt 700, stoneAt 200]
        ≤ BlueSkystoneAuto.classifier.chosen [stoneAt 500, plainStone, stoneAt 900]
      ∧ BlueSkystoneAuto.classifier.GapFree [plainStone, stoneAt 700, stoneAt 200] := by
  have hmem : (BlueSkystoneAuto.classifier : Classifier ℚ) ∈ copies := List.mem_cons_self
  have hfirst : (skystoneCentres [plainStone, stoneAt 700, stoneAt 200]).minimum = (200 : ℚ) := by
    decide +kernel
  have hsecond : (skystoneCentres [stoneAt 500, plainStone, stoneAt 900]).minimum = (500 : ℚ) := by
    decide +kernel
  have hle : (skystoneCentres [plainStone, stoneAt 700, stoneAt 200]).minimum
      ≤ (skystoneCentres [stoneAt 500, plainStone, stoneAt 900]).minimum := by
    rw [hfirst, hsecond]
    exact WithTop.coe_le_coe.mpr (by norm_num)
  obtain ⟨hchosen, hgap, -⟩ := (zones_monotone_iff hmem hle).1.mpr
    ⟨by rw [hfirst]; decide +kernel, by rw [hsecond]; decide +kernel⟩
  exact ⟨hmem, hle, hchosen, hgap⟩

/-- A stone centred exactly at 391 is put to the left of one centred at 500. -/
theorem threshold_stone_goes_left :
    ¬ ∀ c : Classifier ℚ, c ∈ copies → ∀ recognitions recognitions' : List (Recognition ℚ),
      (skystoneCentres recognitions).minimum ≤ (skystoneCentres recognitions').minimum →
        c.chosen recognitions ≤ c.chosen recognitions' ∧ c.GapFree recognitions
          ∧ c.GapFree recognitions' := by
  intro h
  have hle : (skystoneCentres [stoneAt 391]).minimum ≤ (skystoneCentres [stoneAt 500]).minimum := by
    decide +kernel
  have hzones := (h BlueSkystoneAuto.classifier List.mem_cons_self _ _ hle).1
  exact absurd hzones (by decide +kernel)

end Classifier

end Designosaurs
