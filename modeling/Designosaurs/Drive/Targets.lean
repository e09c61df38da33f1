import Designosaurs.TeleOp.Mixer
import Mathlib.Algebra.BigOperators.Group.List.Basic

/-!
# The target positions of `moveRTP`

`moveRTP` compares its `direction` with four literals and sends each wheel to plus or minus the
same number of ticks.  `wheelDistance` is that table of sixteen signs; `target` is what reaches
`setTargetPosition`.

Rounding half up does not commute with the sign, so the two wheels of a pair may be a tick apart.
The table is such that this never shows: `image_eq` computes the motion the four targets stand for
in the frame of `StandardTeleOp`'s mixer, and the rotation and cross components cancel exactly.
`route_agrees_with_mixer` carries that over a whole route.
-/

namespace Designosaurs

variable {K : Type} [Field K] [LinearOrder K]

/-- The directions `moveRTP` knows. -/
inductive Heading where
  | forward
  | backward
  | left
  | right
  deriving DecidableEq, Repr

namespace Heading

/-- The literal the source compares with. -/
def literal : Heading → StringRef
  | forward => .literal "forward"
  | backward => .literal "backward"
  | left => .literal "left"
  | right => .literal "right"

/-- The sideways directions, whose distance is stretched by `sideBias`. -/
def strafes : Heading → Bool
  | forward | backward => false
  | left | right => true

/-- The `if` chain of the source on its `direction` argument; `none` is the invalid input. -/
def ofString (direction : StringRef) : Option Heading :=
  if direction = .literal "forward" then some forward
  else if direction = .literal "backward" then some backward
  else if direction = .literal "left" then some left
  else if direction = .literal "right" then some right
  else none

lemma ofString_literal (heading : Heading) : ofString heading.literal = some heading := by
  cases heading <;> rfl

end Heading

section Table

variable (hw : HardwareDesignosaurs K)

/-- The second argument of each `setTargetPos` call, in ticks. -/
def wheelDistance (encDist : K) : Heading → Wheel → K
  | .forward, .frontLeft => -encDist
  | .forward, .frontRight => -encDist
  | .forward, .backLeft => encDist
  | .forward, .backRight => encDist
  | .backward, .frontLeft => encDist
  | .backward, .frontRight => encDist
  | .backward, .backLeft => -encDist
  | .backward, .backRight => -encDist
  | .left, .frontLeft => -encDist * hw.sideBias
  | .left, .frontRight => encDist * hw.sideBias
  | .left, .backLeft => encDist * hw.sideBias
  | .left, .backRight => -encDist * hw.sideBias
  | .right, .frontLeft => encDist * hw.sideBias
  | .right, .frontRight => -encDist * hw.sideBias
  | .right, .backLeft => -encDist * hw.sideBias
  | .right, .backRight => encDist * hw.sideBias

/-- `distance` in encoder ticks. -/
def encDist (distance : K) : K := distance / hw.encoderTicksPerInch

/-- The ticks a wheel is sent, up to sign. -/
def reach (heading : Heading) (distance : K) : K :=
  if heading.strafes then encDist hw distance * hw.sideBias else encDist hw distance

/-- The target position of a wheel. -/
def target [FloorRing K] (heading : Heading) (distance : K) (wheel : Wheel) : ℤ :=
  roundToInt (wheelDistance hw (encDist hw distance) heading wheel)

/-- The tick counts of a move fit in an `int`. -/
def TicksFit [FloorRing K] (heading : Heading) (distance : K) : Prop :=
  ∀ wheel, FitsInt (wheelDistance hw (encDist hw distance) heading wheel)

end Table

/-- Every entry of the table is plus or minus the reach. -/
lemma wheelDistance_eq (hw : HardwareDesignosaurs K) (heading : Heading) (distance : K)
    (wheel : Wheel) :
    wheelDistance hw (encDist hw distance) heading wheel = reach hw heading distance
      ∨ wheelDistance hw (encDist hw distance) heading wheel = -reach hw heading distance := by
  cases heading <;> cases wheel <;> simp [wheelDistance, reach, Heading.strafes]

lemma reach_nonneg [IsStrictOrderedRing K] {hw : HardwareDesignosaurs K} {heading : Heading}
    {distance : K} (h0 : 0 ≤ distance) : 0 ≤ reach hw heading distance := by
  have henc : 0 ≤ encDist hw distance := div_nonneg h0 hw.encoderTicksPerInch_pos.le
  unfold reach
  split_ifs
  · exact mul_nonneg henc hw.sideBias_pos.le
  · exact henc

/-! ## The motion the targets stand for -/

/-- One `moveRTP` call with a valid direction. -/
structure Leg (K : Type) where
  heading : Heading
  distance : K

section Image

variable [FloorRing K] (hw : HardwareDesignosaurs K)

/-- The target positions of a call, read back through the mixer. -/
def Leg.image (leg : Leg K) : Motion K :=
  unmix fun wheel => (target hw leg.heading leg.distance wheel : K)

/-- The motion a call asks for, in exact ticks. -/
def Leg.exact (leg : Leg K) : Motion K :=
  match leg.heading with
  | .forward => ⟨reach hw leg.heading leg.distance, 0, 0⟩
  | .backward => ⟨-reach hw leg.heading leg.distance, 0, 0⟩
  | .right => ⟨0, reach hw leg.heading leg.distance, 0⟩
  | .left => ⟨0, -reach hw leg.heading leg.distance, 0⟩

end Image

/-- The component of a motion along a direction, with the sign `StandardTeleOp` gives it. -/
def Heading.along (heading : Heading) (m : Motion K) : K :=
  match heading with
  | .forward => m.forward
  | .backward => -m.forward
  | .right => m.strafe
  | .left => -m.strafe

/-- The component of a motion across a direction. -/
def Heading.across (heading : Heading) (m : Motion K) : K :=
  match heading with
  | .forward | .backward => m.strafe
  | .right | .left => m.forward

variable [FloorRing K] {hw : HardwareDesignosaurs K}

/-- The mean of what the reach and its negative are rounded to: the ticks the wheels make good. -/
def meanReach (hw : HardwareDesignosaurs K) (heading : Heading) (distance : K) : K :=
  ((roundToInt (reach hw heading distance) : K) - roundToInt (-reach hw heading distance)) / 2

/-- **The image of a call.**  Rotation and cross component vanish, whatever the rounding did. -/
theorem image_eq (hw : HardwareDesignosaurs K) (leg : Leg K) :
    (leg.image hw).rotate = 0 ∧ leg.heading.across (leg.image hw) = 0
      ∧ leg.heading.along (leg.image hw) = meanReach hw leg.heading leg.distance := by
  obtain ⟨heading, distance⟩ := leg
  cases heading <;>
    simp only [Leg.image, unmix, target, wheelDistance, Heading.along, Heading.across, meanReach,
      reach, Heading.strafes, neg_mul] <;>
    refine ⟨?_, ?_, ?_⟩ <;> simp <;> ring

lemma TicksFit.reach {heading : Heading} {distance : K} (hfit : TicksFit hw heading distance) :
    FitsInt (reach hw heading distance) ∧ FitsInt (-reach hw heading distance) := by
  have hfl := hfit .frontLeft
  have hbl := hfit .backLeft
  cases heading <;>
    simp only [wheelDistance, Designosaurs.reach, Heading.strafes, neg_mul] at hfl hbl ⊢
  · exact ⟨hbl, hfl⟩
  · exact ⟨hfl, hbl⟩
  · exact ⟨hbl, hfl⟩
  · exact ⟨hfl, hbl⟩

variable [IsStrictOrderedRing K]

lemma ticksFit_of_reach_le {heading : Heading} {distance : K}
    (hreach : |reach hw heading distance| ≤ 2 ^ 30) : TicksFit hw heading distance := by
  intro wheel
  apply fitsInt_of_abs_le
  rcases wheelDistance_eq hw heading distance wheel with h | h <;> rw [h]
  · exact hreach
  · rwa [abs_neg]

/-- A move of at least a tick has no target at zero. -/
lemma target_ne_zero {heading : Heading} {distance : K} (hfit : TicksFit hw heading distance)
    (hreach : 1 ≤ |reach hw heading distance|) (wheel : Wheel) :
    target hw heading distance wheel ≠ 0 := by
  intro htarget
  have hnear := abs_roundToInt_sub_le (hfit wheel)
  rw [show roundToInt _ = 0 from htarget, Int.cast_zero, zero_sub, abs_neg] at hnear
  have habs : |wheelDistance hw (encDist hw distance) heading wheel|
      = |reach hw heading distance| := by
    rcases wheelDistance_eq hw heading distance wheel with h | h <;> rw [h]
    exact abs_neg _
  rw [habs] at hnear
  linarith

/-- On the robot of the source, a move on a playing field is far from the range of an `int`. -/
lemma designosaurs_ticksFit (heading : Heading) {distance : ℝ} (h0 : 0 ≤ distance)
    (hle : distance ≤ 1000) : TicksFit designosaurs heading distance := by
  obtain ⟨htick, -⟩ := designosaurs_encoderTicksPerInch_bounds
  obtain ⟨-, hbias⟩ := designosaurs_sideBias_bounds
  have henc : encDist designosaurs distance ≤ 50000 := by
    unfold encDist
    rw [div_le_iff₀ (by linarith)]
    linarith
  have henc0 : 0 ≤ encDist designosaurs distance :=
    div_nonneg h0 designosaurs.encoderTicksPerInch_pos.le
  apply ticksFit_of_reach_le
  rw [abs_of_nonneg (reach_nonneg h0), reach]
  split_ifs
  · calc encDist designosaurs distance * designosaurs.sideBias
        ≤ 50000 * 1.5 := mul_le_mul henc hbias.le designosaurs.sideBias_pos.le (by norm_num)
      _ ≤ 2 ^ 30 := by norm_num
  · exact henc.trans (by norm_num)

/-- The mean of the two roundings is within half a tick of the reach, on the right side of zero. -/
lemma meanReach_bounds {heading : Heading} {distance : K} (h0 : 0 ≤ distance)
    (hfit : TicksFit hw heading distance) :
    0 ≤ meanReach hw heading distance
      ∧ |meanReach hw heading distance - reach hw heading distance| ≤ 1 / 2 := by
  obtain ⟨hpos, hneg⟩ := hfit.reach
  have hr : 0 ≤ reach hw heading distance := reach_nonneg h0
  have hup : (0 : K) ≤ roundToInt (reach hw heading distance) := by
    exact_mod_cast roundToInt_nonneg hpos hr
  have hdown : (roundToInt (-reach hw heading distance) : K) ≤ 0 := by
    exact_mod_cast roundToInt_nonpos hneg (by linarith)
  have h₁ := le_roundToInt hpos
  have h₂ := roundToInt_le hpos
  have h₃ := le_roundToInt hneg
  have h₄ := roundToInt_le hneg
  unfold meanReach
  refine ⟨by linarith, abs_le.mpr ⟨by linarith, by linarith⟩⟩

/-! ## Routes -/

/-- The four targets of a call stand for a motion along its direction, in the sense the TeleOp
gives it, and within half a tick of what was asked for. -/
def AgreesWithMixer (hw : HardwareDesignosaurs K) (leg : Leg K) : Prop :=
  (leg.image hw).rotate = 0
    ∧ leg.heading.across (leg.image hw) = 0
    ∧ 0 ≤ leg.heading.along (leg.image hw)
    ∧ |leg.heading.along (leg.image hw) - reach hw leg.heading leg.distance| ≤ 1 / 2

lemma agreesWithMixer {leg : Leg K} (h0 : 0 ≤ leg.distance)
    (hfit : TicksFit hw leg.heading leg.distance) : AgreesWithMixer hw leg := by
  obtain ⟨hrot, hacross, halong⟩ := image_eq hw leg
  obtain ⟨hsign, hnear⟩ := meanReach_bounds h0 hfit
  refine ⟨hrot, hacross, ?_, ?_⟩
  · rw [halong]
    exact hsign
  · rw [halong]
    exact hnear

/-- A call whose targets agree with the mixer is off by at most half a tick in each component. -/
lemma AgreesWithMixer.error {leg : Leg K} (h : AgreesWithMixer hw leg) :
    |(leg.image hw).forward - (leg.exact hw).forward| ≤ 1 / 2
      ∧ |(leg.image hw).strafe - (leg.exact hw).strafe| ≤ 1 / 2 := by
  obtain ⟨-, hacross, -, hnear⟩ := h
  obtain ⟨heading, distance⟩ := leg
  have hhalf : |(0 : K)| ≤ 1 / 2 := by rw [abs_zero]; norm_num
  -- a reversed direction has both its component and what was asked for negated
  have hflip : ∀ a r : K, |-a - r| ≤ 1 / 2 → |a - -r| ≤ 1 / 2 := by
    intro a r har
    rw [← abs_neg]
    have heq : -(a - -r) = -a - r := by ring
    rw [heq]
    exact har
  cases heading <;> simp only [Heading.across, Heading.along, Leg.exact] at hacross hnear ⊢ <;>
    rw [hacross, sub_self]
  · exact ⟨hnear, hhalf⟩
  · exact ⟨hflip _ _ hnear, hhalf⟩
  · exact ⟨hhalf, hflip _ _ hnear⟩
  · exact ⟨hhalf, hnear⟩

/-- An error bound for each term bounds the error of the sum. -/
lemma abs_sum_map_sub_le {α : Type} {f g : α → K} {c : K} :
    ∀ l : List α, (∀ a ∈ l, |f a - g a| ≤ c) →
      |(l.map f).sum - (l.map g).sum| ≤ l.length * c
  | [], _ => by simp
  | a :: l, h => by
      have ih := abs_sum_map_sub_le l fun b hb => h b (List.mem_cons_of_mem a hb)
      have ha := h a (by simp)
      have hsplit : ((a :: l).map f).sum - ((a :: l).map g).sum
          = (f a - g a) + ((l.map f).sum - (l.map g).sum) := by
        simp only [List.map_cons, List.sum_cons]
        ring
      rw [hsplit, List.length_cons, Nat.cast_add_one]
      calc |(f a - g a) + ((l.map f).sum - (l.map g).sum)|
          ≤ |f a - g a| + |(l.map f).sum - (l.map g).sum| := abs_add_le _ _
        _ ≤ c + l.length * c := add_le_add ha ih
        _ = (l.length + 1) * c := by ring

/-- **The route kinematics agree with the driver's mixer.**  `unmix` inverts the mixer; every call
of the route stands for a motion that points where the TeleOp's does, without rotation or drift;
and over the route the rotation is exactly zero and each of the other two components is off by at
most half a tick a call. -/
theorem route_agrees_with_mixer (hw : HardwareDesignosaurs K) (route : List (Leg K))
    (hroute : ∀ leg ∈ route, 0 ≤ leg.distance ∧ TicksFit hw leg.heading leg.distance) :
    (∀ lv lh rh : K, unmix (mix lv lh rh) = ⟨lv, lh, rh⟩)
    ∧ (∀ leg ∈ route, AgreesWithMixer hw leg)
    ∧ (route.map fun leg => (leg.image hw).rotate).sum = 0
    ∧ |(route.map fun leg => (leg.image hw).forward).sum
        - (route.map fun leg => (leg.exact hw).forward).sum| ≤ route.length * (1 / 2)
    ∧ |(route.map fun leg => (leg.image hw).strafe).sum
        - (route.map fun leg => (leg.exact hw).strafe).sum| ≤ route.length * (1 / 2) := by
  have hagrees : ∀ leg ∈ route, AgreesWithMixer hw leg :=
    fun leg hleg => agreesWithMixer (hroute leg hleg).1 (hroute leg hleg).2
  refine ⟨unmix_mix, hagrees, ?_, ?_, ?_⟩
  · apply List.sum_eq_zero
    intro r hr
    obtain ⟨leg, hleg, rfl⟩ := List.mem_map.mp hr
    exact (hagrees leg hleg).1
  · exact abs_sum_map_sub_le route fun leg hleg => (hagrees leg hleg).error.1
  · exact abs_sum_map_sub_le route fun leg hleg => (hagrees leg hleg).error.2

/-- The square that `MoveRTPTest` drives. -/
noncomputable def testSquare : List (Leg ℝ) :=
  [⟨.forward, 10⟩, ⟨.left, 10⟩, ⟨.backward, 10⟩, ⟨.right, 10⟩]

theorem testSquare_agrees_with_mixer :
    (testSquare.map fun leg => (leg.image designosaurs).rotate).sum = 0
    ∧ |(testSquare.map fun leg => (leg.image designosaurs).forward).sum
        - (testSquare.map fun leg => (leg.exact designosaurs).forward).sum| ≤ 2 := by
  have hroute : ∀ leg ∈ testSquare,
      0 ≤ leg.distance ∧ TicksFit designosaurs leg.heading leg.distance := by
    intro leg hleg
    have hten : leg.distance = 10 := by
      fin_cases hleg <;> rfl
    rw [hten]
    exact ⟨by norm_num, designosaurs_ticksFit _ (by norm_num) (by norm_num)⟩
  obtain ⟨-, -, hrot, hforward, -⟩ := route_agrees_with_mixer designosaurs testSquare hroute
  refine ⟨hrot, hforward.trans ?_⟩
  norm_num [testSquare]

end Designosaurs
