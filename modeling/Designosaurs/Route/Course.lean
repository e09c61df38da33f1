import Mathlib.Algebra.BigOperators.Group.List.Basic
import Mathlib.Algebra.Order.Ring.Abs
import Mathlib.Tactic.Linarith
import Mathlib.Tactic.Ring

/-!
# Courses

A course is what something that moves does, one step after the other: it moves by a displacement, or
it acts where it stands.  Displacements are the elements of an additive group, so that a course can
be read in the turns of four wheels as well as on the plane.

* `displacement` — how far a course leads, and `acts` — what is done on it, and where.
* `displacement_near` — dead reckoning: when two courses go step by step with each other, and a move
  and its counterpart are at most `c` apart in some coordinate, then the places they lead to are at
  most `c` apart for each move.
* `acts_near` — and the same is done on both, one act after the other, at places that are as near.
-/

namespace Route

/-- One step of a course. -/
inductive Step (V A : Type*) where
  | move (v : V)
  | act (a : A)

variable {V W A K : Type*}

/-- The moves of a course are this many. -/
def moves : List (Step V A) → ℕ
  | [] => 0
  | .move _ :: rest => moves rest + 1
  | .act _ :: rest => moves rest

lemma moves_append (course later : List (Step V A)) :
    moves (course ++ later) = moves course + moves later := by
  fun_induction moves course with
  | case1 => exact (Nat.zero_add _).symm
  | case2 v rest ih => rw [List.cons_append, moves, ih, Nat.add_right_comm]
  | case3 a rest ih => rw [List.cons_append, moves, ih]

section Displacement

variable [AddMonoid V]

/-- The displacement from where a course begins to where it ends. -/
def displacement : List (Step V A) → V
  | [] => 0
  | .move v :: rest => v + displacement rest
  | .act _ :: rest => displacement rest

/-- The acts of a course that begins at `origin`, each with the place where it is done. -/
def acts : V → List (Step V A) → List (A × V)
  | _, [] => []
  | origin, .move v :: rest => acts (origin + v) rest
  | origin, .act a :: rest => (a, origin) :: acts origin rest

lemma displacement_append (course later : List (Step V A)) :
    displacement (course ++ later) = displacement course + displacement later := by
  fun_induction displacement course with
  | case1 => exact (zero_add _).symm
  | case2 v rest ih => rw [List.cons_append, displacement, ih, add_assoc]
  | case3 a rest ih => rw [List.cons_append, displacement, ih]

lemma acts_append (origin : V) (course later : List (Step V A)) :
    acts origin (course ++ later)
      = acts origin course ++ acts (origin + displacement course) later := by
  fun_induction acts origin course with
  | case1 origin => simp [displacement]
  | case2 origin v rest ih => rw [List.cons_append, acts, ih, displacement, add_assoc]
  | case3 origin a rest ih => rw [List.cons_append, acts, ih, displacement, List.cons_append]

/-- An act is done where the course up to it leads. -/
lemma mem_acts (origin : V) (course later : List (Step V A)) (a : A) :
    (a, origin + displacement course) ∈ acts origin (course ++ .act a :: later) := by
  rw [acts_append, acts]
  exact List.mem_append_right _ List.mem_cons_self

end Displacement

/-! ## Dead reckoning -/

section Near

variable [CommRing K] [LinearOrder K]

/-- The two steps are the same act, or moves that are at most `c` apart in a coordinate. -/
inductive Shadows (φ : V → K) (ψ : W → K) (c : K) : Step V A → Step W A → Prop where
  | move {v : V} {w : W} : |φ v - ψ w| ≤ c → Shadows φ ψ c (.move v) (.move w)
  | act (a : A) : Shadows φ ψ c (.act a) (.act a)

/-- An error in the displacement, and one in what the displacement should have been. -/
lemma near_of_near [AddGroup V] [IsStrictOrderedRing K] {φ : V →+ K} {v w : V} {x a b : K}
    (herror : |φ (v - w)| ≤ a) (hnear : |φ w - x| ≤ b) : |φ v - x| ≤ a + b := by
  have hsplit : φ v - x = φ (v - w) + (φ w - x) := by
    rw [map_sub]
    ring
  rw [hsplit]
  exact (abs_add_le _ _).trans (add_le_add herror hnear)

/-- **Dead reckoning.**  The error of a course is at most that of one move, times its moves. -/
theorem displacement_near [AddMonoid V] [AddMonoid W] [IsStrictOrderedRing K] {φ : V →+ K}
    {ψ : W →+ K} {c : K} {course : List (Step V A)} {plan : List (Step W A)}
    (hshadows : List.Forall₂ (Shadows φ ψ c) course plan) :
    |φ (displacement course) - ψ (displacement plan)| ≤ moves course * c := by
  induction hshadows with
  | nil => simp [displacement, moves]
  | @cons _ _ course plan hstep _ ih =>
      cases hstep with
      | act a => exact ih
      | @move v w hnear =>
          have hsplit : φ (v + displacement course) - ψ (w + displacement plan)
              = (φ v - ψ w) + (φ (displacement course) - ψ (displacement plan)) := by
            rw [map_add, map_add]
            ring
          rw [displacement, displacement, hsplit, moves, Nat.cast_add_one]
          calc |(φ v - ψ w) + (φ (displacement course) - ψ (displacement plan))|
              ≤ |φ v - ψ w| + |φ (displacement course) - ψ (displacement plan)| := abs_add_le _ _
            _ ≤ c + moves course * c := add_le_add hnear ih
            _ = (moves course + 1) * c := by ring

/-- What is done on the one course is done on the other, and near the same place. -/
theorem acts_near [AddMonoid V] [AddMonoid W] [IsStrictOrderedRing K] {φ : V →+ K} {ψ : W →+ K}
    {c : K} (hc : 0 ≤ c) {course : List (Step V A)} {plan : List (Step W A)}
    (hshadows : List.Forall₂ (Shadows φ ψ c) course plan) {v : V} {w : W} {b : K}
    (horigin : |φ v - ψ w| ≤ b) :
    List.Forall₂ (fun x y => x.1 = y.1 ∧ |φ x.2 - ψ y.2| ≤ b + moves course * c)
      (acts v course) (acts w plan) := by
  induction hshadows generalizing v w b with
  | nil => exact .nil
  | @cons _ _ course plan hstep _ ih =>
      cases hstep with
      | act a =>
          have hmoves : 0 ≤ moves course * c := mul_nonneg (Nat.cast_nonneg _) hc
          exact .cons ⟨rfl, horigin.trans (le_add_of_nonneg_right hmoves)⟩ (ih horigin)
      | @move v' w' hnear =>
          have hsplit : φ (v + v') - ψ (w + w') = (φ v - ψ w) + (φ v' - ψ w') := by
            rw [map_add, map_add]
            ring
          have hnext : |φ (v + v') - ψ (w + w')| ≤ b + c := by
            rw [hsplit]
            exact (abs_add_le _ _).trans (add_le_add horigin hnear)
          refine (ih hnext).imp fun x y hxy => ⟨hxy.1, hxy.2.trans_eq ?_⟩
          rw [moves, Nat.cast_add_one]
          ring

end Near

end Route
