import Designosaurs.Interact.Hoare

/-!
# A program with two interfaces

Some programs talk to two systems at once.  `I.sum J` has the commands and the queries of both, and
`Program.inl` runs a program that was written for the first one alone.

`History.left` is what the first system saw of a history.  Every reading of histories over `I` can
be taken of it, so what is said about programs over `I` need not be said again.

`Emits (OnLeft φ)` says of a program over both that what the first system sees of it is as `φ` says.
-/

namespace Interact

variable {I J : Interface} {α : Type}

/-- The commands and queries of two interfaces side by side. -/
abbrev Interface.sum (I J : Interface) : Interface where
  Command := I.Command ⊕ J.Command
  Query := I.Query ⊕ J.Query
  Answer
    | .inl q => I.Answer q
    | .inr q => J.Answer q

namespace Program

/-- A program over the first interface, run over both. -/
def inl : Program I α → Program (I.sum J) α
  | done a => done a
  | cut => cut
  | command c next => command (.inl c) next.inl
  | ask q next => ask (.inl q) fun a => (next a).inl

@[simp] lemma inl_done (a : α) : (done a : Program I α).inl = (done a : Program (I.sum J) α) := rfl

@[simp] lemma inl_command (c : I.Command) (next : Program I α) :
    (command c next).inl = (command (.inl c) next.inl : Program (I.sum J) α) := rfl

end Program

/-- The event, if it is one of the first system. -/
def Event.left? : Event (I.sum J) → Option (Event I)
  | .command (.inl c) => some (.command c)
  | .answer (.inl q) a => some (.answer q a)
  | _ => none

/-- What the first system saw. -/
def History.left (h : History (I.sum J)) : History I := h.filterMap Event.left?

/-! ## Programs by what the first system sees of them -/

/-- The event is as `φ` says, if it is one of the first system. -/
def OnLeft (φ : Event I → Prop) (e : Event (I.sum J)) : Prop := ∀ e' ∈ e.left?, φ e'

variable {φ : Event I → Prop}

/-- A program of the first system. -/
lemma emits_inl {p : Program I α} (hp : Emits φ p) :
    Emits (OnLeft φ) (p.inl : Program (I.sum J) α) := by
  induction p with
  | done a => trivial
  | cut => trivial
  | command c next ih => exact ⟨fun _ he => Option.some.inj he ▸ hp.1, ih hp.2⟩
  | ask q next ih => exact fun a => ⟨fun _ he => Option.some.inj he ▸ (hp a).1, ih a (hp a).2⟩

/-- A command of the second system. -/
lemma emits_issue_inr (c : J.Command) :
    Emits (OnLeft φ) (Program.issue (I := I.sum J) (.inr c)) :=
  ⟨fun _ he => (nomatch he), trivial⟩

/-- A query of the second system. -/
lemma emits_query_inr (q : J.Query) :
    Emits (OnLeft φ) (Program.query (I := I.sum J) (.inr q)) :=
  fun _ => ⟨fun _ he => (nomatch he), trivial⟩

/-- An invariant of what the first system saw, which no event of the program disturbs. -/
lemma Emits.keeps_left {env : Environment (I.sum J)} {Inv : History I → Prop}
    {p : Program (I.sum J) α} (hp : Emits (OnLeft φ) p)
    (hInv : ∀ e h, φ e → Inv h → Inv (e :: h)) : Keeps env (fun h => Inv h.left) p := by
  refine hp.keeps fun e h he hh => ?_
  cases hleft : e.left? with
  | none => rwa [History.left, List.filterMap_cons_none hleft]
  | some e' =>
      rw [History.left, List.filterMap_cons_some hleft]
      exact hInv e' h.left (he e' hleft) hh

end Interact
