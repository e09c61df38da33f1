import Mathlib.Data.List.Infix
import Mathlib.Tactic.Basic

/-!
# Interactive programs and their histories

A control program is not a function of its inputs: it issues commands, asks the outside world for
readings, and what it does next depends on the answers.  This file is the general part of such a
development — it knows no particular commands or readings.

* `Interface` — which commands a program may issue, which queries it may ask, and the type of
  each answer.
* `Program I α` — a program as the tree of its next moves.  `cut` is a run that is observed no
  further: a loop that has used up its fuel ends there.
* `History I` — what has happened so far, **newest event first**, so that `e :: h` reads "after
  `h`, `e` happened" and the past of an event is the tail it was put on.
* `Environment I` — the outside world as a strategy: it answers a query from everything that has
  happened.  Quantifying over all environments quantifies over every trace of answers.
* `Program.run` — a program against an environment, from a history.

A run that is cut returns `none` and the history up to there, so a statement about the history for
every fuel is a statement about every prefix of every run, the endless ones included.
-/

namespace Interact

/-- What a program can do to the outside world, and what it can ask it. -/
structure Interface where
  Command : Type
  Query : Type
  Answer : Query → Type

variable {I : Interface} {α β γ σ : Type}

/-- One observable step: a command that was issued, or a query with the answer it got. -/
inductive Event (I : Interface) where
  | command (c : I.Command)
  | answer (q : I.Query) (a : I.Answer q)

/-- Everything that has happened, newest event first. -/
abbrev History (I : Interface) := List (Event I)

/-- The outside world: an answer to every query, depending on all that has happened. -/
abbrev Environment (I : Interface) := History I → (q : I.Query) → I.Answer q

/-- A program over an interface, as the tree of its next moves. -/
inductive Program (I : Interface) (α : Type) where
  | done (a : α)
  | cut
  | command (c : I.Command) (next : Program I α)
  | ask (q : I.Query) (next : I.Answer q → Program I α)

namespace Program

/-- Run `p`, then continue with `f` on its result. -/
def bind : Program I α → (α → Program I β) → Program I β
  | done a, f => f a
  | cut, _ => cut
  | command c next, f => command c (bind next f)
  | ask q next, f => ask q fun a => bind (next a) f

instance : Monad (Program I) where
  pure := done
  bind := bind

/-- Issue one command. -/
abbrev issue (c : I.Command) : Program I Unit := command c (done ())

/-- Ask one query and return the answer. -/
abbrev query (q : I.Query) : Program I (I.Answer q) := ask q done

/-! Sequencing computes on the tree, so that straight-line code unfolds by rewriting. -/

@[simp] lemma pure_then (a : α) (f : α → Program I β) : (pure a >>= f) = f a := rfl

@[simp] lemma done_then (a : α) (f : α → Program I β) : (done a >>= f) = f a := rfl

@[simp] lemma command_then (c : I.Command) (next : Program I α) (f : α → Program I β) :
    (command c next >>= f) = command c (next >>= f) := rfl

@[simp] lemma ask_then (q : I.Query) (next : I.Answer q → Program I α) (f : α → Program I β) :
    (ask q next >>= f) = ask q fun a => next a >>= f := rfl

/-- The short-circuit conjunction of two tests: `q` is not run when `p` answers `false`. -/
def and (p q : Program I Bool) : Program I Bool := do
  if ← p then q else return false

/-- `if (c) p`, with nothing to do otherwise. -/
def when (c : Prop) [Decidable c] (p : Program I Unit) : Program I Unit :=
  if c then p else return ()

/-- `while (guard) body`, for at most `fuel` iterations; `σ` holds the loop's local variables. -/
def whileLoop (guard : Program I Bool) (body : σ → Program I σ) : ℕ → σ → Program I σ
  | 0, _ => cut
  | fuel + 1, s => do
      if ← guard then
        let s' ← body s
        whileLoop guard body fuel s'
      else
        return s

/-! ## Running -/

/-- Run a program against an environment, from the history `h`. -/
def run (env : Environment I) : Program I α → History I → Option α × History I
  | done a, h => (some a, h)
  | cut, h => (none, h)
  | command c next, h => run env next (.command c :: h)
  | ask q next, h => run env (next (env h q)) (.answer q (env h q) :: h)

variable (env : Environment I)

@[simp] lemma run_pure (a : α) (h : History I) :
    run env (pure a : Program I α) h = (some a, h) := rfl

@[simp] lemma run_cut (h : History I) : run env (cut : Program I α) h = (none, h) := rfl

@[simp] lemma run_done (a : α) (h : History I) :
    run env (done a : Program I α) h = (some a, h) := rfl

@[simp] lemma run_command (c : I.Command) (next : Program I α) (h : History I) :
    run env (command c next) h = run env next (.command c :: h) := rfl

@[simp] lemma run_ask (q : I.Query) (next : I.Answer q → Program I α) (h : History I) :
    run env (ask q next) h = run env (next (env h q)) (.answer q (env h q) :: h) := rfl

/-- A run of `p >>= f` is the run of `p`, and, unless that one was cut, the run of `f` on its
result from the history it left. -/
lemma run_bind (p : Program I α) (f : α → Program I β) (h : History I) :
    run env (p >>= f) h
      = match run env p h with
        | (some a, h') => run env (f a) h'
        | (none, h') => (none, h') := by
  show run env (bind p f) h = _
  induction p generalizing h with
  | done a => rfl
  | cut => rfl
  | command c next ih => exact ih _
  | ask q next ih => exact ih _ _

/-- **Nothing is ever forgotten**: a run only puts events on top of the history it starts from. -/
theorem suffix_run (p : Program I α) (h : History I) : h <:+ (run env p h).2 := by
  induction p generalizing h with
  | done a => exact List.suffix_refl h
  | cut => exact List.suffix_refl h
  | command c next ih => exact (List.suffix_cons _ h).trans (ih _)
  | ask q next ih => exact (List.suffix_cons _ h).trans (ih _ _)

/-- What a program did, it has done when something else follows it. -/
lemma suffix_run_bind (p : Program I α) (f : α → Program I β) (h : History I) :
    (run env p h).2 <:+ (run env (p >>= f) h).2 := by
  rw [run_bind]
  rcases run env p h with ⟨_ | a, h'⟩
  · exact List.suffix_refl h'
  · exact suffix_run env (f a) h'

end Program

end Interact
