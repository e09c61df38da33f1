import Designosaurs.Interact.Hoare

/-!
# More fuel

A loop that is given more fuel does what it did before and then, if it was cut, goes on.  `Prolongs`
says this of two programs, and its rules carry it from a loop to a program around it.  So the run of
an op mode for `n` rounds of its loop is the beginning of its run for `n + 1`.
-/

namespace Interact

variable {I : Interface} {α β σ : Type} {env : Environment I}

open Program

/-- From every history `p'` runs as `p` does, or goes on where `p` is cut. -/
def Prolongs (env : Environment I) (p p' : Program I α) : Prop :=
  ∀ h, run env p' h = run env p h
    ∨ (run env p h).1 = none ∧ (run env p h).2 <:+ (run env p' h).2

lemma Prolongs.refl (p : Program I α) : Prolongs env p p := fun _ => .inl rfl

lemma Prolongs.suffix {p p' : Program I α} (hp : Prolongs env p p') {r r' : Option α}
    {start h h' : History I} (hrun : run env p start = (r, h))
    (hrun' : run env p' start = (r', h')) : h <:+ h' := by
  have hprolongs := hp start
  rw [hrun, hrun'] at hprolongs
  rcases hprolongs with heq | ⟨-, hsuffix⟩
  · rw [(Prod.mk.inj heq).2]
  · exact hsuffix

lemma prolongs_bind {p p' : Program I β} {f f' : β → Program I α} (hp : Prolongs env p p')
    (hf : ∀ b, Prolongs env (f b) (f' b)) : Prolongs env (p >>= f) (p' >>= f') := by
  intro h
  rcases hp h with heq | ⟨hnone, hsuffix⟩
  · rw [run_bind, run_bind, heq]
    rcases run env p h with ⟨_ | b, h'⟩
    · exact .inl rfl
    · exact hf b h'
  · have hcut : run env (p >>= f) h = (none, (run env p h).2) := by
      rw [run_bind]
      rcases hrun : run env p h with ⟨_ | b, h'⟩
      · rfl
      · rw [hrun] at hnone
        exact absurd hnone (Option.some_ne_none b)
    rw [hcut]
    exact .inr ⟨rfl, hsuffix.trans (suffix_run_bind env p' f' h)⟩

/-- One more unit of fuel. -/
lemma prolongs_whileLoop (guard : Program I Bool) (body : σ → Program I σ) :
    ∀ (fuel : ℕ) (s : σ),
      Prolongs env (whileLoop guard body fuel s) (whileLoop guard body (fuel + 1) s)
  | 0, _ => fun h => .inr ⟨rfl, suffix_run env _ h⟩
  | fuel + 1, s => by
      refine prolongs_bind (.refl guard) fun b => ?_
      cases b with
      | false => exact .refl _
      | true => exact prolongs_bind (.refl _) fun s' => prolongs_whileLoop guard body fuel s'

end Interact
