import Designosaurs.Interact.Hoare

/-!
# Two runs side by side

Two programs, each against its own environment, are compared through a relation `Rel` between their
histories.  `Simulates` says that from related histories they run alike: both are cut or neither is,
they end in related histories, and their results are related by `Q`.

The rules go through the two programs in step.  `simulates_self` is the rule for a part that both
runs share: nothing needs to be said about its shape, only that `Rel` survives what it emits and
that both environments answer what it asks in the same way.
-/

namespace Interact

open Program

variable {I I' : Interface} {α β α' β' σ σ' : Type}

/-- Two outcomes are alike: both cut or both returned, with what they left related. -/
def Alike (Rel : History I → History I' → Prop) (Q : α → α' → Prop) :
    Option α × History I → Option α' × History I' → Prop
  | (some a, h), (some a', h') => Q a a' ∧ Rel h h'
  | (none, h), (none, h') => Rel h h'
  | _, _ => False

lemma Alike.eq {Rel : History I → History I' → Prop} {r : Option α × History I}
    {r' : Option α × History I'} (hr : Alike Rel (· = ·) r r') : r'.1 = r.1 ∧ Rel r.2 r'.2 := by
  rcases r with ⟨_ | a, h⟩ <;> rcases r' with ⟨_ | a', h'⟩
  · exact ⟨rfl, hr⟩
  · exact False.elim hr
  · exact False.elim hr
  · exact ⟨congrArg some hr.1.symm, hr.2⟩

/-- From related histories, the two programs run alike. -/
def Simulates (env : Environment I) (env' : Environment I') (Rel : History I → History I' → Prop)
    (p : Program I α) (p' : Program I' α') (Q : α → α' → Prop) : Prop :=
  ∀ h h', Rel h h' → Alike Rel Q (run env p h) (run env' p' h')

variable {env : Environment I} {env' : Environment I'} {Rel : History I → History I' → Prop}

lemma Simulates.mono {p : Program I α} {p' : Program I' α'} {Q Q' : α → α' → Prop}
    (hp : Simulates env env' Rel p p' Q) (himp : ∀ a a', Q a a' → Q' a a') :
    Simulates env env' Rel p p' Q' := by
  intro h h' hrel
  have hrun := hp h h' hrel
  generalize run env p h = r at hrun ⊢
  generalize run env' p' h' = r' at hrun ⊢
  rcases r with ⟨_ | a, g⟩ <;> rcases r' with ⟨_ | a', g'⟩
  · exact hrun
  · exact False.elim hrun
  · exact False.elim hrun
  · exact ⟨himp a a' hrun.1, hrun.2⟩

lemma simulates_pure {Q : α → α' → Prop} {a : α} {a' : α'} (hQ : Q a a') :
    Simulates env env' Rel (pure a) (pure a') Q := fun _ _ hrel => ⟨hQ, hrel⟩

lemma simulates_cut {Q : α → α' → Prop} :
    Simulates env env' Rel (cut : Program I α) (cut : Program I' α') Q := fun _ _ hrel => hrel

lemma simulates_bind {p : Program I α} {p' : Program I' α'} {f : α → Program I β}
    {f' : α' → Program I' β'} {Q : α → α' → Prop} {Q' : β → β' → Prop}
    (hp : Simulates env env' Rel p p' Q)
    (hf : ∀ a a', Q a a' → Simulates env env' Rel (f a) (f' a') Q') :
    Simulates env env' Rel (p >>= f) (p' >>= f') Q' := by
  intro h h' hrel
  have hrun := hp h h' hrel
  rw [run_bind, run_bind]
  generalize run env p h = r at hrun ⊢
  generalize run env' p' h' = r' at hrun ⊢
  rcases r with ⟨_ | a, g⟩ <;> rcases r' with ⟨_ | a', g'⟩
  · exact hrun
  · exact False.elim hrun
  · exact False.elim hrun
  · exact hf a a' hrun.1 g g' hrun.2

lemma simulates_command {c : I.Command} {c' : I'.Command} {next : Program I α}
    {next' : Program I' α'} {Q : α → α' → Prop}
    (hc : ∀ h h', Rel h h' → Rel (.command c :: h) (.command c' :: h'))
    (hnext : Simulates env env' Rel next next' Q) :
    Simulates env env' Rel (command c next) (command c' next') Q :=
  fun h h' hrel => hnext _ _ (hc h h' hrel)

/-- A question on each side.  `A` is what the answers have in common. -/
lemma simulates_ask {q : I.Query} {q' : I'.Query} {next : I.Answer q → Program I α}
    {next' : I'.Answer q' → Program I' α'} {Q : α → α' → Prop}
    (A : I.Answer q → I'.Answer q' → Prop)
    (hq : ∀ h h', Rel h h' → A (env h q) (env' h' q')
      ∧ Rel (.answer q (env h q) :: h) (.answer q' (env' h' q') :: h'))
    (hnext : ∀ a a', A a a' → Simulates env env' Rel (next a) (next' a') Q) :
    Simulates env env' Rel (ask q next) (ask q' next') Q := by
  intro h h' hrel
  obtain ⟨hanswer, hrel'⟩ := hq h h' hrel
  exact hnext _ _ hanswer _ _ hrel'

lemma simulates_and {p q : Program I Bool} {p' q' : Program I' Bool}
    (hp : Simulates env env' Rel p p' (· = ·)) (hq : Simulates env env' Rel q q' (· = ·)) :
    Simulates env env' Rel (p.and q) (p'.and q') (· = ·) := by
  refine simulates_bind hp ?_
  rintro (_ | _) _ rfl
  · exact simulates_pure rfl
  · exact hq

/-- Two loops that test alike, and whose bodies keep their variables related. -/
lemma simulates_whileLoop {guard : Program I Bool} {guard' : Program I' Bool}
    {body : σ → Program I σ} {body' : σ' → Program I' σ'} {Q : σ → σ' → Prop}
    (hguard : Simulates env env' Rel guard guard' (· = ·))
    (hbody : ∀ s s', Q s s' → Simulates env env' Rel (body s) (body' s') Q) :
    ∀ (fuel : ℕ) {s : σ} {s' : σ'}, Q s s' →
      Simulates env env' Rel (whileLoop guard body fuel s) (whileLoop guard' body' fuel s') Q
  | 0, _, _, _ => simulates_cut
  | fuel + 1, s, s', hs => by
      refine simulates_bind hguard ?_
      rintro (_ | _) _ rfl
      · exact simulates_pure hs
      · refine simulates_bind (hbody s s' hs) fun _ _ hs' => ?_
        exact simulates_whileLoop hguard hbody fuel hs'

/-- **A part that both runs share.**  Every command it issues keeps the histories related, and every
question it asks is answered on both sides alike. -/
theorem simulates_self {env env' : Environment I} {Rel : History I → History I → Prop}
    {φ : Event I → Prop}
    (hcommand : ∀ c, φ (.command c) → ∀ h h', Rel h h' → Rel (.command c :: h) (.command c :: h'))
    (hanswer : ∀ q a, φ (.answer q a) → ∀ h h', Rel h h' → env h q = env' h' q
      ∧ Rel (.answer q (env h q) :: h) (.answer q (env' h' q) :: h'))
    {p : Program I α} (hp : Emits φ p) : Simulates env env' Rel p p (· = ·) := by
  induction p with
  | done a => exact simulates_pure rfl
  | cut => exact simulates_cut
  | command c next ih => exact simulates_command (hcommand c hp.1) (ih hp.2)
  | ask q next ih =>
      intro h h' hrel
      obtain ⟨heq, hrel'⟩ := hanswer q (env h q) (hp _).1 h h' hrel
      rw [run_ask, run_ask, heq]
      rw [heq] at hrel'
      exact ih _ (hp _).2 _ _ hrel'

end Interact
