import Designosaurs.Interact.Program

/-!
# Reasoning about runs

Two notions carry every proof about one program.

* `wp env p Q R h` — the weakest precondition: when `p` is run from `h`, a run that returns ends
  in `Q`, and a run that is cut stops in `R`.  The `@[simp]` rules compute it through straight-line
  code, and `wp_whileLoop` is the invariant rule.
* `Extends Good start h` — `h` was reached from `start`, and every event since was `Good` for the
  past it happened in.  A safety property of all runs of a program has this shape.

`Keeps env Inv p` abbreviates the case where one history predicate is both the pre- and the
postcondition; its rules are the ones a structural argument over a program uses.
-/

namespace Interact

variable {I : Interface} {α β σ : Type}

open Program

/-! ## Weakest preconditions -/

/-- Every run of `p` from `h` that returns ends in `Q`, and every run that is cut stops in `R`. -/
def wp (env : Environment I) (p : Program I α) (Q : α → History I → Prop) (R : History I → Prop)
    (h : History I) : Prop :=
  match run env p h with
  | (some a, h') => Q a h'
  | (none, h') => R h'

variable {env : Environment I} {Q Q' : α → History I → Prop} {R R' : History I → Prop}
  {h : History I}

@[simp] lemma wp_pure (a : α) : wp env (pure a) Q R h ↔ Q a h := Iff.rfl

@[simp] lemma wp_cut : wp env (cut : Program I α) Q R h ↔ R h := Iff.rfl

@[simp] lemma wp_done (a : α) : wp env (done a) Q R h ↔ Q a h := Iff.rfl

@[simp] lemma wp_command (c : I.Command) (next : Program I α) :
    wp env (command c next) Q R h ↔ wp env next Q R (.command c :: h) := Iff.rfl

@[simp] lemma wp_ask (q : I.Query) (next : I.Answer q → Program I α) :
    wp env (ask q next) Q R h
      ↔ wp env (next (env h q)) Q R (.answer q (env h q) :: h) := Iff.rfl

@[simp] lemma wp_bind (p : Program I β) (f : β → Program I α) :
    wp env (p >>= f) Q R h ↔ wp env p (fun b h' => wp env (f b) Q R h') R h := by
  unfold wp
  rw [run_bind]
  rcases run env p h with ⟨_ | b, h'⟩ <;> rfl

@[simp] lemma wp_ite (c : Prop) [Decidable c] (p q : Program I α) :
    wp env (if c then p else q) Q R h ↔ if c then wp env p Q R h else wp env q Q R h := by
  split_ifs <;> rfl

lemma wp_mono {p : Program I α} (hQ : ∀ a h', Q a h' → Q' a h') (hR : ∀ h', R h' → R' h')
    (hp : wp env p Q R h) : wp env p Q' R' h := by
  unfold wp at hp ⊢
  generalize run env p h = r at hp ⊢
  rcases r with ⟨_ | a, h'⟩
  · exact hR h' hp
  · exact hQ a h' hp

/-- Sequencing: what the first part establishes is what the second one starts from. -/
lemma wp_seq {p : Program I β} {f : β → Program I α} {M : β → History I → Prop}
    (hp : wp env p M R h) (hf : ∀ b h', M b h' → wp env (f b) Q R h') :
    wp env (p >>= f) Q R h := by
  rw [wp_bind]
  exact wp_mono hf (fun _ => id) hp

/-- Two facts about the same run hold together. -/
lemma wp_conj {p : Program I α} (hp : wp env p Q R h) (hp' : wp env p Q' R' h) :
    wp env p (fun a h' => Q a h' ∧ Q' a h') (fun h' => R h' ∧ R' h') h := by
  unfold wp at hp hp' ⊢
  generalize run env p h = r at hp hp' ⊢
  rcases r with ⟨_ | a, h'⟩ <;> exact ⟨hp, hp'⟩

lemma wp_forall {ι : Type*} {p : Program I α} {Q : ι → α → History I → Prop}
    {R : ι → History I → Prop} (hp : ∀ i, wp env p (Q i) (R i) h) :
    wp env p (fun a h' => ∀ i, Q i a h') (fun h' => ∀ i, R i h') h := by
  unfold wp at hp ⊢
  generalize run env p h = r at hp ⊢
  rcases r with ⟨_ | a, h'⟩ <;> exact hp

/-- The run itself: all that is known of a result is where it came from. -/
lemma wp_run (env : Environment I) (p : Program I α) (h : History I) :
    wp env p (fun a h' => run env p h = (some a, h')) (fun h' => run env p h = (none, h')) h := by
  unfold wp
  generalize run env p h = r
  rcases r with ⟨_ | a, h'⟩ <;> rfl

/-- A run that is known. -/
lemma wp_of_run {p : Program I α} {a : α} {h' : History I} (hrun : run env p h = (some a, h'))
    (hQ : Q a h') : wp env p Q R h := by
  unfold wp
  rw [hrun]
  exact hQ

/-- A run extends the history it starts from. -/
lemma wp_suffix (env : Environment I) (p : Program I α) (h : History I) :
    wp env p (fun _ h' => h <:+ h') (fun h' => h <:+ h') h := by
  have hsuffix := suffix_run env p h
  unfold wp
  generalize run env p h = r at hsuffix ⊢
  rcases r with ⟨_ | a, h'⟩ <;> exact hsuffix

lemma wp_true (env : Environment I) (p : Program I α) (h : History I) :
    wp env p (fun _ _ => True) (fun _ => True) h := by
  unfold wp
  generalize run env p h = r
  rcases r with ⟨_ | a, h'⟩ <;> trivial

/-- What `wp` says of the history a run ends with, returned or cut. -/
lemma wp_final {p : Program I α} {S : History I → Prop} (hp : wp env p (fun _ => S) S h) :
    S (run env p h).2 := by
  unfold wp at hp
  generalize run env p h = r at hp ⊢
  rcases r with ⟨_ | a, h'⟩ <;> exact hp

/-- What `wp` says of a run that returned. -/
lemma wp_returns {p : Program I α} {a : α} {h' : History I} (hp : wp env p Q R h)
    (hrun : run env p h = (some a, h')) : Q a h' := by
  simpa only [wp, hrun] using hp

/-- A run that cannot be cut returns. -/
lemma exists_run_of_wp {p : Program I α} (hp : wp env p Q (fun _ => False) h) :
    ∃ a h', run env p h = (some a, h') ∧ Q a h' := by
  unfold wp at hp
  generalize run env p h = r at hp ⊢
  rcases r with ⟨_ | a, h'⟩
  · exact hp.elim
  · exact ⟨a, h', rfl, hp⟩

/-- Short-circuit conjunction: the second test runs only after the first one answered `true`. -/
lemma wp_and (p q : Program I Bool) (Q : Bool → History I → Prop) :
    wp env (p.and q) Q R h
      ↔ wp env p (fun b h' => if b then wp env q Q R h' else Q false h') R h := by
  simp only [Program.and, wp_bind, wp_ite, wp_pure]

/-- What is known when a conjunction of tests has answered `true`. -/
lemma wp_and_true {p q : Program I Bool} {M N : History I → Prop}
    (hp : wp env p (fun b h' => b = true → M h') R h)
    (hq : ∀ h', M h' → wp env q (fun b h'' => b = true → N h'') R h') :
    wp env (p.and q) (fun b h' => b = true → N h') R h := by
  rw [wp_and]
  refine wp_mono ?_ (fun _ => id) hp
  rintro (_ | _) h' hM
  · exact fun hfalse => absurd hfalse (by simp)
  · exact hq h' (hM rfl)

/-- **The loop rule.**  An invariant that holds at the head of the loop, that the body restores
whenever the guard answered `true`, and that gives the postcondition when it answered `false`,
gives the postcondition of the loop.  A loop that runs out of fuel is cut at its head, so the
invariant must also imply the condition on cut runs. -/
theorem wp_whileLoop {guard : Program I Bool} {body : σ → Program I σ}
    {Q : σ → History I → Prop} (Inv : σ → History I → Prop)
    (hcut : ∀ s h, Inv s h → R h)
    (hstep : ∀ s h, Inv s h →
      wp env guard (fun b h' => if b then wp env (body s) Inv R h' else Q s h') R h) :
    ∀ (fuel : ℕ) (s : σ) (h : History I), Inv s h → wp env (whileLoop guard body fuel s) Q R h
  | 0, s, h, hs => hcut s h hs
  | fuel + 1, s, h, hs => by
      rw [whileLoop, wp_bind]
      refine wp_mono ?_ (fun _ => id) (hstep s h hs)
      rintro (_ | _) h' hb
      · exact hb
      · simp only [if_true, wp_bind] at hb ⊢
        exact wp_mono (fun s' h'' hs' => wp_whileLoop Inv hcut hstep fuel s' h'' hs')
          (fun _ => id) hb

/-- **The loop rule with a variant.**  A loop with more fuel than its variant is never cut for want
of it, as long as every iteration makes the variant smaller. -/
theorem wp_whileLoop_variant {guard : Program I Bool} {body : σ → Program I σ}
    {Q : σ → History I → Prop} (Inv : σ → History I → Prop) (variant : σ → History I → ℕ)
    (hstep : ∀ s h, Inv s h →
      wp env guard (fun b h' => if b then
        wp env (body s) (fun s' h'' => Inv s' h'' ∧ variant s' h'' < variant s h) R h'
          else Q s h') R h) :
    ∀ (fuel : ℕ) (s : σ) (h : History I), Inv s h → variant s h < fuel →
      wp env (whileLoop guard body fuel s) Q R h
  | 0, s, h, _, hfuel => absurd hfuel (Nat.not_lt_zero _)
  | fuel + 1, s, h, hs, hfuel => by
      rw [whileLoop, wp_bind]
      refine wp_mono ?_ (fun _ => id) (hstep s h hs)
      rintro (_ | _) h' hb
      · exact hb
      · simp only [if_true, wp_bind] at hb ⊢
        refine wp_mono (fun s' h'' hs' => ?_) (fun _ => id) hb
        exact wp_whileLoop_variant Inv variant hstep fuel s' h'' hs'.1
          (hs'.2.trans_le (Nat.lt_succ_iff.mp hfuel))

/-- A loop whose first test answers `false`. -/
lemma wp_whileLoop_skip {guard : Program I Bool} {body : σ → Program I σ}
    {Q : σ → History I → Prop} {s : σ} (hcut : R h)
    (hguard : wp env guard (fun b h' => b = false ∧ Q s h') R h) :
    ∀ fuel, wp env (whileLoop guard body fuel s) Q R h
  | 0 => hcut
  | fuel + 1 => by
      refine wp_seq hguard fun b h' hb => ?_
      rw [hb.1]
      exact hb.2

/-! ## Programs that keep an invariant -/

/-- `p` keeps `Inv`, whether it returns or is cut. -/
def Keeps (env : Environment I) (Inv : History I → Prop) (p : Program I α) : Prop :=
  ∀ h, Inv h → wp env p (fun _ => Inv) Inv h

/-- What has happened has happened, whatever is run. -/
lemma keeps_suffix (env : Environment I) (past : History I) (p : Program I α) :
    Keeps env (fun h => past <:+ h) p := fun h hh =>
  wp_mono (fun _ _ hs => hh.trans hs) (fun _ hs => hh.trans hs) (wp_suffix env p h)

variable {Inv : History I → Prop}

lemma Keeps.returns {p : Program I α} {a : α} {h' : History I} (hp : Keeps env Inv p)
    (hh : Inv h) (hrun : run env p h = (some a, h')) : Inv h' :=
  wp_returns (Q := fun _ => Inv) (hp h hh) hrun

lemma keeps_bind {p : Program I β} {f : β → Program I α} (hp : Keeps env Inv p)
    (hf : ∀ b, Keeps env Inv (f b)) : Keeps env Inv (p >>= f) :=
  fun h hh => wp_seq (hp h hh) fun b h' hh' => hf b h' hh'

lemma keeps_whileLoop {guard : Program I Bool} {body : σ → Program I σ}
    (hguard : Keeps env Inv guard) (hbody : ∀ s, Keeps env Inv (body s)) (fuel : ℕ) (s : σ) :
    Keeps env Inv (whileLoop guard body fuel s) := by
  refine wp_whileLoop (fun _ => Inv) (fun _ _ => id) (fun s h hh => ?_) fuel s
  refine wp_mono ?_ (fun _ => id) (hguard h hh)
  rintro (_ | _) h' hh'
  · exact hh'
  · exact hbody s h' hh'

/-- An invariant that survives every command and every answer of the environment is kept by every
program. -/
lemma keeps_of_env (hcommand : ∀ c h, Inv h → Inv (.command c :: h))
    (hanswer : ∀ q h, Inv h → Inv (.answer q (env h q) :: h)) (p : Program I α) :
    Keeps env Inv p := by
  induction p with
  | done a => exact fun _ hh => hh
  | cut => exact fun _ hh => hh
  | command c next ih => exact fun h hh => ih _ (hcommand c h hh)
  | ask q next ih => exact fun h hh => ih _ _ (hanswer q h hh)

/-! ## Programs that return

A run that is cut has used up its fuel somewhere.  `Completes` bounds where that can be.
-/

/-- Every run of `p` returns, or is cut at a history that is still `Live`. -/
def Completes (env : Environment I) (Live : History I → Prop) (p : Program I α) : Prop :=
  ∀ h, wp env p (fun _ _ => True) Live h

section Completes

variable {Live : History I → Prop}

lemma completes_pure (a : α) : Completes env Live (pure a : Program I α) := fun _ => trivial

lemma completes_bind {p : Program I β} {f : β → Program I α} (hp : Completes env Live p)
    (hf : ∀ b, Completes env Live (f b)) : Completes env Live (p >>= f) :=
  fun h => wp_seq (hp h) fun b h' _ => hf b h'

lemma completes_and {p q : Program I Bool} (hp : Completes env Live p)
    (hq : Completes env Live q) : Completes env Live (p.and q) :=
  completes_bind hp fun b h => (wp_ite _ _ _).mpr (by
    cases b
    · trivial
    · exact hq h)

/-- **A loop that is asked whether to go on.**  If its test passes only at `Live` histories, and the
body returns and keeps them so, then the loop returns as soon as the history is not `Live` any more:
with fuel for one test, it can only be cut at a `Live` one. -/
theorem completes_whileLoop {guard : Program I Bool} {body : σ → Program I σ}
    (hguard : ∀ h, wp env guard (fun b h' => b = true → Live h') Live h)
    (hbody : ∀ s h, Live h → wp env (body s) (fun _ => Live) Live h) :
    ∀ (fuel : ℕ) (s : σ), 0 < fuel → Completes env Live (whileLoop guard body fuel s)
  | 0, _, hfuel => absurd hfuel (lt_irrefl 0)
  | fuel + 1, s, _ => by
      intro h
      refine wp_seq (hguard h) fun b h₁ hb => ?_
      cases b with
      | false => trivial
      | true =>
          refine wp_seq (hbody s h₁ (hb rfl)) fun s' h₂ hlive => ?_
          cases fuel with
          | zero => exact hlive
          | succ n => exact completes_whileLoop hguard hbody (n + 1) s' n.succ_pos h₂

end Completes

/-! ## What a program can emit

Some facts need neither the environment nor the past: they hold of a program because no path
through its tree issues a command, or accepts an answer, of the wrong kind.
-/

/-- Every event of every run of the program satisfies `φ`, whatever is answered. -/
def Emits (φ : Event I → Prop) : Program I α → Prop
  | .done _ => True
  | .cut => True
  | .command c next => φ (.command c) ∧ Emits φ next
  | .ask q next => ∀ a, φ (.answer q a) ∧ Emits φ (next a)

variable {φ : Event I → Prop}

@[simp] lemma emits_pure (a : α) : Emits φ (pure a : Program I α) := trivial

@[simp] lemma emits_done (a : α) : Emits φ (done a : Program I α) := trivial

@[simp] lemma emits_command (c : I.Command) (next : Program I α) :
    Emits φ (command c next) ↔ φ (.command c) ∧ Emits φ next := Iff.rfl

@[simp] lemma emits_ask (q : I.Query) (next : I.Answer q → Program I α) :
    Emits φ (ask q next) ↔ ∀ a, φ (.answer q a) ∧ Emits φ (next a) := Iff.rfl

lemma Emits.mono {p : Program I α} {ψ : Event I → Prop} (hp : Emits φ p)
    (himp : ∀ e, φ e → ψ e) : Emits ψ p := by
  induction p with
  | done a => trivial
  | cut => trivial
  | command c next ih => exact ⟨himp _ hp.1, ih hp.2⟩
  | ask q next ih => exact fun a => ⟨himp _ (hp a).1, ih a (hp a).2⟩

lemma emits_bind {p : Program I β} {f : β → Program I α} (hp : Emits φ p)
    (hf : ∀ b, Emits φ (f b)) : Emits φ (p >>= f) := by
  show Emits φ (Program.bind p f)
  induction p with
  | done a => exact hf a
  | cut => trivial
  | command c next ih => exact ⟨hp.1, ih hp.2⟩
  | ask q next ih => exact fun a => ⟨(hp a).1, ih a (hp a).2⟩

@[simp] lemma emits_ite (c : Prop) [Decidable c] (p q : Program I α) :
    Emits φ (if c then p else q) ↔ (c → Emits φ p) ∧ (¬c → Emits φ q) := by
  split_ifs with hc <;> simp [hc]

@[simp] lemma emits_when (c : Prop) [Decidable c] (p : Program I Unit) :
    Emits φ (when c p) ↔ (c → Emits φ p) := by
  simp [when]

lemma emits_and {p q : Program I Bool} (hp : Emits φ p) (hq : Emits φ q) :
    Emits φ (p.and q) :=
  emits_bind hp fun _ => (emits_ite _ _ _).mpr ⟨fun _ => hq, fun _ => emits_pure false⟩

lemma emits_whileLoop {guard : Program I Bool} {body : σ → Program I σ}
    (hguard : Emits φ guard) (hbody : ∀ s, Emits φ (body s)) :
    ∀ (fuel : ℕ) (s : σ), Emits φ (whileLoop guard body fuel s)
  | 0, _ => trivial
  | fuel + 1, s =>
      emits_bind hguard fun _ => (emits_ite _ _ _).mpr
        ⟨fun _ => emits_bind (hbody s) fun s' => emits_whileLoop hguard hbody fuel s',
          fun _ => emits_pure s⟩

/-- A program that emits only `φ` keeps every invariant that `φ` events keep. -/
lemma Emits.keeps {p : Program I α} (hp : Emits φ p)
    (hInv : ∀ e h, φ e → Inv h → Inv (e :: h)) : Keeps env Inv p := by
  induction p with
  | done a => exact fun _ hh => hh
  | cut => exact fun _ hh => hh
  | command c next ih => exact fun h hh => ih hp.2 _ (hInv _ h hp.1 hh)
  | ask q next ih => exact fun h hh => ih _ (hp _).2 _ (hInv _ h (hp _).1 hh)

/-- A reading of the history that no event of the program changes stays as it is. -/
lemma Emits.keeps_reading {β : Type*} {f : History I → β} {p : Program I α}
    (hp : Emits (fun e => ∀ h, f (e :: h) = f h) p) (b : β) : Keeps env (fun h => f h = b) p :=
  hp.keeps fun _ h he hh => (he h).trans hh

/-! ## Histories that grew by good events -/

/-- `h` was reached from `start`, and every event since was `Good` for the past it happened in. -/
inductive Extends (Good : Event I → History I → Prop) (start : History I) : History I → Prop where
  | refl : Extends Good start start
  | step {e : Event I} {h : History I} :
      Good e h → Extends Good start h → Extends Good start (e :: h)

namespace Extends

variable {Good Good' : Event I → History I → Prop} {start mid : History I}

lemma suffix (hx : Extends Good start h) : start <:+ h := by
  induction hx with
  | refl => exact List.suffix_refl start
  | step _ _ ih => exact ih.trans (List.suffix_cons _ _)

lemma trans (h₁ : Extends Good start mid) (h₂ : Extends Good mid h) : Extends Good start h := by
  induction h₂ with
  | refl => exact h₁
  | step hgood _ ih => exact .step hgood ih

/-- Weakening what is good; the new notion may use that the past extends `start`. -/
lemma mono (hx : Extends Good start h)
    (himp : ∀ e h', start <:+ h' → Good e h' → Good' e h') : Extends Good' start h := by
  induction hx with
  | refl => exact .refl
  | step hgood hx ih => exact .step (himp _ _ hx.suffix hgood) ih

/-- `Extends` says exactly that each event since `start` was good for its past. -/
lemma iff_forall :
    Extends Good start h
      ↔ start <:+ h ∧ ∀ e past, e :: past <:+ h → start <:+ past → Good e past := by
  constructor
  · intro hx
    refine ⟨hx.suffix, ?_⟩
    induction hx with
    | refl =>
        intro e past he hs
        exact absurd (he.length_le.trans hs.length_le) (by simp)
    | @step e h' hgood hx ih =>
        intro e' past he hs
        rcases List.suffix_cons_iff.mp he with heq | he
        · obtain ⟨rfl, rfl⟩ := List.cons.inj heq
          exact hgood
        · exact ih e' past he hs
  · rintro ⟨⟨new, rfl⟩, hall⟩
    induction new with
    | nil => exact .refl
    | cons e new ih =>
        refine .step (hall e _ (List.suffix_refl _) (List.suffix_append _ _)) (ih ?_)
        exact fun e' past he hs => hall e' past (he.trans (List.suffix_cons _ _)) hs

/-- The good events are among those of the history they led to. -/
lemma within (hx : Extends Good start h) :
    Extends (fun e past => Good e past ∧ e :: past <:+ h) start h := by
  rw [iff_forall] at hx ⊢
  exact ⟨hx.1, fun e past he hs => ⟨hx.2 e past he hs, he⟩⟩

end Extends

section Runs

variable {Good Good' : Event I → History I → Prop} {p : Program I α}

lemma wp_extends_mono (hp : wp env p (fun _ => Extends Good h) (Extends Good h) h)
    (himp : ∀ e past, h <:+ past → Good e past → Good' e past) :
    wp env p (fun _ => Extends Good' h) (Extends Good' h) h :=
  wp_mono (fun _ _ hx => hx.mono himp) (fun _ hx => hx.mono himp) hp

/-- A program all of whose events are good. -/
lemma wp_extends_of_emits {φ : Event I → Prop} (hp : Emits φ p)
    (himp : ∀ e past, φ e → Good e past) :
    wp env p (fun _ => Extends Good h) (Extends Good h) h :=
  hp.keeps (fun e past he hx => .step (himp e past he) hx) h .refl

/-- Good events of one part, and then of the next. -/
lemma wp_extends_bind {f : α → Program I β}
    (hp : wp env p (fun _ => Extends Good h) (Extends Good h) h)
    (hf : ∀ a h', run env p h = (some a, h') →
      wp env (f a) (fun _ => Extends Good h') (Extends Good h') h') :
    wp env (p >>= f) (fun _ => Extends Good h) (Extends Good h) h := by
  have hboth := wp_mono (fun _ _ => id) (fun _ => And.right) (wp_conj (wp_run env p h) hp)
  refine wp_seq hboth fun a h' hh' => ?_
  exact wp_mono (fun _ _ hx => hh'.2.trans hx) (fun _ hx => hh'.2.trans hx) (hf a h' hh'.1)

/-- A run that extends its start by good events does so by good events of its own. -/
lemma wp_within (hp : wp env p (fun _ => Extends Good h) (Extends Good h) h) :
    wp env p (fun _ => Extends (fun e past => Good e past ∧ e :: past <:+ (run env p h).2) h)
      (Extends (fun e past => Good e past ∧ e :: past <:+ (run env p h).2) h) h := by
  unfold wp at hp ⊢
  generalize run env p h = r at hp ⊢
  rcases r with ⟨_ | a, h'⟩ <;> exact hp.within

end Runs

end Interact
