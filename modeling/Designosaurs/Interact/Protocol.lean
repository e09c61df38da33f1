import Designosaurs.Interact.Hoare

/-!
# Protocols

A device that has to be used in a certain order comes with a protocol: a state, and what each event
makes of it.  An event that the state does not allow is a breach.

`Protocol.after` follows a protocol along a history.  `Follows` says of a program that it breaches
nothing from a given state, whatever it is answered; like `Emits` it is a property of the tree of
the program alone, and its rules go through the program part by part.  `wp_of_follows` is what it
is worth: in every run, returned or cut, the protocol has followed the history to its end.
-/

namespace Interact

open Program

variable {I : Interface} {S α β σ : Type}

/-- What each event makes of the state of a device; `none` is a breach. -/
abbrev Protocol (I : Interface) (S : Type) := S → Event I → Option S

namespace Protocol

variable {P : Protocol I S}

/-- The state after a history, unless there was a breach in it. -/
def after (P : Protocol I S) (s : S) : History I → Option S
  | [] => some s
  | e :: h => (P.after s h).bind fun s' => P s' e

@[simp] lemma after_nil (s : S) : P.after s [] = some s := rfl

lemma after_cons {s s' : S} {h : History I} (hs : P.after s h = some s') (e : Event I) :
    P.after s (e :: h) = P s' e := by
  rw [after, hs, Option.bind_some]

/-- What went through without a breach went so at each of its events. -/
lemma allowed_of_after {s : S} {h : History I} (hs : (P.after s h).isSome) {e : Event I}
    {past : History I} (hpast : e :: past <:+ h) :
    ∃ s', P.after s past = some s' ∧ (P s' e).isSome := by
  induction h with
  | nil => exact absurd hpast (by simp)
  | cons e' h ih =>
      obtain ⟨s', hs'⟩ := Option.isSome_iff_exists.mp hs
      obtain ⟨before, hbefore, hstep⟩ := Option.bind_eq_some_iff.mp hs'
      rcases List.suffix_cons_iff.mp hpast with heq | hpast
      · obtain ⟨rfl, rfl⟩ := List.cons.inj heq
        exact ⟨before, hbefore, by rw [hstep]; rfl⟩
      · exact ih (by rw [hbefore]; rfl) hpast

/-- There was no breach in the past of a history without one. -/
lemma isSome_of_suffix {s : S} {h past : History I} (hpast : past <:+ h)
    (hs : (P.after s h).isSome) : (P.after s past).isSome := by
  induction h with
  | nil => rwa [List.suffix_nil.mp hpast]
  | cons e h ih =>
      rcases List.suffix_cons_iff.mp hpast with rfl | hpast
      · exact hs
      · obtain ⟨s', hs'⟩ := Option.isSome_iff_exists.mp hs
        obtain ⟨before, hbefore, -⟩ := Option.bind_eq_some_iff.mp hs'
        exact ih hpast (by rw [hbefore]; rfl)

/-- From `s`, no path through the program breaches the protocol, and the paths that return end
in `Q`. -/
def Follows (P : Protocol I S) : Program I α → S → (α → S → Prop) → Prop
  | .done a, s, Q => Q a s
  | .cut, _, _ => True
  | .command c next, s, Q => ∃ s', P s (.command c) = some s' ∧ Follows P next s' Q
  | .ask q next, s, Q => ∀ a, ∃ s', P s (.answer q a) = some s' ∧ Follows P (next a) s' Q

variable {Q Q' : α → S → Prop} {s : S}

@[simp] lemma follows_pure (a : α) : P.Follows (pure a) s Q ↔ Q a s := Iff.rfl

@[simp] lemma follows_done (a : α) : P.Follows (done a) s Q ↔ Q a s := Iff.rfl

@[simp] lemma follows_command (c : I.Command) (next : Program I α) :
    P.Follows (command c next) s Q
      ↔ ∃ s', P s (.command c) = some s' ∧ P.Follows next s' Q := Iff.rfl

@[simp] lemma follows_ask (q : I.Query) (next : I.Answer q → Program I α) :
    P.Follows (ask q next) s Q
      ↔ ∀ a, ∃ s', P s (.answer q a) = some s' ∧ P.Follows (next a) s' Q := Iff.rfl

lemma Follows.mono {p : Program I α} (hp : P.Follows p s Q) (himp : ∀ a s', Q a s' → Q' a s') :
    P.Follows p s Q' := by
  induction p generalizing s with
  | done a => exact himp a s hp
  | cut => trivial
  | command c next ih =>
      obtain ⟨s', hs', hnext⟩ := hp
      exact ⟨s', hs', ih hnext⟩
  | ask q next ih =>
      intro a
      obtain ⟨s', hs', hnext⟩ := hp a
      exact ⟨s', hs', ih a hnext⟩

/-- Sequencing. -/
lemma follows_bind {p : Program I β} {f : β → Program I α} {M : β → S → Prop}
    (hp : P.Follows p s M) (hf : ∀ b s', M b s' → P.Follows (f b) s' Q) :
    P.Follows (p >>= f) s Q := by
  show P.Follows (Program.bind p f) s Q
  induction p generalizing s with
  | done b => exact hf b s hp
  | cut => trivial
  | command c next ih =>
      obtain ⟨s', hs', hnext⟩ := hp
      exact ⟨s', hs', ih hnext⟩
  | ask q next ih =>
      intro a
      obtain ⟨s', hs', hnext⟩ := hp a
      exact ⟨s', hs', ih a hnext⟩

/-- A part that does not concern the device. -/
lemma follows_of_emits {p : Program I α} (hp : Emits (fun e => P s e = some s) p) :
    P.Follows p s fun _ s' => s' = s := by
  induction p with
  | done a => rfl
  | cut => trivial
  | command c next ih => exact ⟨s, hp.1, ih hp.2⟩
  | ask q next ih => exact fun a => ⟨s, (hp a).1, ih a (hp a).2⟩

/-- A loop, with an invariant between its variables and the state of the device. -/
lemma follows_whileLoop {guard : Program I Bool} {body : σ → Program I σ} {Q : σ → S → Prop}
    (Inv : σ → S → Prop)
    (hstep : ∀ x s, Inv x s →
      P.Follows guard s fun b s' => if b then P.Follows (body x) s' Inv else Q x s') :
    ∀ (fuel : ℕ) (x : σ) (s : S), Inv x s → P.Follows (whileLoop guard body fuel x) s Q
  | 0, _, _, _ => trivial
  | fuel + 1, x, s, hx => by
      refine follows_bind (hstep x s hx) ?_
      rintro (_ | _) s' hb
      · exact hb
      · exact follows_bind hb fun x' s'' hx' => follows_whileLoop Inv hstep fuel x' s'' hx'

/-- **What keeping to a protocol is worth**: every run of the program is without a breach. -/
theorem wp_of_follows {env : Environment I} {p : Program I α} (hp : P.Follows p s Q) {start : S}
    {h : History I} (hs : P.after start h = some s) :
    wp env p (fun a h' => ∃ s', P.after start h' = some s' ∧ Q a s')
      (fun h' => (P.after start h').isSome) h := by
  induction p generalizing s h with
  | done a => exact ⟨s, hs, hp⟩
  | cut =>
      show (P.after start h).isSome
      rw [hs]
      rfl
  | command c next ih =>
      obtain ⟨s', hs', hnext⟩ := hp
      exact ih hnext ((after_cons hs _).trans hs')
  | ask q next ih =>
      obtain ⟨s', hs', hnext⟩ := hp (env h q)
      exact ih _ hnext ((after_cons hs _).trans hs')

end Protocol

end Interact
