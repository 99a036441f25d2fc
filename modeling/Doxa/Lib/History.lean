/-
**Properties of a history.**

A history is the list of the events of a run, the latest first.  Three kinds of events matter to a
property of the form "after this, not that until the other": a cause, an effect, and a release.  A
history *respects* the release when between a cause and an effect there is always one.  What has to
be known of the present is whether a cause is still *pending*, that is, not yet released.

Main definitions:

* `History.Pending` — there was a cause, and no release since;
* `History.Respects` — no effect while a cause is pending;
* `History.Alternates` — a history of switching on and off does either in turn.

Main results:

* `History.pending_cons` — how one event changes what is pending;
* `History.Respects.cons` — **one more event respects the release** unless it is an effect and a
  cause is pending;
* `History.Alternates.count_true` — in an alternating history on and off differ by at most one.
-/

import Mathlib.Data.List.Basic

set_option relaxedAutoImplicit false
set_option autoImplicit false

namespace History

variable {ε : Type*} (cause release effect : ε → Prop)

/-- There was a cause, and no release since. -/
def Pending (history : List ε) : Prop :=
  ∃ recent event older, history = recent ++ event :: older ∧ cause event ∧ ∀ e ∈ recent, ¬ release e

/-- Between a cause and an effect there is a release. -/
def Respects (history : List ε) : Prop :=
  ∀ newer late recent early older, history = newer ++ late :: (recent ++ early :: older) →
    effect late → cause early → ∃ e ∈ recent, release e

theorem not_pending_nil : ¬ Pending cause release [] := by
  rintro ⟨recent, event, older, hhistory, -⟩
  simp at hhistory

theorem respects_nil : Respects cause release effect [] := by
  intro newer late recent early older hhistory
  simp at hhistory

variable {cause release effect}

theorem pending_cons {event : ε} {history : List ε} :
    Pending cause release (event :: history) ↔
      cause event ∨ ¬ release event ∧ Pending cause release history := by
  constructor
  · rintro ⟨recent, event', older, hhistory, hcause, hrecent⟩
    cases recent with
    | nil =>
      cases hhistory
      exact .inl hcause
    | cons first recent =>
      cases hhistory
      exact .inr ⟨hrecent _ List.mem_cons_self, recent, event', older, rfl, hcause,
        fun e he => hrecent e (List.mem_cons_of_mem _ he)⟩
  · rintro (hcause | ⟨hevent, recent, event', older, rfl, hcause, hrecent⟩)
    · exact ⟨[], event, history, rfl, hcause, nofun⟩
    · refine ⟨event :: recent, event', older, rfl, hcause, ?_⟩
      intro e he
      rcases List.mem_cons.1 he with rfl | he
      · exact hevent
      · exact hrecent e he

/-- **One more event.** -/
theorem Respects.cons {event : ε} {history : List ε}
    (h : Respects cause release effect history)
    (hevent : effect event → ¬ Pending cause release history) :
    Respects cause release effect (event :: history) := by
  intro newer late recent early older hhistory heffect hcause
  cases newer with
  | nil =>
    cases hhistory
    by_contra hrelease
    push Not at hrelease
    exact hevent heffect ⟨recent, early, older, rfl, hcause, hrelease⟩
  | cons first newer =>
    exact h newer late recent early older (List.cons.inj hhistory).2 heffect hcause

/-! ### Switching on and off -/

/-- What the last switch left: nothing is on at first. -/
def isOn (history : List Bool) : Bool := history.headD false

/-- On and off in turn, the first being on. -/
def Alternates : List Bool → Prop
  | [] => True
  | event :: history => event = !isOn history ∧ Alternates history

/-- What has been switched on and not off is what is on. -/
theorem Alternates.count_true {history : List Bool} (h : Alternates history) :
    history.count true = history.count false + (isOn history).toNat := by
  induction history with
  | nil => rfl
  | cons event history ih =>
    obtain ⟨rfl, hrest⟩ := h
    have hcount := ih hrest
    cases hon : isOn history <;> simp_all [isOn]

end History
