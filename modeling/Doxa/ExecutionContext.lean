/-
**Who acts, and how it was established.**

What an execution is admitted with (`core/src/index.ts`): the actor, the chain of delegations that
made it act, and the authentication behind it.  An optional property of the source is an `Option`;
instants are counted in microseconds.

Main definitions:

* `Doxa.ActorRef`, `Doxa.DelegationHop`, `Doxa.AuthenticationContext`;
* `Doxa.codeUnits`, `Doxa.truthy` — the length of a text, and whether it is taken for true.
-/

import Mathlib

set_option relaxedAutoImplicit false
set_option autoImplicit false

namespace Doxa

inductive ActorKind
  | anonymous | user | service | system
deriving DecidableEq

def ActorKind.text : ActorKind → String
  | .anonymous => "anonymous"
  | .user => "user"
  | .service => "service"
  | .system => "system"

structure ActorRef where
  kind : ActorKind
  id : Option String
deriving DecidableEq

/-- One actor has another one act for it: `from` and `to`. -/
structure DelegationHop where
  fromActor : ActorRef
  toActor : ActorRef
  grantId : String
  reason : String
  expiresAt : Option ℤ
deriving DecidableEq

inductive AuthenticationState
  | anonymous
  | authenticated
deriving DecidableEq

inductive Assurance
  | singleFactor
  | multiFactor
  | phishingResistant
deriving DecidableEq

structure AuthenticationContext where
  state : AuthenticationState
  identityId : Option String
  method : Option String
  assurance : Option Assurance
  authenticatedAt : Option ℤ
  sessionId : Option String
  impersonationGrantId : Option String
  credentialId : Option String
  constraints : Option (List String)
deriving DecidableEq

/-- How many UTF-16 code units a text has: `length`. -/
def codeUnits (text : String) : ℕ :=
  (text.toList.map fun c => if c.toNat < 0x10000 then 1 else 2).sum

/-- A text that is there and not empty: what the source takes for true. -/
def truthy (text : Option String) : Option String := text.filter fun t => t ≠ ""

theorem truthy_eq_some_iff {text : Option String} {t : String} :
    truthy text = some t ↔ text = some t ∧ t ≠ "" := by
  rw [truthy, Option.filter_eq_some_iff, decide_eq_true_eq]

theorem codeUnits_pos {text : String} : 0 < codeUnits text ↔ text ≠ "" := by
  have hlist : text.toList ≠ [] ↔ text ≠ "" := not_congr (by simp)
  rw [← hlist, codeUnits]
  cases text.toList with
  | nil => simp
  | cons c cs =>
    refine ⟨fun _ => List.cons_ne_nil c cs, fun _ => ?_⟩
    rw [List.map_cons, List.sum_cons]
    split <;> omega

theorem codeUnits_append (s t : String) : codeUnits (s ++ t) = codeUnits s + codeUnits t := by
  rw [codeUnits, String.toList_append, List.map_append, List.sum_append, codeUnits, codeUnits]

theorem codeUnits_le (text : String) : codeUnits text ≤ 2 * text.toList.length := by
  rw [codeUnits]
  induction text.toList with
  | nil => exact le_refl 0
  | cons c cs ih =>
    rw [List.map_cons, List.sum_cons, List.length_cons]
    split <;> omega

theorem truthy_eq_self_iff {text : Option String} : truthy text = text ↔ text ≠ some "" := by
  cases text with
  | none => simp [truthy]
  | some t => simp [truthy, Option.filter_some]

theorem truthy_some {t : String} (h : t ≠ "") : truthy (some t) = some t :=
  truthy_eq_some_iff.2 ⟨rfl, h⟩

end Doxa
