/-
**Hot reload.**

The supervisor (`praxis/src/hot-reload.ts`) builds the application again when files have changed,
and replaces the target that runs.  A change arms a timer; when the timer fires a reload is
requested, and one loop works off the requests: it takes the fingerprint of the files, goes on to
build if the fingerprint is another one than that of the last build, takes the fingerprint again,
stops the target and starts the next one.  Every step of it is asynchronous and may fail.

What the fingerprint tells of the files is the moment of the change that it has seen last: a change
that gives the files a size or a time they have not had before is a moment of its own, and one that
does not repeats an earlier one.  A reading that has been disturbed may see a part of a change, and
is then like no other.

The promise of the loop is forgotten in a microtask after the loop has ended.

Main definitions:

* `Doxa.ReloadPhase`, `Doxa.HotReload`, `Doxa.HotReloadLabel` — the loop, the supervisor, and what
  may happen;
* `Doxa.HotReload.step` — what it does;
* `Doxa.HotReload.IsFaithful` — what is promised in every state.
-/

import Mathlib
import Doxa.Lib.Transition

set_option relaxedAutoImplicit false
set_option autoImplicit false

namespace Doxa

/-- What `#drainReloads` waits for. -/
inductive ReloadPhase
  /-- There is no loop, and no promise of one. -/
  | idle
  /-- The fingerprint before a build; the changes that are seen since the reading began. -/
  | reading (force : Bool) (seen : List ℕ)
  | building (candidate : Option ℕ)
  /-- The fingerprint after a build. -/
  | rereading (seen : List ℕ)
  /-- The previous target is asked to stop. -/
  | replacing
  | starting
  /-- The loop has ended, and its promise is not forgotten yet. -/
  | settled (rejected : Bool)
deriving DecidableEq

/-- Where the first call of `stop` is. -/
inductive StopPhase
  | notCalled
  /-- It waits for the loop. -/
  | waiting
  /-- The target has been asked to stop. -/
  | asking
  | settled
deriving DecidableEq

structure HotReload where
  now : ℕ
  /-- What an undisturbed reading tells of the files. -/
  content : ℕ
  /-- When files have been changed since they are watched. -/
  edits : List ℕ
  /-- The fingerprint of the last build; none if the reading has been torn. -/
  fingerprint : Option ℕ
  target : Option ℕ
  /-- The targets that have been started, and whether they have been asked to stop. -/
  targets : List Bool
  timer : Bool
  reloadRequested : Bool
  forceReloadRequested : Bool
  stopping : Bool
  phase : ReloadPhase
  stop : StopPhase
  /-- A call of `stop` has settled. -/
  stopSettled : Bool
  /-- When the last build began. -/
  builtAt : ℕ
  /-- The last change that has been reported, and the last reload that has been forced. -/
  reportedAt : Option ℕ
  forcedAt : Option ℕ

inductive HotReloadLabel
  /-- A watched file is changed: it is as never before, or like something earlier. -/
  | edit (earlier : Option ℕ)
  /-- A watch event, of a change or of none. -/
  | report (edit : Option ℕ)
  | fire
  | requestReload (force : Bool)
  | fingerprinted (fingerprint : Option ℕ)
  | fingerprintFails
  | built (succeeds : Bool)
  | previousStopped (succeeds : Bool)
  | started (succeeds : Bool)
  /-- The promise of the loop is forgotten. -/
  | forget
  | callStop
  /-- The first call of `stop` goes on after the loop. -/
  | resumeStop
  | targetStopped
deriving DecidableEq

namespace HotReload

/-- The loop comes to its condition. -/
def drain (s : HotReload) : HotReload :=
  if s.reloadRequested = true ∧ s.stopping = false then
    { s with
      reloadRequested := false
      forceReloadRequested := false
      phase := .reading s.forceReloadRequested [s.content] }
  else { s with phase := .settled false }

/-- The request is noted, and the timer is not needed. -/
def requested (force : Bool) (s : HotReload) : HotReload :=
  { s with
    timer := false
    reloadRequested := true
    forceReloadRequested := s.forceReloadRequested || force
    forcedAt := if force then some s.now else s.forcedAt }

def requestReload (force : Bool) (s : HotReload) : HotReload :=
  if s.stopping then s
  else if s.phase = .idle then (s.requested force).drain
  else s.requested force

/-- Files are changed, and a reading that goes on may see it. -/
def edit (content : ℕ) (s : HotReload) : HotReload :=
  { s with
    content := content
    edits := s.edits ++ [s.now]
    phase :=
      match s.phase with
      | .reading force seen => .reading force (seen ++ [content])
      | .rereading seen => .rereading (seen ++ [content])
      | phase => phase }

/-- The fingerprint is read after a build. -/
def IsRereading : ReloadPhase → Prop
  | .rereading _ => True
  | _ => False

instance (phase : ReloadPhase) : Decidable (IsRereading phase) := by
  cases phase <;> unfold IsRereading <;> infer_instance

/-- What a reading may tell. -/
def IsReading (seen : List ℕ) : Option ℕ → Prop
  | some content => content ∈ seen
  | none => 1 < seen.length

instance (seen : List ℕ) (fingerprint : Option ℕ) : Decidable (IsReading seen fingerprint) := by
  cases fingerprint <;> unfold IsReading <;> infer_instance

/-- The target is asked to stop. -/
def askTarget (s : HotReload) : HotReload :=
  match s.target with
  | some target => { s with targets := s.targets.set target true }
  | none => s

/-- The loop has read the fingerprint. -/
def fingerprinted (fingerprint : Option ℕ) (s : HotReload) : Option HotReload :=
  match s.phase with
  | .reading force seen =>
    if IsReading seen fingerprint then
      if force = false ∧ fingerprint ≠ none ∧ fingerprint = s.fingerprint then some s.drain
      else some { s with phase := .building fingerprint, builtAt := s.now }
    else none
  | .rereading seen =>
    if IsReading seen fingerprint then
      if s.stopping then
        some { s with fingerprint := fingerprint, phase := .settled false }
      else
        some { s.askTarget with
          fingerprint := fingerprint, phase := .replacing }
    else none
  | _ => none

def built (succeeds : Bool) (s : HotReload) : Option HotReload :=
  match s.phase with
  | .building candidate =>
    if succeeds then some { s with phase := .rereading [s.content] }
    else some { s with fingerprint := candidate }.drain
  | _ => none

/-- `stop`, called for the first time or once more. -/
def callStop (s : HotReload) : HotReload :=
  if s.stopping then { s with stopSettled := true }
  else { s with stopping := true, timer := false, stop := .waiting }

/-- The promise of the loop is forgotten; a call of `stop` that has waited for it fails with it. -/
def forget (rejected : Bool) (s : HotReload) : HotReload :=
  if rejected = true ∧ s.stop = .waiting then
    { s with phase := .idle, stop := .settled, stopSettled := true }
  else { s with phase := .idle }

/-- Timers and watch events are not run between microtasks. -/
def IsSettled : ReloadPhase → Prop
  | .settled _ => True
  | _ => False

instance (phase : ReloadPhase) : Decidable (IsSettled phase) := by
  cases phase <;> unfold IsSettled <;> infer_instance

/-- A moment of the supervisor. -/
def move (s : HotReload) : HotReloadLabel → Option HotReload
  | .edit earlier => some (s.edit (earlier.getD s.now))
  | .report edit =>
    if s.stopping = false ∧ ¬ IsSettled s.phase ∧ ∀ moment ∈ edit, moment ∈ s.edits then
      some { s with timer := true, reportedAt := max edit s.reportedAt }
    else none
  | .fire =>
    if s.timer = true ∧ ¬ IsSettled s.phase then
      some ({ s with timer := false }.requestReload false)
    else none
  | .requestReload force => some (s.requestReload force)
  | .fingerprinted fingerprint => s.fingerprinted fingerprint
  | .fingerprintFails =>
    match s.phase with
    | .reading _ _ | .rereading _ =>
      some { s with phase := .settled true }
    | _ => none
  | .built succeeds => s.built succeeds
  | .previousStopped succeeds =>
    if s.phase = .replacing then
      if succeeds = false then some s.drain
      else if s.stopping then
        some { s with target := none, phase := .settled false }
      else some { s with target := none, phase := .starting }
    else none
  | .started succeeds =>
    if s.phase = .starting then
      if succeeds then
        some { s with target := some s.targets.length, targets := s.targets ++ [false] }.drain
      else some s.drain
    else none
  | .forget =>
    match s.phase with
    | .settled rejected => some (s.forget rejected)
    | _ => none
  | .callStop => some s.callStop
  | .resumeStop =>
    if s.stop = .waiting ∧ s.phase = .idle then
      some { s.askTarget with target := none, stop := .asking }
    else none
  | .targetStopped =>
    if s.stop = .asking then
      some { s with stop := .settled, stopSettled := true }
    else none

/-- Every moment has its time. -/
def step (s : HotReload) (label : HotReloadLabel) : Option HotReload :=
  (s.move label).map fun t => { t with now := s.now + 1 }

/-- The supervisor has just begun to watch: the first target runs. -/
structure IsInitial (s : HotReload) : Prop where
  content : s.content < s.now
  edits : s.edits = []
  fingerprint : ∀ content ∈ s.fingerprint, content < s.now
  targets : s.targets = [false]
  target : s.target = some 0
  phase : s.phase = .idle
  stopping : s.stopping = false
  stop : s.stop = .notCalled
  stopSettled : s.stopSettled = false
  builtAt : s.builtAt < s.now
  reportedAt : s.reportedAt = none
  forcedAt : s.forcedAt = none

/-- The last build began after the last change that was reported, and after the last reload that was
forced. -/
def IsCurrent (s : HotReload) : Prop :=
  (∀ edit ∈ s.reportedAt, edit < s.builtAt) ∧ ∀ force ∈ s.forcedAt, force < s.builtAt

instance (s : HotReload) : Decidable s.IsCurrent :=
  inferInstanceAs (Decidable ((∀ edit ∈ s.reportedAt, edit < s.builtAt) ∧
    ∀ force ∈ s.forcedAt, force < s.builtAt))

/-- What is promised. -/
structure IsFaithful (s : HotReload) : Prop where
  current : s.phase = .idle → s.timer = false → s.stopping = false → s.IsCurrent
  single : ∀ target other : ℕ, s.targets[target]? = some false → s.targets[other]? = some false →
    target = other
  stopped : s.stopSettled = true → ∀ asked ∈ s.targets, asked = true

/-- **The condition.** Every change shows in the fingerprint; the fingerprint after a build does not
show a change since the build began; reading it fails only if nothing is to be built and the
supervisor does not stop; no reload is requested, and `stop` is not called, between the end of the
loop and the moment its promise is forgotten, if that matters; and `stop` is not called again before
the target has been asked. -/
def KeepsFaith (s : HotReload) : HotReloadLabel → Prop
  | .edit earlier => earlier = none
  | .fingerprinted fingerprint =>
    IsRereading s.phase →
      ∀ content ∈ fingerprint, ∀ edit ∈ s.edits, edit ≤ content → edit < s.builtAt
  | .fingerprintFails => s.stopping = false ∧ s.IsCurrent
  | .requestReload force =>
    IsSettled s.phase → s.stopping = false → force = false ∧ s.IsCurrent
  | .callStop =>
    s.phase ≠ .settled true ∧ s.stop ≠ .waiting
  | _ => True

instance (s : HotReload) (label : HotReloadLabel) : Decidable (KeepsFaith s label) := by
  cases label <;> unfold KeepsFaith <;> infer_instance

open HotReload

/-! ### What holds in every run -/

variable {s t : HotReload} {label : HotReloadLabel}

/-- A fingerprint shows no change since the last build began. -/
def Shows (s : HotReload) (fingerprint : Option ℕ) : Prop :=
  ∀ content ∈ fingerprint, content < s.now ∧ ∀ edit ∈ s.edits, edit ≤ content → edit < s.builtAt

/-- What is known of the moments. -/
structure Timely (s : HotReload) : Prop where
  content : s.content < s.now
  edits : ∀ edit ∈ s.edits, edit < s.now ∧ edit ≤ s.content
  builtAt : s.builtAt < s.now
  fingerprint : s.Shows s.fingerprint
  reported : ∀ edit ∈ s.reportedAt, edit ∈ s.edits
  forced : ∀ force ∈ s.forcedAt, force < s.now

/-- What is known of the moments does not depend on anything else. -/
theorem Timely.of_moments (h : s.Timely)
    (hmoments : (t.now, t.content, t.edits, t.builtAt, t.fingerprint, t.reportedAt, t.forcedAt) =
      (s.now, s.content, s.edits, s.builtAt, s.fingerprint, s.reportedAt, s.forcedAt)) :
    t.Timely := by
  obtain ⟨content, edits, builtAt, fingerprint, reported, forced⟩ := h
  simp only [Prod.mk.injEq] at hmoments
  obtain ⟨hnow, hcontent, hedits, hbuiltAt, hfingerprint, hreportedAt, hforcedAt⟩ := hmoments
  refine ⟨?_, ?_, ?_, ?_, ?_, ?_⟩ <;> simp only [Shows, *] <;> assumption

/-- Nothing is to be built, but for what the timer stands for. -/
def Served (s : HotReload) : Prop :=
  s.stopping = false → (∀ edit ∈ s.reportedAt, edit < s.builtAt ∨ s.timer = true) ∧
    ∀ force ∈ s.forcedAt, force < s.builtAt

/-- What is to be built has been requested, or the timer stands for it. -/
def Pending (s : HotReload) : Prop :=
  s.stopping = false →
    (∀ edit ∈ s.reportedAt, edit < s.builtAt ∨ s.timer = true ∨ s.reloadRequested = true) ∧
      ∀ force ∈ s.forcedAt, force < s.builtAt ∨
        s.reloadRequested = true ∧ s.forceReloadRequested = true

/-- The same while the fingerprint is read, which sees what was changed before. -/
def Reading (s : HotReload) (force : Bool) (seen : List ℕ) : Prop :=
  s.stopping = false →
    (∀ edit ∈ s.reportedAt, edit < s.builtAt ∨ s.timer = true ∨ s.reloadRequested = true ∨
      ∀ content ∈ seen, edit ≤ content) ∧
      ∀ moment ∈ s.forcedAt, moment < s.builtAt ∨ force = true ∨
        s.reloadRequested = true ∧ s.forceReloadRequested = true

/-- All targets have been asked to stop. -/
def AllAsked (s : HotReload) : Prop := ∀ asked ∈ s.targets, asked = true

/-- What holds of the loop where it is. -/
def SoundPhase (s : HotReload) : Prop :=
  match s.phase with
  | .idle => s.Served
  | .reading force seen => (∀ content ∈ seen, content < s.now) ∧ s.Reading force seen
  | .building candidate => s.Shows candidate ∧ s.Pending
  | .rereading seen => (∀ content ∈ seen, content < s.now) ∧ s.Pending
  | .replacing | .starting => s.AllAsked ∧ s.Pending
  | .settled rejected => (rejected = true → s.stopping = false) ∧ s.Served

/-- What holds of the targets and of `stop`. -/
structure SoundTargets (s : HotReload) : Prop where
  unasked : ∀ target : ℕ, s.targets[target]? = some false → s.target = some target
  notCalled : s.stop = .notCalled ↔ s.stopping = false
  asked : s.stop = .asking ∨ s.stop = .settled →
    s.phase = .idle ∧ s.AllAsked
  stopSettled : s.stopSettled = true → s.stop = .asking ∨ s.stop = .settled

/-- What holds in every run. -/
structure Sound (s : HotReload) : Prop where
  timely : s.Timely
  phase : s.SoundPhase
  targets : s.SoundTargets

theorem IsInitial.sound (h : s.IsInitial) : s.Sound where
  timely := by
    refine ⟨h.content, by simp [h.edits], h.builtAt, fun content hcontent => ?_, ?_, ?_⟩
    · exact ⟨h.fingerprint content hcontent, by simp [h.edits]⟩
    · simp [h.reportedAt]
    · simp [h.forcedAt]
  phase := by
    rw [SoundPhase, h.phase]
    intro _
    simp [h.reportedAt, h.forcedAt]
  targets := by
    refine ⟨fun target htarget => ?_, ?_, ?_, ?_⟩
    · rw [h.targets, List.getElem?_singleton] at htarget
      split_ifs at htarget with hzero
      rw [h.target, hzero]
    · simp [h.stop, h.stopping]
    · simp [h.stop]
    · simp [h.stopSettled]

theorem Sound.isFaithful (h : s.Sound) : s.IsFaithful where
  current := by
    intro hphase htimer hstopping
    have hserved := h.phase
    rw [SoundPhase, hphase] at hserved
    obtain ⟨hedit, hforce⟩ := hserved hstopping
    refine ⟨fun edit hreported => ?_, hforce⟩
    exact (hedit edit hreported).resolve_right (by simp [htimer])
  single := by
    intro target other htarget hother
    have hone := h.targets.unasked target htarget
    rw [h.targets.unasked other hother] at hone
    exact (Option.some.inj hone).symm
  stopped := fun hsettled => (h.targets.asked (h.targets.stopSettled hsettled)).2

/-! ### The loop comes to its condition -/

theorem drain_now (s : HotReload) (now : ℕ) :
    { s.drain with now := now } = ({ s with now := now } : HotReload).drain := by
  unfold drain
  split <;> rfl

/-- A running loop starts the stop of the supervisor no sooner than it ends. -/
theorem SoundTargets.running (h : s.SoundTargets) (hphase : s.phase ≠ .idle) :
    ¬ (s.stop = .asking ∨ s.stop = .settled) :=
  fun hasked => hphase (h.asked hasked).1

/-- **The loop goes on, or ends**, with what is pending. -/
theorem Sound.drain (htimely : s.Timely) (hpending : s.Pending)
    (hunasked : ∀ target : ℕ, s.targets[target]? = some false → s.target = some target)
    (hnotCalled : s.stop = .notCalled ↔ s.stopping = false)
    (hrunning : ¬ (s.stop = .asking ∨ s.stop = .settled))
    (hstopSettled : s.stopSettled = true → s.stop = .asking ∨
      s.stop = .settled) : s.drain.Sound := by
  rw [HotReload.drain]
  split_ifs with hloop
  · refine ⟨htimely.of_moments rfl, ⟨?_, fun hstopping => ⟨fun edit hreported => ?_,
        fun force hforced => ?_⟩⟩,
      ⟨hunasked, hnotCalled, fun hasked => absurd hasked hrunning, hstopSettled⟩⟩
    · simpa using htimely.content
    · -- The reading sees all that has been changed so far.
      have hseen := (htimely.edits edit (htimely.reported edit hreported)).2
      simp [hseen]
    · obtain hbuilt | ⟨-, hforce⟩ := (hpending hstopping).2 force hforced
      · exact .inl hbuilt
      · exact .inr (.inl hforce)
  · refine ⟨htimely.of_moments rfl, ⟨by simp, fun hstopping => ⟨fun edit hreported => ?_,
        fun force hforced => ?_⟩⟩,
      ⟨hunasked, hnotCalled, fun hasked => absurd hasked hrunning, hstopSettled⟩⟩
    · have hedit := (hpending hstopping).1 edit hreported
      have hrequested : s.reloadRequested ≠ true := fun hrequested => hloop ⟨hrequested, hstopping⟩
      dsimp only
      tauto
    · have hforce := (hpending hstopping).2 force hforced
      have hrequested : s.reloadRequested ≠ true := fun hrequested => hloop ⟨hrequested, hstopping⟩
      dsimp only
      tauto

/-! ### The steps -/

variable {fingerprint : Option ℕ}

/-- A moment later, nothing else has changed. -/
def later (s : HotReload) : HotReload := { s with now := s.now + 1 }

theorem Shows.later (h : s.Shows fingerprint) : s.later.Shows fingerprint :=
  fun content hcontent => ⟨(h content hcontent).1.trans (Nat.lt_succ_self s.now),
    (h content hcontent).2⟩

theorem Timely.later (h : s.Timely) : s.later.Timely where
  content := h.content.trans (Nat.lt_succ_self s.now)
  edits := fun edit hedit =>
    ⟨(h.edits edit hedit).1.trans (Nat.lt_succ_self s.now), (h.edits edit hedit).2⟩
  builtAt := h.builtAt.trans (Nat.lt_succ_self s.now)
  fingerprint := h.fingerprint.later
  reported := h.reported
  forced := fun force hforce => (h.forced force hforce).trans (Nat.lt_succ_self s.now)

theorem SoundPhase.later (h : s.SoundPhase) : s.later.SoundPhase := by
  have hlt := Nat.lt_succ_self s.now
  rw [SoundPhase] at h ⊢
  rw [show s.later.phase = s.phase from rfl]
  cases hphase : s.phase with
  | idle | replacing | starting | settled rejected =>
    rw [hphase] at h
    exact h
  | reading force seen | rereading seen =>
    rw [hphase] at h
    exact ⟨fun content hcontent => (h.1 content hcontent).trans hlt, h.2⟩
  | building candidate =>
    rw [hphase] at h
    exact ⟨Shows.later h.1, h.2⟩

theorem Sound.later (h : s.Sound) : s.later.Sound :=
  ⟨h.timely.later, h.phase.later,
    ⟨h.targets.unasked, h.targets.notCalled, h.targets.asked, h.targets.stopSettled⟩⟩

/-- A change that shows is later than all that has been seen. -/
theorem Sound.edit (h : s.Sound) :
    ({ s.edit s.now with now := s.now + 1 } : HotReload).Sound := by
  have hshows : ∀ fingerprint, s.Shows fingerprint →
      ({ s.edit s.now with now := s.now + 1 } : HotReload).Shows fingerprint := by
    intro fingerprint hshows content hcontent
    obtain ⟨hlt, hedits⟩ := hshows content hcontent
    refine ⟨hlt.trans (Nat.lt_succ_self s.now), fun edit hedit hle => ?_⟩
    obtain hedit | hedit := List.mem_append.1 hedit
    · exact hedits edit hedit hle
    · obtain rfl := List.mem_singleton.1 hedit
      exact absurd hlt (not_lt.2 hle)
  refine ⟨⟨Nat.lt_succ_self s.now, fun edit hedit => ?_,
    h.timely.builtAt.trans (Nat.lt_succ_self s.now), hshows _ h.timely.fingerprint,
    fun edit hreported => List.mem_append_left _ (h.timely.reported edit hreported),
    fun force hforced => (h.timely.forced force hforced).trans (Nat.lt_succ_self s.now)⟩, ?_, ?_⟩
  · obtain hedit | hedit := List.mem_append.1 hedit
    · have hlt := (h.timely.edits edit hedit).1
      exact ⟨hlt.trans (Nat.lt_succ_self s.now), hlt.le⟩
    · obtain rfl := List.mem_singleton.1 hedit
      exact ⟨Nat.lt_succ_self s.now, le_rfl⟩
  · have hphase := h.phase
    rw [SoundPhase] at hphase ⊢
    cases hbefore : s.phase with
    | idle | replacing | starting | settled rejected =>
      rw [hbefore] at hphase
      simp only [HotReload.edit, hbefore]
      exact hphase
    | building candidate =>
      rw [hbefore] at hphase
      simp only [HotReload.edit, hbefore]
      exact ⟨hshows candidate hphase.1, hphase.2⟩
    | rereading seen =>
      rw [hbefore] at hphase
      simp only [HotReload.edit, hbefore]
      refine ⟨fun content hcontent => ?_, hphase.2⟩
      obtain hcontent | hcontent := List.mem_append.1 hcontent
      · exact (hphase.1 content hcontent).trans (Nat.lt_succ_self s.now)
      · obtain rfl := List.mem_singleton.1 hcontent
        exact Nat.lt_succ_self s.now
    | reading force seen =>
      rw [hbefore] at hphase
      simp only [HotReload.edit, hbefore]
      refine ⟨fun content hcontent => ?_, fun hstopping => ⟨fun edit hreported => ?_,
        (hphase.2 hstopping).2⟩⟩
      · obtain hcontent | hcontent := List.mem_append.1 hcontent
        · exact (hphase.1 content hcontent).trans (Nat.lt_succ_self s.now)
        · obtain rfl := List.mem_singleton.1 hcontent
          exact Nat.lt_succ_self s.now
      · -- What has been reported is earlier than this change.
        have hlt := (h.timely.edits edit (h.timely.reported edit hreported)).1
        have hedit := (hphase.2 hstopping).1 edit hreported
        simp only [List.mem_append, List.mem_singleton]
        refine hedit.imp_right fun hedit => hedit.imp_right fun hedit => hedit.imp_right ?_
        rintro hseen content (hcontent | rfl)
        · exact hseen content hcontent
        · exact hlt.le
  · refine ⟨h.targets.unasked, h.targets.notCalled, fun hasked => ?_, h.targets.stopSettled⟩
    obtain ⟨hidle, hall⟩ := h.targets.asked hasked
    exact ⟨by simp [HotReload.edit, hidle], hall⟩

/-- A watch event arms the timer. -/
theorem Sound.report {edit : Option ℕ} (h : s.Sound) (hsettled : ¬ IsSettled s.phase)
    (hedit : ∀ moment ∈ edit, moment ∈ s.edits) :
    ({ s with timer := true, reportedAt := max edit s.reportedAt } : HotReload).Sound := by
  have hreported : ∀ moment ∈ max edit s.reportedAt, moment ∈ s.edits := by
    intro moment hmoment
    cases hfirst : edit with
    | none =>
      rw [hfirst] at hmoment
      exact h.timely.reported moment (by simpa using hmoment)
    | some one =>
      cases hsecond : s.reportedAt with
      | none =>
        rw [hfirst, hsecond] at hmoment
        exact hedit moment (by simpa [hfirst] using hmoment)
      | some other =>
        rw [hfirst, hsecond, Option.max_some_some, Option.mem_some_iff] at hmoment
        obtain hmax | hmax := max_choice one other
        · exact hedit moment (by simp [hfirst, ← hmoment, hmax])
        · exact h.timely.reported moment (by simp [hsecond, ← hmoment, hmax])
  refine ⟨⟨h.timely.content, h.timely.edits, h.timely.builtAt, h.timely.fingerprint, hreported,
    h.timely.forced⟩, ?_, ⟨h.targets.unasked, h.targets.notCalled, h.targets.asked,
      h.targets.stopSettled⟩⟩
  have hphase := h.phase
  rw [SoundPhase] at hphase ⊢
  dsimp only
  cases hbefore : s.phase with
  | idle =>
    rw [hbefore] at hphase
    exact fun hstopping => ⟨fun _ _ => .inr rfl, (hphase hstopping).2⟩
  | reading force seen =>
    rw [hbefore] at hphase
    exact ⟨hphase.1, fun hstopping =>
      ⟨fun _ _ => .inr (.inl rfl), (hphase.2 hstopping).2⟩⟩
  | building candidate | rereading seen | replacing | starting =>
    rw [hbefore] at hphase
    exact ⟨hphase.1, fun hstopping =>
      ⟨fun _ _ => .inr (.inl rfl), (hphase.2 hstopping).2⟩⟩
  | settled rejected =>
    rw [hbefore] at hsettled
    exact absurd trivial hsettled

/-- The supervisor does not stop yet. -/
theorem Sound.notCalled (h : s.Sound) (hstopping : s.stopping = false) :
    ¬ (s.stop = .asking ∨ s.stop = .settled) := by
  rw [h.targets.notCalled.2 hstopping]
  simp

/-- **A reload is requested.** -/
theorem Sound.requestReload {force : Bool} (h : s.Sound)
    (hguard : IsSettled s.phase → s.stopping = false → force = false ∧ s.IsCurrent) :
    ({ s.requestReload force with now := s.now + 1 } : HotReload).Sound := by
  rw [HotReload.requestReload]
  by_cases hstopping : s.stopping = true
  · rw [if_pos hstopping]
    exact h.later
  have hrunning : s.stopping = false := by simpa using hstopping
  rw [if_neg hstopping]
  have hforced : ∀ moment ∈ (if force then some s.now else s.forcedAt), moment < s.now + 1 := by
    intro moment hmoment
    cases force with
    | true =>
      cases hmoment
      exact Nat.lt_succ_self s.now
    | false => exact (h.timely.forced moment hmoment).trans (Nat.lt_succ_self s.now)
  have htimely : Timely { s.requested force with now := s.now + 1 } :=
    ⟨h.later.timely.content, h.later.timely.edits, h.later.timely.builtAt,
      h.later.timely.fingerprint, h.later.timely.reported, hforced⟩
  have hphase := h.phase
  rw [SoundPhase] at hphase
  by_cases hidle : s.phase = .idle
  · -- The loop begins.
    rw [hidle] at hphase
    rw [if_pos hidle, drain_now]
    refine Sound.drain htimely (fun _ => ⟨fun _ _ => .inr (.inr rfl), fun moment hmoment => ?_⟩)
      h.targets.unasked h.targets.notCalled (h.notCalled hrunning) h.targets.stopSettled
    cases force with
    | true => exact .inr ⟨rfl, by simp [requested]⟩
    | false => exact .inl ((hphase hrunning).2 moment hmoment)
  · rw [if_neg hidle]
    refine ⟨htimely, ?_, ⟨h.targets.unasked, h.targets.notCalled, h.targets.asked,
      h.targets.stopSettled⟩⟩
    have hlt := Nat.lt_succ_self s.now
    have hnewForce : ∀ (built : Prop), (∀ moment ∈ s.forcedAt, moment < s.builtAt ∨ built ∨
        s.reloadRequested = true ∧ s.forceReloadRequested = true) →
          ∀ moment ∈ (if force then some s.now else s.forcedAt), moment < s.builtAt ∨ built ∨
            true = true ∧ (s.forceReloadRequested || force) = true := by
      intro built hold moment hmoment
      cases force with
      | true => exact .inr (.inr ⟨rfl, by simp⟩)
      | false =>
        refine (hold moment hmoment).imp_right fun hold => hold.imp_right fun hold => ⟨rfl, ?_⟩
        simp [hold.2]
    have hpending : s.Pending → Pending { s.requested force with now := s.now + 1 } := by
      intro hbefore _
      refine ⟨fun _ _ => .inr (.inr rfl), fun moment hmoment => ?_⟩
      have hnew := hnewForce False (fun moment hmoment =>
        ((hbefore hrunning).2 moment hmoment).imp_right .inr) moment hmoment
      exact hnew.imp_right fun hnew => hnew.resolve_left id
    rw [SoundPhase]
    rw [show ({ s.requested force with now := s.now + 1 } : HotReload).phase = s.phase from rfl]
    cases hbefore : s.phase with
    | idle => exact absurd hbefore hidle
    | reading force' seen =>
      rw [hbefore] at hphase
      refine ⟨fun content hcontent => (hphase.1 content hcontent).trans hlt, fun _ =>
        ⟨fun _ _ => .inr (.inr (.inl rfl)), ?_⟩⟩
      exact hnewForce _ (hphase.2 hrunning).2
    | building candidate =>
      rw [hbefore] at hphase
      exact ⟨Shows.later hphase.1, hpending hphase.2⟩
    | rereading seen =>
      rw [hbefore] at hphase
      exact ⟨fun content hcontent => (hphase.1 content hcontent).trans hlt, hpending hphase.2⟩
    | replacing | starting =>
      rw [hbefore] at hphase
      exact ⟨hphase.1, hpending hphase.2⟩
    | settled rejected =>
      -- Nothing is to be built, and the request does not matter.
      rw [hbefore] at hphase hguard
      obtain ⟨rfl, hcurrent⟩ := hguard trivial hrunning
      exact ⟨fun _ => hrunning, fun _ =>
        ⟨fun edit hreported => .inl (hcurrent.1 edit hreported), hcurrent.2⟩⟩

/-- All targets have been asked once the present one has. -/
theorem allAsked_askTarget (h : ∀ target : ℕ, s.targets[target]? = some false →
    s.target = some target) : s.askTarget.AllAsked := by
  intro asked hasked
  rw [askTarget] at hasked
  cases htarget : s.target with
  | none =>
    rw [htarget] at hasked
    obtain ⟨index, hindex⟩ := List.mem_iff_getElem?.1 hasked
    cases asked with
    | true => rfl
    | false => exact absurd (htarget ▸ h index hindex) (by simp)
  | some target =>
    rw [htarget] at hasked
    obtain ⟨index, hindex⟩ := List.mem_iff_getElem?.1 hasked
    dsimp only at hindex
    by_cases hsame : target = index
    · subst hsame
      rw [List.getElem?_set_self'] at hindex
      obtain ⟨-, -, rfl⟩ := Option.map_eq_some_iff.1 hindex
      rfl
    · rw [List.getElem?_set_ne hsame] at hindex
      cases asked with
      | true => rfl
      | false =>
        have hindex := h index hindex
        rw [htarget] at hindex
        exact absurd (Option.some.inj hindex) hsame

/-- Only the targets are changed when the present one is asked. -/
theorem askTarget_eq (s : HotReload) :
    s.askTarget = { s with targets := s.askTarget.targets } := by
  rw [askTarget]
  split <;> rfl

theorem AllAsked.unasked (h : s.AllAsked) (target : ℕ) : s.targets[target]? ≠ some false := by
  intro htarget
  have hasked := h false (List.mem_of_getElem? htarget)
  cases hasked

/-- A fingerprint that shows no change since the build, read among the moments so far. -/
theorem IsReading.shows {seen : List ℕ} (hread : IsReading seen fingerprint)
    (hseen : ∀ content ∈ seen, content < s.now)
    (hshows : ∀ content ∈ fingerprint, ∀ edit ∈ s.edits, edit ≤ content → edit < s.builtAt) :
    s.Shows fingerprint := by
  intro content hcontent
  refine ⟨?_, hshows content hcontent⟩
  obtain rfl := Option.mem_def.1 hcontent
  exact hseen content hread

/-- **The fingerprint has been read.** -/
theorem Sound.fingerprinted (h : s.Sound)
    (hguard : IsRereading s.phase → ∀ content ∈ fingerprint, ∀ edit ∈ s.edits,
      edit ≤ content → edit < s.builtAt) (hstep : s.fingerprinted fingerprint = some t) :
    ({ t with now := s.now + 1 } : HotReload).Sound := by
  have hphase := h.phase
  rw [SoundPhase] at hphase
  rw [HotReload.fingerprinted] at hstep
  split at hstep
  · next force seen hreading =>
      rw [hreading] at hphase
      split_ifs at hstep with hread hskip
      · -- The files are as they were for the last build.
        cases hstep
        obtain ⟨rfl, hsome, hsame⟩ := hskip
        rw [drain_now]
        refine Sound.drain h.timely.later (fun hstopping => ?_) h.targets.unasked
          h.targets.notCalled (h.targets.running (by rw [hreading]; simp)) h.targets.stopSettled
        obtain ⟨hedit, hforce⟩ := hphase.2 hstopping
        refine ⟨fun edit hreported => ?_, fun moment hmoment => ?_⟩
        · obtain hbuilt | htimer | hrequested | hseen := hedit edit hreported
          · exact .inl hbuilt
          · exact .inr (.inl htimer)
          · exact .inr (.inr hrequested)
          · obtain ⟨content, rfl⟩ := Option.ne_none_iff_exists'.1 hsome
            have hshown := h.timely.fingerprint content hsame.symm
            exact .inl (hshown.2 edit (h.timely.reported edit hreported)
              (hseen content hread))
        · simpa using hforce moment hmoment
      · -- A build begins, after all that has happened.
        cases hstep
        have hedits : ∀ edit ∈ s.edits, edit < s.now := fun edit hedit =>
          (h.timely.edits edit hedit).1
        refine ⟨⟨h.later.timely.content, h.later.timely.edits, Nat.lt_succ_self s.now,
          fun content hcontent => ⟨(h.later.timely.fingerprint content hcontent).1,
            fun edit hedit _ => hedits edit hedit⟩, h.timely.reported, h.later.timely.forced⟩,
          ⟨?_, fun _ => ⟨fun edit hreported => ?_, fun moment hmoment => ?_⟩⟩,
          ⟨h.targets.unasked, h.targets.notCalled, fun hasked => ?_, h.targets.stopSettled⟩⟩
        · refine hread.shows (fun content hcontent => ?_) fun _ _ edit hedit _ => hedits edit hedit
          exact (hphase.1 content hcontent).trans (Nat.lt_succ_self s.now)
        · exact .inl (hedits edit (h.timely.reported edit hreported))
        · exact .inl (h.timely.forced moment hmoment)
        · exact absurd hasked (h.targets.running (by rw [hreading]; simp))
  · next seen hrereading =>
      rw [hrereading] at hphase hguard
      split_ifs at hstep with hread hstopping
      · cases hstep
        have hshows := (hread.shows hphase.1 (hguard trivial)).later
        refine ⟨⟨h.later.timely.content, h.later.timely.edits, h.later.timely.builtAt, hshows,
          h.timely.reported, h.later.timely.forced⟩, ⟨by simp, fun hrunning => ?_⟩,
          ⟨h.targets.unasked, h.targets.notCalled, fun hasked => ?_, h.targets.stopSettled⟩⟩
        · have hrunning : s.stopping = false := hrunning
          rw [hstopping] at hrunning
          cases hrunning
        · exact absurd hasked (h.targets.running (by rw [hrereading]; simp))
      · cases hstep
        have hshows := (hread.shows hphase.1 (hguard trivial)).later
        have hall := allAsked_askTarget h.targets.unasked
        rw [askTarget_eq]
        refine ⟨⟨h.later.timely.content, h.later.timely.edits, h.later.timely.builtAt, hshows,
          h.timely.reported, h.later.timely.forced⟩, ⟨hall, hphase.2⟩,
          ⟨fun target htarget => ?_, h.targets.notCalled, fun hasked => ?_,
            h.targets.stopSettled⟩⟩
        · exact absurd htarget (hall.unasked target)
        · exact absurd hasked (h.targets.running (by rw [hrereading]; simp))
  · cases hstep

theorem Sound.built {succeeds : Bool} (h : s.Sound) (hstep : s.built succeeds = some t) :
    ({ t with now := s.now + 1 } : HotReload).Sound := by
  have hphase := h.phase
  rw [SoundPhase] at hphase
  rw [HotReload.built] at hstep
  split at hstep
  · next candidate hbuilding =>
      rw [hbuilding] at hphase
      have hrunning := h.targets.running (by rw [hbuilding]; simp)
      split_ifs at hstep
      · cases hstep
        refine ⟨h.later.timely.of_moments rfl, ⟨?_, hphase.2⟩, ⟨h.targets.unasked,
          h.targets.notCalled, fun hasked => absurd hasked hrunning, h.targets.stopSettled⟩⟩
        intro content hcontent
        obtain rfl := List.mem_singleton.1 hcontent
        exact h.later.timely.content
      · -- The fingerprint of the build that has failed is kept.
        cases hstep
        rw [drain_now]
        refine Sound.drain ⟨h.later.timely.content, h.later.timely.edits, h.later.timely.builtAt,
          Shows.later hphase.1, h.timely.reported, h.later.timely.forced⟩ hphase.2
          h.targets.unasked h.targets.notCalled hrunning h.targets.stopSettled
  · cases hstep

theorem Sound.previousStopped {succeeds : Bool} (h : s.Sound)
    (hstep : s.move (.previousStopped succeeds) = some t) :
    ({ t with now := s.now + 1 } : HotReload).Sound := by
  rw [move] at hstep
  split_ifs at hstep with hreplacing hsucceeds hstopping
  all_goals
    have hphase := h.phase
    rw [SoundPhase, hreplacing] at hphase
    have hrunning := h.targets.running (by rw [hreplacing]; simp)
    cases hstep
  · rw [drain_now]
    exact Sound.drain h.later.timely hphase.2 h.targets.unasked h.targets.notCalled hrunning
      h.targets.stopSettled
  · refine ⟨h.later.timely.of_moments rfl, ⟨by simp, fun hrunning => ?_⟩, ⟨fun target htarget => ?_,
      h.targets.notCalled, fun hasked => absurd hasked hrunning, h.targets.stopSettled⟩⟩
    · have hrunning : s.stopping = false := hrunning
      rw [hstopping] at hrunning
      cases hrunning
    · exact absurd htarget (hphase.1.unasked target)
  · refine ⟨h.later.timely.of_moments rfl, hphase, ⟨fun target htarget => ?_, h.targets.notCalled,
      fun hasked => absurd hasked hrunning, h.targets.stopSettled⟩⟩
    exact absurd htarget (hphase.1.unasked target)

theorem Sound.started {succeeds : Bool} (h : s.Sound)
    (hstep : s.move (.started succeeds) = some t) :
    ({ t with now := s.now + 1 } : HotReload).Sound := by
  rw [move] at hstep
  split_ifs at hstep with hstarting hsucceeds
  all_goals
    have hphase := h.phase
    rw [SoundPhase, hstarting] at hphase
    have hrunning := h.targets.running (by rw [hstarting]; simp)
    cases hstep
    rw [drain_now]
  · refine Sound.drain (h.later.timely.of_moments rfl) hphase.2 (fun target htarget => ?_)
      h.targets.notCalled hrunning h.targets.stopSettled
    -- Only the new target has not been asked.
    dsimp only at htarget ⊢
    rw [List.getElem?_append] at htarget
    split_ifs at htarget with hold
    · exact absurd htarget (hphase.1.unasked target)
    · rw [List.getElem?_singleton] at htarget
      split_ifs at htarget with hlast
      congr 1
      omega
  · exact Sound.drain h.later.timely hphase.2 h.targets.unasked h.targets.notCalled hrunning
      h.targets.stopSettled

theorem Sound.forget {rejected : Bool} (h : s.Sound)
    (hsettled : s.phase = .settled rejected) :
    ({ s.forget rejected with now := s.now + 1 } : HotReload).Sound := by
  have hphase := h.phase
  rw [SoundPhase, hsettled] at hphase
  have hrunning := h.targets.running (by rw [hsettled]; simp)
  have hwaiting : ¬ (rejected = true ∧ s.stop = .waiting) := by
    rintro ⟨hrejected, hwaiting⟩
    have hnotCalled := h.targets.notCalled.2 (hphase.1 hrejected)
    rw [hwaiting] at hnotCalled
    cases hnotCalled
  rw [HotReload.forget, if_neg hwaiting]
  exact ⟨h.later.timely.of_moments rfl, hphase.2, ⟨h.targets.unasked, h.targets.notCalled,
    fun hasked => absurd hasked hrunning, h.targets.stopSettled⟩⟩

/-- Nothing is owed by a supervisor that stops. -/
theorem soundPhase_of_stopping (hstopping : s.stopping = true)
    (hphase : ∀ rejected, s.phase = .settled rejected → rejected = false)
    (h : t.SoundPhase) (hsame : t.phase = s.phase) (hnow : t.now ≤ s.now)
    (hedits : s.edits = t.edits) (hbuiltAt : s.builtAt = t.builtAt)
    (htargets : s.targets = t.targets) : s.SoundPhase := by
  have hnot : s.stopping ≠ false := by simp [hstopping]
  have hshows : ∀ fingerprint, t.Shows fingerprint → s.Shows fingerprint := by
    intro fingerprint hshows content hcontent
    obtain ⟨hlt, hearlier⟩ := hshows content hcontent
    exact ⟨hlt.trans_le hnow, fun edit hedit hle => hbuiltAt ▸ hearlier edit (hedits ▸ hedit) hle⟩
  rw [SoundPhase] at h ⊢
  rw [hsame] at h
  cases hcase : s.phase with
  | idle => exact fun hrunning => absurd hrunning hnot
  | reading force seen =>
    rw [hcase] at h
    exact ⟨fun content hcontent => (h.1 content hcontent).trans_le hnow,
      fun hrunning => absurd hrunning hnot⟩
  | building candidate =>
    rw [hcase] at h
    exact ⟨hshows candidate h.1, fun hrunning => absurd hrunning hnot⟩
  | rereading seen =>
    rw [hcase] at h
    exact ⟨fun content hcontent => (h.1 content hcontent).trans_le hnow,
      fun hrunning => absurd hrunning hnot⟩
  | replacing | starting =>
    rw [hcase] at h
    exact ⟨fun asked hasked => h.1 asked (htargets ▸ hasked),
      fun hrunning => absurd hrunning hnot⟩
  | settled rejected =>
    refine ⟨fun hrejected => ?_, fun hrunning => absurd hrunning hnot⟩
    rw [hphase rejected hcase] at hrejected
    cases hrejected

theorem Sound.callStop (h : s.Sound) (hguard : s.phase ≠ .settled true ∧
    s.stop ≠ .waiting) : ({ s.callStop with now := s.now + 1 } : HotReload).Sound := by
  rw [HotReload.callStop]
  split_ifs with hstopping
  · -- The target has been asked before.
    refine ⟨h.later.timely.of_moments rfl, h.later.phase, ⟨h.targets.unasked, h.targets.notCalled,
      h.targets.asked, fun _ => ?_⟩⟩
    cases hstop : s.stop with
    | notCalled =>
      rw [h.targets.notCalled.1 hstop] at hstopping
      cases hstopping
    | waiting => exact absurd hstop hguard.2
    | asking => exact .inl rfl
    | settled => exact .inr rfl
  · have hrunning : s.stopping = false := by simpa using hstopping
    have hnotCalled := h.targets.notCalled.2 hrunning
    refine ⟨h.later.timely.of_moments rfl, ?_,
      ⟨h.targets.unasked, by simp, by simp, fun hsettled => ?_⟩⟩
    · refine soundPhase_of_stopping rfl (fun rejected hsettled => ?_) h.phase rfl
        (Nat.le_succ s.now) rfl rfl rfl
      cases rejected with
      | true => exact absurd hsettled hguard.1
      | false => rfl
    · exact absurd (h.targets.stopSettled hsettled) (h.notCalled hrunning)

/-- The timer stands for nothing any more when it fires: a reload is requested. -/
theorem Sound.fire (h : s.Sound) (hsettled : ¬ IsSettled s.phase) :
    ({ ({ s with timer := false } : HotReload).requestReload false with now := s.now + 1 } :
      HotReload).Sound := by
  by_cases hstopping : s.stopping = true
  · rw [HotReload.requestReload, if_pos hstopping]
    refine ⟨h.later.timely.of_moments rfl, ?_, ⟨h.targets.unasked, h.targets.notCalled,
      h.targets.asked, h.targets.stopSettled⟩⟩
    refine soundPhase_of_stopping hstopping (fun rejected hphase => ?_) h.phase rfl
      (Nat.le_succ s.now) rfl rfl rfl
    have hphase : s.phase = .settled rejected := hphase
    rw [hphase] at hsettled
    exact absurd trivial hsettled
  · have hsame : ({ s with timer := false } : HotReload).requestReload false =
        s.requestReload false := by
      rw [HotReload.requestReload, HotReload.requestReload, if_neg hstopping, if_neg hstopping]
      rfl
    rw [hsame]
    exact h.requestReload fun hphase => absurd hphase hsettled

theorem Sound.resumeStop (h : s.Sound)
    (hstep : s.move .resumeStop = some t) :
    ({ t with now := s.now + 1 } : HotReload).Sound := by
  rw [move] at hstep
  split_ifs at hstep with hresumes
  obtain ⟨hwaiting, hidle⟩ := hresumes
  cases hstep
  have hall := allAsked_askTarget h.targets.unasked
  have hstopping : s.stopping ≠ false := by
    intro hrunning
    rw [h.targets.notCalled.2 hrunning] at hwaiting
    cases hwaiting
  rw [askTarget_eq]
  refine ⟨h.later.timely.of_moments rfl, ?_,
    ⟨fun target htarget => absurd htarget (hall.unasked target), ?_, fun _ => ⟨hidle, hall⟩,
      fun _ => .inl rfl⟩⟩
  · rw [SoundPhase]
    dsimp only
    rw [hidle]
    exact fun hrunning => absurd hrunning hstopping
  · simp [hstopping]

theorem Sound.targetStopped (h : s.Sound)
    (hstep : s.move .targetStopped = some t) :
    ({ t with now := s.now + 1 } : HotReload).Sound := by
  rw [move] at hstep
  split_ifs at hstep with hasking
  cases hstep
  have hasked := h.targets.asked (.inl hasking)
  refine ⟨h.later.timely.of_moments rfl, h.later.phase, ⟨h.targets.unasked, ?_, fun _ => hasked,
    fun _ => .inr rfl⟩⟩
  rw [← h.targets.notCalled, hasking]
  simp

/-- **A step that meets the condition keeps what holds.** -/
theorem Sound.step (h : s.Sound) (hguard : s.KeepsFaith label) (hstep : s.step label = some t) :
    t.Sound := by
  obtain ⟨u, hmove, rfl⟩ := Option.map_eq_some_iff.1 hstep
  cases label with
  | edit earlier =>
    obtain rfl : earlier = none := hguard
    cases hmove
    exact h.edit
  | report edit =>
    rw [move] at hmove
    split_ifs at hmove with hreport
    cases hmove
    exact (h.report hreport.2.1 hreport.2.2).later
  | fire =>
    rw [move] at hmove
    split_ifs at hmove with hfires
    cases hmove
    exact h.fire hfires.2
  | requestReload force =>
    cases hmove
    exact h.requestReload hguard
  | fingerprinted fingerprint => exact h.fingerprinted hguard hmove
  | fingerprintFails =>
    obtain ⟨hrunning, hcurrent⟩ := hguard
    have hfails : ∀ phase, s.phase = phase → phase ≠ .idle →
        ({ s with phase := .settled true, now := s.now + 1 } : HotReload).Sound := by
      intro phase hphase hne
      refine ⟨h.later.timely.of_moments rfl, ⟨fun _ => hrunning, fun _ => ⟨fun edit hreported =>
        .inl (hcurrent.1 edit hreported), hcurrent.2⟩⟩, ⟨h.targets.unasked,
        h.targets.notCalled, fun hasked => ?_, h.targets.stopSettled⟩⟩
      exact absurd hasked (h.notCalled hrunning)
    rw [move] at hmove
    split at hmove
    · next hphase =>
        cases hmove
        exact hfails _ hphase (by simp)
    · next hphase =>
        cases hmove
        exact hfails _ hphase (by simp)
    · cases hmove
  | built succeeds => exact h.built hmove
  | previousStopped succeeds => exact h.previousStopped hmove
  | started succeeds => exact h.started hmove
  | forget =>
    rw [move] at hmove
    split at hmove
    · next rejected hsettled =>
        cases hmove
        exact h.forget hsettled
    · cases hmove
  | callStop =>
    cases hmove
    exact h.callStop hguard
  | resumeStop => exact h.resumeStop hmove
  | targetStopped => exact h.targetStopped hmove

end HotReload

open HotReload

/-- **Hot reload**: in every run whose steps all meet the condition, the last build began after the
last change that was reported and the last reload that was forced, whenever the supervisor is at
rest; only one target runs; and none does after `stop`. -/
theorem hot_reload_faithful {s t : HotReload} {labels : List HotReloadLabel}
    (hinitial : s.IsInitial) (hrun : Transition.Run step KeepsFaith s labels t) :
    t.IsFaithful := by
  have hsound := hrun.invariant (P := Sound)
    (fun s label t h hguard hstep => h.step hguard hstep) hinitial.sound
  exact hsound.isFaithful

/-! ### What goes wrong -/

/-- The supervisor has just begun to watch. -/
def justWatching : HotReload where
  now := 2
  content := 0
  edits := []
  fingerprint := some 0
  target := some 0
  targets := [false]
  timer := false
  reloadRequested := false
  forceReloadRequested := false
  stopping := false
  phase := .idle
  stop := .notCalled
  stopSettled := false
  builtAt := 1
  reportedAt := none
  forcedAt := none

theorem justWatching_isInitial : justWatching.IsInitial := by
  refine ⟨by decide, rfl, ?_, rfl, rfl, rfl, rfl, rfl, rfl, by decide, rfl, rfl⟩
  simp [justWatching]

/-- A change is reported, and a build begins. -/
def firstBuild : List HotReloadLabel :=
  [.edit none, .report (some 2), .fire,
    .fingerprinted (some 2)]

/-- The build ends, and the target is replaced. -/
def firstReload : List HotReloadLabel :=
  [.previousStopped true, .started true, .forget]

theorem hot_reload_faithful_change :
    ∃ t, Transition.Run step KeepsFaith justWatching
        (firstBuild ++ [.built true, .fingerprinted (some 2)] ++
          firstReload) t ∧
      t.targets = [true, false] ∧ t.phase = .idle ∧ t.IsFaithful := by
  have hrun : ((Transition.runGuarded step KeepsFaith justWatching
      (firstBuild ++ [.built true, .fingerprinted (some 2)] ++
        firstReload)).map fun t => (t.targets, t.phase)) =
          some ([true, false], .idle) := by
    rfl
  obtain ⟨t, hrun, hends⟩ := Option.map_eq_some_iff.1 hrun
  obtain ⟨htargets, hphase⟩ := Prod.mk.inj hends
  have hrun := Transition.Run.of_runGuarded hrun
  exact ⟨t, hrun, htargets, hphase, hot_reload_faithful justWatching_isInitial hrun⟩

/-- **A change during a build is lost**: the fingerprint after the build shows it already, so that
the reload that is requested for it builds nothing. -/
theorem saved_change_lost :
    ∃ t, Transition.run step justWatching
        (firstBuild ++ [.edit none, .built true,
          .fingerprinted (some 6)] ++ firstReload ++
          [.report (some 6), .fire,
            .fingerprinted (some 6), .forget]) = some t ∧
      ¬ t.IsFaithful := by
  refine ⟨_, rfl, fun hfaithful => ?_⟩
  have hcurrent := (hfaithful.current rfl rfl rfl).1 6 rfl
  exact absurd hcurrent (by decide)

/-- A reload that is forced in a microtask after the last condition of the loop is forgotten with
its promise. -/
theorem request_lost :
    ∃ t, Transition.run step justWatching
        (firstBuild ++ [.built true, .fingerprinted (some 2),
          .previousStopped true, .started true,
          .requestReload true, .forget]) = some t ∧
      ¬ t.IsFaithful := by
  refine ⟨_, rfl, fun hfaithful => ?_⟩
  have hcurrent := (hfaithful.current rfl rfl rfl).2 10 rfl
  exact absurd hcurrent (by decide)

/-- A fingerprint that cannot be read while `stop` waits for the loop leaves the target running. -/
theorem target_left :
    ∃ t, Transition.run step justWatching
        [.requestReload true, .callStop,
          .fingerprintFails, .forget] = some t ∧
      ¬ t.IsFaithful := by
  refine ⟨_, rfl, fun hfaithful => ?_⟩
  have hasked := hfaithful.stopped rfl false List.mem_cons_self
  cases hasked

end Doxa
