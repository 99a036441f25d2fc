/-
**The record of presence in Redis.**

Servers come and go, but the keys of a presence channel stay in Redis
(`keryx/src/redis-backplane.ts`), and any server may run any script at any time.  What the scripts
leave behind has to be right by itself: a count that is too high keeps an actor present for ever.

A script is given with its arguments.  What it answers about an actor, that the actor has its first
connection, or that it has lost its last one, is kept in a log, the latest answer first.

Main definitions:

* `Doxa.PresenceScript`, `Doxa.PresenceRecord.execute` — the scripts with their arguments, and what
  they do;
* `Doxa.PresenceRecord.Consistent` — the five kinds of keys fit together.

Main results:

* `Doxa.PresenceKeys.WellFormed.leased_eq` — the connections with a lease are those that are held;
* `Doxa.PresenceRecord.Sound.execute` — every script keeps what the record rests on;
* `Doxa.presence_record_consistent` — **whatever scripts are run, the record is consistent and the
  answers about an actor alternate**.
-/

import Doxa.RedisPresence

set_option relaxedAutoImplicit false
set_option autoImplicit false

namespace Doxa

open PresenceKeys RedisPresence

/-! ### Scripts -/

/-- A script and its arguments. -/
inductive PresenceScript
  | join (connectionId : String) (channel : BroadcastDestination) (actor : ActorRef)
      (expiresAt : ℕ)
  | leave (connectionId : String) (channel : BroadcastDestination)
  | renew (connectionId : String) (channel : BroadcastDestination) (expiresAt : ℕ)
  | cleanup (channel : BroadcastDestination) (now : ℕ) (limit : ℤ)

/-- An answer that an actor is present from now on, or that it is not any more. -/
structure PresenceAnswer where
  channel : BroadcastDestination
  key : String
  present : Bool

structure PresenceRecord where
  redis : RedisPresence
  /-- The latest answer first. -/
  answers : List PresenceAnswer

namespace PresenceRecord

/-- There are no keys. -/
def new : PresenceRecord := ⟨.new, []⟩

/-- Who was listed as having left, in the order of the list. -/
def goneFrom (channel : BroadcastDestination) (members : List ActorRef) : List PresenceAnswer :=
  (members.map fun member => ⟨channel, actorKey member, false⟩).reverse

/-- A negative `LIMIT` takes all there are. -/
def takes (limit : ℤ) (keys : PresenceKeys) : ℕ :=
  if limit < 0 then keys.leases.size else limit.toNat

/-- A script is run. -/
def execute (record : PresenceRecord) : PresenceScript → PresenceRecord
  | .join connectionId channel actor expiresAt =>
    let joined := record.redis.joinPresence connectionId channel actor expiresAt
    ⟨joined.1, if joined.2.first then ⟨channel, actorKey actor, true⟩ :: record.answers
      else record.answers⟩
  | .leave connectionId channel =>
    let left := record.redis.leavePresence connectionId channel
    ⟨left.1, if left.2.last then goneFrom channel left.2.member.toList ++ record.answers
      else record.answers⟩
  | .renew connectionId channel expiresAt =>
    ⟨record.redis.renewPresence connectionId channel expiresAt, record.answers⟩
  | .cleanup channel now limit =>
    let cleaned :=
      record.redis.cleanupChannel channel now (takes limit (record.redis.keys channel))
    ⟨cleaned.1, goneFrom channel cleaned.2 ++ record.answers⟩

/-- Scripts are run one after the other. -/
def executeAll (scripts : List PresenceScript) : PresenceRecord := scripts.foldl execute new

/-- What was answered about an actor on a channel. -/
def heard (channel : BroadcastDestination) (key : String) (answers : List PresenceAnswer) :
    List Bool :=
  (answers.filter fun answer => answer.channel = channel ∧ answer.key = key).map
    PresenceAnswer.present

end PresenceRecord

namespace PresenceKeys

/-- How many connections of an actor have a lease. -/
def leased (key : String) (keys : PresenceKeys) : ℕ :=
  keys.leases.entries.countP fun lease =>
    (keys.connections.get lease.1).any fun connection => connection.actorKey = key

end PresenceKeys

/-- The keys of every channel fit together, and the answers about an actor alternate. -/
structure PresenceRecord.Consistent (record : PresenceRecord) : Prop where
  /-- The actors hash counts the leased connections. -/
  actors : ∀ channel key, ((record.redis.keys channel).actors.get key).getD 0 =
    (record.redis.keys channel).leased key
  /-- The members are the actors with a leased connection. -/
  members : ∀ channel key, ((record.redis.keys channel).members.get key).isSome = true ↔
    0 < (record.redis.keys channel).leased key
  /-- Leases and connections hold the same connections. -/
  leases : ∀ channel connectionId,
    ((record.redis.keys channel).leases.get connectionId).isSome = true ↔
      ((record.redis.keys channel).connections.get connectionId).isSome = true
  /-- The channels with a connection are listed. -/
  channels : ∀ channel, channel ∈ record.redis.channels ↔
    ∃ connectionId, ((record.redis.keys channel).connections.get connectionId).isSome = true
  /-- An actor comes first, then it goes, and so on. -/
  alternates : ∀ channel key, History.Alternates (heard channel key record.answers)

/-! ### Leases -/

namespace PresenceKeys

variable {keys : PresenceKeys}

/-- **The leased connections of an actor are its connections.** -/
theorem WellFormed.leased_eq (h : keys.WellFormed) (key : String) :
    keys.leased key = keys.tally key := by
  have hperm : keys.leases.keys.Perm keys.connections.keys := by
    refine (List.perm_ext_iff_of_nodup keys.leases.keys_nodup keys.connections.keys_nodup).2 ?_
    intro connectionId
    have hleases := h.leases connectionId
    unfold Has at hleases
    rw [Option.isSome_iff_ne_none, Option.isSome_iff_ne_none, ne_eq, ne_eq,
      OrderedMap.get_eq_none_iff, OrderedMap.get_eq_none_iff, not_not, not_not] at hleases
    exact hleases
  -- both sides count the same connection ids
  have hleft : keys.leased key = keys.leases.keys.countP fun connectionId =>
      (keys.connections.get connectionId).any fun connection => connection.actorKey = key := by
    rw [OrderedMap.keys, List.countP_map]
    rfl
  have hright : keys.tally key = keys.connections.keys.countP fun connectionId =>
      (keys.connections.get connectionId).any fun connection => connection.actorKey = key := by
    rw [OrderedMap.keys, List.countP_map]
    refine List.countP_congr ?_
    rintro ⟨connectionId, connection⟩ hentry
    have hget := OrderedMap.get_eq_some_iff.2 hentry
    simp [hget]
  rw [hleft, hright]
  exact hperm.countP_eq _

theorem size_eq_zero_iff :
    keys.connections.size = 0 ↔ ¬∃ connectionId, keys.Has connectionId := by
  rw [OrderedMap.size, List.length_eq_zero_iff]
  constructor
  · rintro hnil ⟨connectionId, hhas⟩
    simp [Has, OrderedMap.get, hnil] at hhas
  · intro hnone
    refine List.eq_nil_iff_forall_not_mem.2 ?_
    rintro ⟨connectionId, connection⟩ hentry
    exact hnone ⟨connectionId, Option.isSome_of_eq_some (OrderedMap.get_eq_some_iff.2 hentry)⟩

end PresenceKeys

/-! ### What the answers tell -/

namespace PresenceRecord

open History

/-- The answers about an actor alternate, and the last one tells whether it is a member. -/
def Tells (channel : BroadcastDestination) (key : String) (answers : List PresenceAnswer)
    (keys : PresenceKeys) : Prop :=
  Alternates (heard channel key answers) ∧
    (isOn (heard channel key answers) = true ↔ keys.Present key)

variable {channel channel' : BroadcastDestination} {key key' : String}
  {answers : List PresenceAnswer} {keys keys' : PresenceKeys}

theorem heard_cons_self {present : Bool} :
    heard channel key (⟨channel, key, present⟩ :: answers) =
      present :: heard channel key answers := by
  simp [heard]

theorem heard_cons_of_ne {present : Bool} (hne : key' ≠ key) :
    heard channel key (⟨channel, key', present⟩ :: answers) = heard channel key answers := by
  simp [heard, hne]

theorem heard_of_ne {news : List PresenceAnswer}
    (hnews : ∀ answer ∈ news, answer.channel = channel) (hne : channel' ≠ channel) :
    heard channel' key (news ++ answers) = heard channel' key answers := by
  have hnone : news.filter
      (fun answer => decide (answer.channel = channel' ∧ answer.key = key)) = [] := by
    refine List.filter_eq_nil_iff.2 ?_
    intro answer hanswer
    simp [hnews answer hanswer, Ne.symm hne]
  rw [heard, List.filter_append, hnone, List.nil_append]
  rfl

theorem Tells.congr (h : Tells channel key answers keys)
    (hpresent : keys'.Present key ↔ keys.Present key) : Tells channel key answers keys' :=
  ⟨h.1, h.2.trans hpresent.symm⟩

/-- One actor comes or goes. -/
theorem Tells.cons {present : Bool} (h : Tells channel key answers keys)
    (hbefore : key' = key → (keys.Present key ↔ present = false))
    (hafter : keys'.Present key ↔ if key' = key then present = true else keys.Present key) :
    Tells channel key (⟨channel, key', present⟩ :: answers) keys' := by
  unfold Tells
  by_cases hkey : key' = key
  · subst hkey
    rw [heard_cons_self]
    rw [if_pos rfl] at hafter
    refine ⟨⟨?_, h.1⟩, hafter.symm⟩
    have hon := h.2.trans (hbefore rfl)
    cases hlast : isOn (heard channel key' answers) <;> cases present <;> simp_all
  · rw [heard_cons_of_ne hkey]
    rw [if_neg hkey] at hafter
    exact h.congr hafter

/-- **A cleanup tells who has gone**, one connection after the other. -/
theorem Tells.removeAll (hkeys : keys.WellFormed) (h : Tells channel key answers keys)
    (connectionIds : List String) :
    Tells channel key (goneFrom channel (removeAll connectionIds keys).2 ++ answers)
      (removeAll connectionIds keys).1 := by
  induction connectionIds generalizing keys answers with
  | nil => exact h
  | cons connectionId rest ih =>
    unfold removeAll
    split
    · next hnone => exact ih (hkeys.dropLease hnone) (h.congr Iff.rfl)
    · next connection hget =>
        have hremove := hkeys.present_remove_iff hget
        have hkeyed := hkeys.keyed connectionId connection hget
        dsimp only
        split_ifs with hlast
        · -- the connection was the last one of its actor
          have hgone : Tells channel key
              (⟨channel, actorKey connection.member, false⟩ :: answers)
              (keys.remove connectionId connection).1 := by
            refine h.cons ?_ ?_
            · rintro rfl
              exact iff_of_true (hkeys.present hget) rfl
            · rw [hremove, hkeyed]
              split_ifs with hkey <;> simp [hlast, hkey]
          have hrest := ih (hkeys.remove hget) hgone
          simpa [goneFrom] using hrest
        · refine ih (hkeys.remove hget) (h.congr ?_)
          rw [hremove]
          simp [hlast]

/-! ### Scripts keep the record -/

variable {record : PresenceRecord}

/-- What is known of a record after each script. -/
structure Sound (record : PresenceRecord) : Prop where
  wellFormed : record.redis.WellFormed
  channels : ∀ channel, channel ∈ record.redis.channels ↔
    ∃ connectionId, (record.redis.keys channel).Has connectionId
  tells : ∀ channel key, Tells channel key record.answers (record.redis.keys channel)

theorem sound_new : Sound new := by
  constructor
  · exact RedisPresence.wellFormed_new
  · intro channel
    simp [new, RedisPresence.new, PresenceKeys.Has, PresenceKeys.empty, OrderedMap.get_empty]
  · intro channel key
    exact ⟨trivial, iff_of_false Bool.false_ne_true Bool.false_ne_true⟩

/-- A sound record is consistent. -/
theorem Sound.consistent (h : record.Sound) : record.Consistent := by
  constructor
  · intro channel key
    rw [(h.wellFormed channel).leased_eq]
    exact (h.wellFormed channel).count key
  · intro channel key
    rw [(h.wellFormed channel).leased_eq]
    exact (h.wellFormed channel).members key
  · intro channel
    exact (h.wellFormed channel).leases
  · exact h.channels
  · intro channel key
    exact (h.tells channel key).1

/-- **A script changes the keys of one channel only**, whether it is listed, and what is told about
its actors. -/
theorem Sound.put (h : record.Sound) {redis' : RedisPresence} {news : List PresenceAnswer}
    (hput : redis'.keys = (record.redis.put channel keys).keys) (hkeys : keys.WellFormed)
    (hlisted : channel ∈ redis'.channels ↔ ∃ connectionId, keys.Has connectionId)
    (hothers : ∀ channel', channel' ≠ channel →
      (channel' ∈ redis'.channels ↔ channel' ∈ record.redis.channels))
    (hnews : ∀ answer ∈ news, answer.channel = channel)
    (htells : ∀ key, Tells channel key (news ++ record.answers) keys) :
    Sound ⟨redis', news ++ record.answers⟩ := by
  constructor
  · exact (h.wellFormed.put hkeys).congr hput
  · intro channel'
    by_cases hchannel : channel' = channel
    · subst hchannel
      rw [hput, keys_put_self]
      exact hlisted
    · rw [hput, keys_put_of_ne hchannel, hothers channel' hchannel]
      exact h.channels channel'
  · intro channel' key
    rw [hput]
    by_cases hchannel : channel' = channel
    · subst hchannel
      rw [keys_put_self]
      exact htells key
    · have hold := h.tells channel' key
      rw [keys_put_of_ne hchannel]
      unfold Tells at hold ⊢
      rw [heard_of_ne hnews hchannel]
      exact hold

theorem mem_addChannel_iff {redis : RedisPresence} :
    channel' ∈ (redis.addChannel channel).channels ↔
      channel' ∈ redis.channels ∨ channel' = channel := by
  unfold addChannel
  split_ifs with hmem
  · refine (or_iff_left_of_imp ?_).symm
    rintro rfl
    exact hmem
  · simp

theorem mem_dropChannel_iff {redis : RedisPresence} :
    channel' ∈ (redis.dropChannel channel).channels ↔ channel' ∈ redis.channels ∧
      (channel' = channel → ∃ connectionId, (redis.keys channel).Has connectionId) := by
  unfold dropChannel
  split_ifs with hsize
  · rw [size_eq_zero_iff] at hsize
    simp [hsize]
  · rw [size_eq_zero_iff, not_not] at hsize
    simp [hsize]

theorem Sound.join (h : record.Sound) (connectionId : String) (channel : BroadcastDestination)
    (actor : ActorRef) (expiresAt : ℕ) :
    Sound (record.execute (.join connectionId channel actor expiresAt)) := by
  have hkeys := h.wellFormed channel
  have hfirst := @PresenceKeys.WellFormed.first_join_iff _ connectionId hkeys actor expiresAt
  have hanswers : (record.execute (.join connectionId channel actor expiresAt)) =
      ⟨(record.redis.joinPresence connectionId channel actor expiresAt).1,
        (if ((record.redis.keys channel).join connectionId (actorKey actor) actor expiresAt).2.first
          then [⟨channel, actorKey actor, true⟩] else []) ++ record.answers⟩ := by
    unfold execute joinPresence
    dsimp only
    split_ifs <;> rfl
  rw [hanswers]
  refine h.put (keys_joinPresence connectionId channel actor expiresAt)
    (hkeys.join connectionId actor expiresAt) ?_ ?_ ?_ ?_
  · refine iff_of_true ?_ ⟨connectionId, has_join _ _ _⟩
    unfold joinPresence
    dsimp only
    split_ifs with hhas
    · exact (h.channels channel).2 ⟨connectionId, hhas⟩
    · exact mem_addChannel_iff.2 (.inr rfl)
  · intro channel' hne
    unfold joinPresence
    dsimp only
    split_ifs
    · exact Iff.rfl
    · rw [mem_addChannel_iff, or_iff_left hne]
      exact Iff.rfl
  · intro answer hanswer
    split_ifs at hanswer
    · rw [List.mem_singleton.1 hanswer]
    · cases hanswer
  · intro key
    have htells := h.tells channel key
    by_cases hhas : (record.redis.keys channel).Has connectionId
    · -- a connection that is there only gets a new lease
      rw [if_neg fun hone => (hfirst.1 hone).1 hhas]
      exact htells.congr (present_join_of_has hhas _ actor expiresAt key)
    · have hnone : (record.redis.keys channel).connections.get connectionId = none := by
        simpa [Has] using hhas
      have hpresent := hkeys.present_join_iff actor expiresAt hnone key
      split_ifs with hone
      · refine htells.cons ?_ ?_
        · rintro rfl
          exact iff_of_false (hfirst.1 hone).2 Bool.false_ne_true.symm
        · rw [hpresent]
          split_ifs with hkey
          · simp [hkey]
          · rw [or_iff_left (Ne.symm hkey)]
      · refine htells.congr ?_
        rw [hpresent, or_iff_left_iff_imp]
        rintro rfl
        by_contra habsent
        exact hone (hfirst.2 ⟨hhas, habsent⟩)

theorem Sound.leave (h : record.Sound) (connectionId : String) (channel : BroadcastDestination) :
    Sound (record.execute (.leave connectionId channel)) := by
  have hkeys := h.wellFormed channel
  have hanswers : (record.execute (.leave connectionId channel)) =
      ⟨(record.redis.leavePresence connectionId channel).1,
        (if ((record.redis.keys channel).leave connectionId).2.last then
          goneFrom channel ((record.redis.keys channel).leave connectionId).2.member.toList
          else []) ++ record.answers⟩ := by
    unfold execute leavePresence
    dsimp only
    split_ifs <;> rfl
  have hlisted : ∀ channel', channel' ∈
      (record.redis.leavePresence connectionId channel).1.channels ↔
        channel' ∈ record.redis.channels ∧ (channel' = channel → ∃ candidate,
          ((record.redis.keys channel).leave connectionId).1.Has candidate) := by
    intro channel'
    unfold leavePresence
    dsimp only
    split_ifs with hhas
    · rw [mem_dropChannel_iff, keys_put_self]
      exact Iff.rfl
    · -- a connection that is not there changes nothing
      refine (and_iff_left_of_imp ?_).symm
      rintro hmem rfl
      obtain ⟨candidate, hcandidate⟩ := (h.channels channel').1 hmem
      refine ⟨candidate, PresenceKeys.has_leave_iff.2 ⟨hcandidate, ?_⟩⟩
      rintro rfl
      exact hhas hcandidate
  rw [hanswers]
  refine h.put (keys_leavePresence connectionId channel) (hkeys.leave connectionId)
    ?_ ?_ ?_ ?_
  · rw [hlisted, h.channels]
    constructor
    · exact fun hboth => hboth.2 rfl
    · rintro ⟨candidate, hcandidate⟩
      exact ⟨⟨candidate, (PresenceKeys.has_leave_iff.1 hcandidate).1⟩, fun _ =>
        ⟨candidate, hcandidate⟩⟩
  · intro channel' hne
    rw [hlisted, and_iff_left fun heq => absurd heq hne]
  · intro answer hanswer
    split_ifs at hanswer
    · simp only [goneFrom, List.mem_reverse, List.mem_map] at hanswer
      obtain ⟨member, -, rfl⟩ := hanswer
      rfl
    · cases hanswer
  · intro key
    have htells := h.tells channel key
    have hpresent := hkeys.present_leave_iff connectionId key
    split_ifs with hlast
    · cases hmember : ((record.redis.keys channel).leave connectionId).2.member with
      | none =>
        refine htells.congr ?_
        rw [hpresent]
        simp [hmember]
      | some member =>
        refine htells.cons ?_ ?_
        · rintro rfl
          exact iff_of_true (hkeys.present_of_leave hmember) rfl
        · rw [hpresent]
          split_ifs with hkey <;> simp [hlast, hmember, hkey]
    · refine htells.congr ?_
      rw [hpresent]
      simp [hlast]

theorem Sound.renew (h : record.Sound) (connectionId : String) (channel : BroadcastDestination)
    (expiresAt : ℕ) : Sound (record.execute (.renew connectionId channel expiresAt)) := by
  have hconnections :=
    (record.redis.keys channel).renew_connections connectionId expiresAt
  have hmembers := (record.redis.keys channel).renew_members connectionId expiresAt
  have hput : (record.redis.renewPresence connectionId channel expiresAt).keys = (record.redis.put
      channel ((record.redis.keys channel).renew connectionId expiresAt).1).keys := rfl
  have hnews : ∀ answer ∈ ([] : List PresenceAnswer), answer.channel = channel := nofun
  refine h.put hput ((h.wellFormed channel).renew connectionId expiresAt) ?_ ?_ hnews ?_
  · unfold Has
    rw [hconnections]
    exact h.channels channel
  · intro channel' _
    exact Iff.rfl
  · intro key
    refine (h.tells channel key).congr ?_
    unfold Present
    rw [hmembers]

theorem Sound.cleanup (h : record.Sound) (channel : BroadcastDestination) (now : ℕ) (limit : ℤ) :
    Sound (record.execute (.cleanup channel now limit)) := by
  have hkeys := h.wellFormed channel
  have hlisted : ∀ channel' count, channel' ∈
      (record.redis.cleanupChannel channel now count).1.channels ↔
        channel' ∈ record.redis.channels ∧ (channel' = channel → ∃ candidate,
          ((record.redis.keys channel).cleanup now count).1.Has candidate) := by
    intro channel' count
    unfold cleanupChannel
    dsimp only
    rw [mem_dropChannel_iff, keys_put_self]
    exact Iff.rfl
  refine h.put (keys_cleanupChannel channel now _) (hkeys.cleanup now _) ?_ ?_ ?_ ?_
  · rw [hlisted, h.channels]
    constructor
    · exact fun hboth => hboth.2 rfl
    · rintro ⟨candidate, hcandidate⟩
      exact ⟨⟨candidate, (PresenceKeys.has_cleanup_iff.1 hcandidate).1⟩, fun _ =>
        ⟨candidate, hcandidate⟩⟩
  · intro channel' hne
    rw [hlisted, and_iff_left fun heq => absurd heq hne]
  · intro answer hanswer
    simp only [goneFrom, List.mem_reverse, List.mem_map] at hanswer
    obtain ⟨member, -, rfl⟩ := hanswer
    rfl
  · intro key
    have hgone := (h.tells channel key).removeAll hkeys
      ((record.redis.keys channel).expired now (takes limit (record.redis.keys channel)))
    exact hgone.congr (dropEmpty_present (hkeys.removeAll _) key)

theorem Sound.execute (h : record.Sound) (script : PresenceScript) :
    Sound (record.execute script) := by
  cases script with
  | join connectionId channel actor expiresAt => exact h.join connectionId channel actor expiresAt
  | leave connectionId channel => exact h.leave connectionId channel
  | renew connectionId channel expiresAt => exact h.renew connectionId channel expiresAt
  | cleanup channel now limit => exact h.cleanup channel now limit

theorem Sound.foldl (h : record.Sound) (scripts : List PresenceScript) :
    Sound (scripts.foldl .execute record) := by
  induction scripts generalizing record with
  | nil => exact h
  | cons script scripts ih => exact ih (h.execute script)

end PresenceRecord

/-- **The record of presence is always consistent**, whatever scripts are run. -/
theorem presence_record_consistent (scripts : List PresenceScript) :
    (PresenceRecord.executeAll scripts).Consistent :=
  (PresenceRecord.sound_new.foldl scripts).consistent

end Doxa
