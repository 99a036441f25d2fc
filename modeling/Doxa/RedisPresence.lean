/-
**Presence in Redis.**

The servers of the `redis` topology keep who is present in one Redis
(`keryx/src/redis-backplane.ts`).  For every channel there is a hash of the connections with their
actors, a sorted set of their leases, a hash that counts the connections of each actor, and a hash
of the actors that have one, the members.  Four scripts change them, each in one piece: a
connection joins, leaves or renews its lease, and the connections whose lease has expired are
cleaned up.

The keys are made from a hash of kind and name of the channel, so that a channel stands for its
keys.

Main definitions:

* `Doxa.PresenceKeys`, `Doxa.RedisPresence` — the keys of one channel and of all of them;
* `Doxa.PresenceKeys.join`, `.leave`, `.renew`, `.cleanup` — the scripts;
* `Doxa.PresenceKeys.WellFormed` — the counts are right, and the members are the actors with a
  connection.

Main results:

* `Doxa.PresenceKeys.WellFormed.join`, `.leave`, `.cleanup` — the scripts keep the keys well formed;
* `Doxa.PresenceKeys.present_join_iff`, `present_leave_iff`, `present_cleanup_iff` — **what a
  script answers tells whose presence it has changed**.
-/

import Doxa.KeryxPresence
import Mathlib.Data.List.Sort

set_option relaxedAutoImplicit false
set_option autoImplicit false

namespace Doxa

/-! ### The keys of a channel -/

/-- What is kept of a connection. -/
structure PresenceConnection where
  actorKey : String
  member : ActorRef

structure PresenceKeys where
  connections : OrderedMap String PresenceConnection
  /-- When the leases expire. -/
  leases : OrderedMap String ℕ
  /-- How many connections an actor has. -/
  actors : OrderedMap String ℤ
  members : OrderedMap String ActorRef

structure RedisPresenceJoin where
  first : Bool
  members : List ActorRef

structure RedisPresenceLeave where
  last : Bool
  member : Option ActorRef

namespace PresenceKeys

/-- No key is there. -/
def empty : PresenceKeys :=
  ⟨.empty, .empty, .empty, .empty⟩

/-- `HVALS` of the members. -/
def memberList (keys : PresenceKeys) : List ActorRef := keys.members.entries.map Prod.snd

/-- `JOIN_PRESENCE`. -/
def join (connectionId key : String) (actor : ActorRef) (expiresAt : ℕ) (keys : PresenceKeys) :
    PresenceKeys × RedisPresenceJoin :=
  match keys.connections.get connectionId with
  | some _ =>
    ({ keys with leases := keys.leases.set connectionId expiresAt }, ⟨false, keys.memberList⟩)
  | none =>
    let count := (keys.actors.get key).getD 0 + 1
    let joined : PresenceKeys :=
      { connections := keys.connections.set connectionId ⟨key, actor⟩
        leases := keys.leases.set connectionId expiresAt
        actors := keys.actors.set key count
        members := if count = 1 then keys.members.set key actor else keys.members }
    (joined, ⟨count = 1, joined.memberList⟩)

/-- What `LEAVE_PRESENCE` and `CLEANUP_PRESENCE` do to a connection; the answer tells whether it was
the last one of its actor. -/
def remove (connectionId : String) (connection : PresenceConnection) (keys : PresenceKeys) :
    PresenceKeys × Bool :=
  let count := (keys.actors.get connection.actorKey).getD 0 - 1
  ({ connections := keys.connections.delete connectionId
     leases := keys.leases.delete connectionId
     actors := if count ≤ 0 then keys.actors.delete connection.actorKey
       else keys.actors.set connection.actorKey count
     members := if count ≤ 0 then keys.members.delete connection.actorKey else keys.members },
    count ≤ 0)

/-- Without connections, all keys are deleted. -/
def dropEmpty (keys : PresenceKeys) : PresenceKeys :=
  if keys.connections.size = 0 then empty else keys

/-- `LEAVE_PRESENCE`. -/
def leave (connectionId : String) (keys : PresenceKeys) : PresenceKeys × RedisPresenceLeave :=
  match keys.connections.get connectionId with
  | none => (keys, ⟨false, none⟩)
  | some connection =>
    let removed := keys.remove connectionId connection
    (removed.1.dropEmpty, ⟨removed.2, some connection.member⟩)

/-- `RENEW_PRESENCE`; a connection that is not there any more is not renewed. -/
def renew (connectionId : String) (expiresAt : ℕ) (keys : PresenceKeys) : PresenceKeys × Bool :=
  if (keys.connections.get connectionId).isSome then
    ({ keys with leases := keys.leases.set connectionId expiresAt }, true)
  else (keys, false)

/-- The order of a sorted set. -/
def leaseBefore (lease lease' : String × ℕ) : Prop :=
  lease.2 < lease'.2 ∨ lease.2 = lease'.2 ∧ lease.1 ≤ lease'.1

instance (lease lease' : String × ℕ) : Decidable (leaseBefore lease lease') :=
  inferInstanceAs (Decidable (_ ∨ _))

/-- `ZRANGEBYSCORE` with its limit. -/
def expired (now limit : ℕ) (keys : PresenceKeys) : List String :=
  (((keys.leases.entries.filter fun lease => lease.2 ≤ now).insertionSort leaseBefore).take
    limit).map Prod.fst

/-- The loop of `CLEANUP_PRESENCE`, with the members that have left. -/
def removeAll : List String → PresenceKeys → PresenceKeys × List ActorRef
  | [], keys => (keys, [])
  | connectionId :: rest, keys =>
    match keys.connections.get connectionId with
    | none => removeAll rest { keys with leases := keys.leases.delete connectionId }
    | some connection =>
      let removed := keys.remove connectionId connection
      let after := removeAll rest removed.1
      (after.1, if removed.2 then connection.member :: after.2 else after.2)

/-- `CLEANUP_PRESENCE`. -/
def cleanup (now limit : ℕ) (keys : PresenceKeys) : PresenceKeys × List ActorRef :=
  let removed := removeAll (keys.expired now limit) keys
  (removed.1.dropEmpty, removed.2)

end PresenceKeys

open PresenceKeys

/-! ### All channels -/

structure RedisPresence where
  /-- The hash of the channels. -/
  channels : List BroadcastDestination
  keys : BroadcastDestination → PresenceKeys

namespace RedisPresence

def new : RedisPresence := ⟨[], fun _ => .empty⟩

variable (channel : BroadcastDestination)

/-- A script has changed the keys of a channel. -/
def put (keys : PresenceKeys) (redis : RedisPresence) : RedisPresence :=
  { redis with keys := fun candidate => if candidate = channel then keys else redis.keys candidate }

/-- `HSET` in the hash of the channels. -/
def addChannel (redis : RedisPresence) : RedisPresence :=
  if channel ∈ redis.channels then redis
  else { redis with channels := redis.channels ++ [channel] }

/-- `HDEL` in the hash of the channels, for a channel without connections. -/
def dropChannel (redis : RedisPresence) : RedisPresence :=
  if (redis.keys channel).connections.size = 0 then
    { redis with channels := redis.channels.filter fun candidate => candidate ≠ channel }
  else redis

/-- `joinPresence`. -/
def joinPresence (connectionId : String) (channel : BroadcastDestination) (actor : ActorRef)
    (expiresAt : ℕ) (redis : RedisPresence) : RedisPresence × RedisPresenceJoin :=
  let joined := (redis.keys channel).join connectionId (actorKey actor) actor expiresAt
  let redis' := redis.put channel joined.1
  (if ((redis.keys channel).connections.get connectionId).isSome then redis'
    else redis'.addChannel channel, joined.2)

/-- `leavePresence`. -/
def leavePresence (connectionId : String) (channel : BroadcastDestination) (redis : RedisPresence) :
    RedisPresence × RedisPresenceLeave :=
  let left := (redis.keys channel).leave connectionId
  let redis' := redis.put channel left.1
  (if ((redis.keys channel).connections.get connectionId).isSome then redis'.dropChannel channel
    else redis', left.2)

/-- `renewPresence`, which does not pass on what the script answers. -/
def renewPresence (connectionId : String) (channel : BroadcastDestination) (expiresAt : ℕ)
    (redis : RedisPresence) : RedisPresence :=
  redis.put channel ((redis.keys channel).renew connectionId expiresAt).1

/-- One round of `cleanupExpired`. -/
def cleanupChannel (now limit : ℕ) (redis : RedisPresence) : RedisPresence × List ActorRef :=
  let cleaned := (redis.keys channel).cleanup now limit
  ((redis.put channel cleaned.1).dropChannel channel, cleaned.2)

end RedisPresence

/-! ### Well-formed keys -/

namespace PresenceKeys

/-- How many connections an actor has. -/
def tally (key : String) (keys : PresenceKeys) : ℕ :=
  keys.connections.entries.countP fun entry => entry.2.actorKey = key

/-- An actor is a member. -/
def Present (key : String) (keys : PresenceKeys) : Prop := (keys.members.get key).isSome = true

instance (key : String) (keys : PresenceKeys) : Decidable (keys.Present key) :=
  inferInstanceAs (Decidable (_ = true))

/-- A connection is in the hash of the connections. -/
def Has (connectionId : String) (keys : PresenceKeys) : Prop :=
  (keys.connections.get connectionId).isSome = true

instance (connectionId : String) (keys : PresenceKeys) : Decidable (keys.Has connectionId) :=
  inferInstanceAs (Decidable (_ = true))

/-- The counts are right, the members are the actors with a connection, and just the connections
have a lease. -/
structure WellFormed (keys : PresenceKeys) : Prop where
  count : ∀ key, (keys.actors.get key).getD 0 = keys.tally key
  members : ∀ key, keys.Present key ↔ 0 < keys.tally key
  leases : ∀ connectionId, (keys.leases.get connectionId).isSome = true ↔ keys.Has connectionId
  keyed : ∀ connectionId connection, keys.connections.get connectionId = some connection →
    connection.actorKey = actorKey connection.member

theorem wellFormed_empty : WellFormed empty := by
  constructor
  · intro key
    rfl
  · intro key
    exact iff_of_false Bool.false_ne_true (lt_irrefl 0)
  · intro connectionId
    exact Iff.rfl
  · intro connectionId connection hget
    cases hget

variable {keys : PresenceKeys} {connectionId : String} {connection : PresenceConnection}

theorem tally_pos_iff {key : String} :
    0 < keys.tally key ↔ ∃ connectionId connection,
      keys.connections.get connectionId = some connection ∧ connection.actorKey = key := by
  rw [tally, List.countP_pos_iff]
  constructor
  · rintro ⟨⟨connectionId, connection⟩, hmem, hkey⟩
    exact ⟨connectionId, connection, OrderedMap.get_eq_some_iff.2 hmem, by simpa using hkey⟩
  · rintro ⟨connectionId, connection, hget, hkey⟩
    exact ⟨(connectionId, connection), OrderedMap.get_eq_some_iff.1 hget, by simpa using hkey⟩

/-- The actor of a connection is a member. -/
theorem WellFormed.present (h : keys.WellFormed)
    (hget : keys.connections.get connectionId = some connection) :
    keys.Present (actorKey connection.member) := by
  rw [h.members, tally_pos_iff]
  exact ⟨connectionId, connection, hget, h.keyed connectionId connection hget⟩

/-! ### Joining -/

theorem has_join (key : String) (actor : ActorRef) (expiresAt : ℕ) :
    (keys.join connectionId key actor expiresAt).1.Has connectionId := by
  unfold join Has
  cases hget : keys.connections.get connectionId with
  | some connection => simp [hget]
  | none => simp [OrderedMap.get_set]

/-- A connection that is there only gets a new lease. -/
theorem WellFormed.touch (h : keys.WellFormed) (hhas : keys.Has connectionId) (expiresAt : ℕ) :
    WellFormed { keys with leases := keys.leases.set connectionId expiresAt } := by
  refine ⟨h.count, h.members, ?_, h.keyed⟩
  intro candidate
  rw [OrderedMap.get_set]
  split_ifs with hid
  · subst hid
    exact iff_of_true rfl hhas
  · exact h.leases candidate

theorem tally_join {key : String} {actor : ActorRef} {expiresAt : ℕ}
    (hnone : keys.connections.get connectionId = none) (key' : String) :
    (keys.join connectionId key actor expiresAt).1.tally key' =
      keys.tally key' + if key = key' then 1 else 0 := by
  rw [join, hnone, tally, OrderedMap.entries_set_of_get_eq_none hnone, List.countP_append]
  simp [tally, List.countP_cons]

theorem WellFormed.join (h : keys.WellFormed) (connectionId : String) (actor : ActorRef)
    (expiresAt : ℕ) :
    (keys.join connectionId (actorKey actor) actor expiresAt).1.WellFormed := by
  cases hget : keys.connections.get connectionId with
  | some connection =>
    rw [PresenceKeys.join, hget]
    exact h.touch (Option.isSome_of_eq_some hget) expiresAt
  | none =>
    have htally : ∀ key, (keys.join connectionId (actorKey actor) actor expiresAt).1.tally key =
        keys.tally key + if actorKey actor = key then 1 else 0 := tally_join hget
    have hcount := h.count (actorKey actor)
    constructor
    · intro key
      rw [htally, PresenceKeys.join, hget]
      dsimp only
      rw [OrderedMap.get_set, hcount]
      by_cases hkey : key = actorKey actor
      · subst hkey
        simp
      · simp [hkey, Ne.symm hkey, h.count key]
    · intro key
      have hmembers := h.members key
      rw [htally, PresenceKeys.join, hget, Present]
      dsimp only
      rw [hcount]
      by_cases hkey : key = actorKey actor
      · subst hkey
        by_cases hfirst : keys.tally (actorKey actor) = 0
        · simp [hfirst, OrderedMap.get_set]
        · have hone : ¬((keys.tally (actorKey actor) : ℤ) + 1 = 1) := by omega
          rw [if_neg hone]
          exact iff_of_true (hmembers.2 (Nat.pos_of_ne_zero hfirst)) (by omega)
      · rw [if_neg (Ne.symm hkey), Nat.add_zero]
        split_ifs with hone
        · rw [OrderedMap.get_set, if_neg hkey]
          exact hmembers
        · exact hmembers
    · intro candidate
      rw [PresenceKeys.join, hget, Has]
      dsimp only
      rw [OrderedMap.get_set, OrderedMap.get_set]
      split_ifs with hid
      · exact iff_of_true rfl rfl
      · exact h.leases candidate
    · intro candidate connection hconnection
      rw [PresenceKeys.join, hget] at hconnection
      dsimp only at hconnection
      rw [OrderedMap.get_set] at hconnection
      split_ifs at hconnection with hid
      · cases hconnection
        rfl
      · exact h.keyed candidate connection hconnection

/-- **Who joins is a member**, and the others are as before. -/
theorem WellFormed.present_join_iff (h : keys.WellFormed) (actor : ActorRef) (expiresAt : ℕ)
    (hnone : keys.connections.get connectionId = none) (key : String) :
    (keys.join connectionId (actorKey actor) actor expiresAt).1.Present key ↔
      keys.Present key ∨ key = actorKey actor := by
  rw [(h.join connectionId actor expiresAt).members, tally_join hnone, h.members]
  split_ifs with hkey
  · simp [hkey]
  · simp [Ne.symm hkey]

/-- A connection that is there changes nobody's presence. -/
theorem present_join_of_has (hhas : keys.Has connectionId) (key : String) (actor : ActorRef)
    (expiresAt : ℕ) (key' : String) :
    (keys.join connectionId key actor expiresAt).1.Present key' ↔ keys.Present key' := by
  obtain ⟨connection, hget⟩ := Option.isSome_iff_exists.1 hhas
  rw [join, hget]
  rfl

/-- **The first connection of an actor is told so.** -/
theorem WellFormed.first_join_iff (h : keys.WellFormed) (actor : ActorRef) (expiresAt : ℕ) :
    (keys.join connectionId (actorKey actor) actor expiresAt).2.first = true ↔
      ¬keys.Has connectionId ∧ ¬keys.Present (actorKey actor) := by
  unfold PresenceKeys.join Has
  cases hget : keys.connections.get connectionId with
  | some connection => simp
  | none =>
    have hcount := h.count (actorKey actor)
    have hmembers := h.members (actorKey actor)
    dsimp only
    rw [hcount, hmembers]
    simp

/-! ### Leaving -/

theorem tally_remove (hget : keys.connections.get connectionId = some connection) (key : String) :
    keys.tally key = (keys.remove connectionId connection).1.tally key +
      if connection.actorKey = key then 1 else 0 := by
  rw [tally, (OrderedMap.perm_delete hget).countP_eq, List.countP_cons]
  simp [tally, remove]

/-- Whether a connection is the last one of its actor. -/
theorem WellFormed.last_remove_iff (h : keys.WellFormed)
    (hget : keys.connections.get connectionId = some connection) :
    (keys.remove connectionId connection).2 = true ↔ keys.tally connection.actorKey = 1 := by
  have hpositive : 0 < keys.tally connection.actorKey :=
    tally_pos_iff.2 ⟨connectionId, connection, hget, rfl⟩
  have hcount := h.count connection.actorKey
  unfold remove
  dsimp only
  rw [hcount, decide_eq_true_iff]
  omega

theorem WellFormed.remove (h : keys.WellFormed)
    (hget : keys.connections.get connectionId = some connection) :
    (keys.remove connectionId connection).1.WellFormed := by
  have hpositive : 0 < keys.tally connection.actorKey :=
    tally_pos_iff.2 ⟨connectionId, connection, hget, rfl⟩
  have htally := fun key => tally_remove hget key
  have hcount := h.count connection.actorKey
  constructor
  · intro key
    have hkey := htally key
    generalize (keys.remove connectionId connection).1.tally key = rest at hkey ⊢
    unfold PresenceKeys.remove
    dsimp only
    rw [hcount]
    by_cases heq : key = connection.actorKey
    · subst heq
      rw [if_pos rfl] at hkey
      split_ifs with hlast
      · rw [OrderedMap.get_delete, if_pos rfl, Option.getD_none]
        omega
      · rw [OrderedMap.get_set, if_pos rfl, Option.getD_some]
        omega
    · rw [if_neg (Ne.symm heq)] at hkey
      have hold := h.count key
      split_ifs with hlast
      · rw [OrderedMap.get_delete, if_neg heq]
        omega
      · rw [OrderedMap.get_set, if_neg heq]
        omega
  · intro key
    have hkey := htally key
    have hmembers := h.members key
    generalize (keys.remove connectionId connection).1.tally key = rest at hkey ⊢
    unfold PresenceKeys.remove Present
    unfold Present at hmembers
    dsimp only
    rw [hcount]
    by_cases heq : key = connection.actorKey
    · subst heq
      rw [if_pos rfl] at hkey
      split_ifs with hlast
      · rw [OrderedMap.get_delete, if_pos rfl]
        exact iff_of_false Bool.false_ne_true (by omega)
      · exact iff_of_true (hmembers.2 hpositive) (by omega)
    · rw [if_neg (Ne.symm heq)] at hkey
      rw [hkey, Nat.add_zero] at hmembers
      split_ifs with hlast
      · rw [OrderedMap.get_delete, if_neg heq]
        exact hmembers
      · exact hmembers
  · intro candidate
    unfold PresenceKeys.remove Has
    dsimp only
    rw [OrderedMap.get_delete, OrderedMap.get_delete]
    split_ifs with hid
    · exact Iff.rfl
    · exact h.leases candidate
  · intro candidate other hother
    unfold PresenceKeys.remove at hother
    dsimp only at hother
    rw [OrderedMap.get_delete] at hother
    split_ifs at hother with hid
    exact h.keyed candidate other hother

/-- Whose presence the removal of a connection changes. -/
theorem WellFormed.present_remove_iff (h : keys.WellFormed)
    (hget : keys.connections.get connectionId = some connection) (key : String) :
    (keys.remove connectionId connection).1.Present key ↔
      keys.Present key ∧
        ¬((keys.remove connectionId connection).2 = true ∧ connection.actorKey = key) := by
  rw [(h.remove hget).members, h.members, h.last_remove_iff hget]
  have hkey := tally_remove hget key
  split_ifs at hkey with heq
  · subst heq
    simp only [and_true]
    omega
  · simp only [heq, and_false, not_false_eq_true, and_true]
    omega

theorem dropEmpty_present (h : keys.WellFormed) (key : String) :
    keys.dropEmpty.Present key ↔ keys.Present key := by
  unfold dropEmpty
  split_ifs with hsize
  · have hnil : keys.connections.entries = [] := List.length_eq_zero_iff.1 hsize
    rw [wellFormed_empty.members, h.members]
    simp [tally, hnil, empty, OrderedMap.empty]
  · exact Iff.rfl

theorem dropEmpty_has : keys.dropEmpty.Has connectionId ↔ keys.Has connectionId := by
  unfold dropEmpty
  split_ifs with hsize
  · have hnil : keys.connections.entries = [] := List.length_eq_zero_iff.1 hsize
    simp [Has, OrderedMap.get, hnil, empty, OrderedMap.empty]
  · exact Iff.rfl

theorem WellFormed.dropEmpty (h : keys.WellFormed) : keys.dropEmpty.WellFormed := by
  unfold PresenceKeys.dropEmpty
  split_ifs
  · exact wellFormed_empty
  · exact h

theorem WellFormed.leave (h : keys.WellFormed) (connectionId : String) :
    (keys.leave connectionId).1.WellFormed := by
  unfold PresenceKeys.leave
  split
  · exact h
  · next connection hget => exact (h.remove hget).dropEmpty

/-- **Who leaves with the last connection is told so, and is no member any more**; the others are as
before. -/
theorem WellFormed.present_leave_iff (h : keys.WellFormed) (connectionId key : String) :
    (keys.leave connectionId).1.Present key ↔
      keys.Present key ∧ ¬((keys.leave connectionId).2.last = true ∧
        ∃ member, (keys.leave connectionId).2.member = some member ∧ actorKey member = key) := by
  unfold PresenceKeys.leave
  split
  · simp
  · next connection hget =>
      dsimp only
      rw [dropEmpty_present (h.remove hget), h.present_remove_iff hget,
        h.keyed connectionId connection hget]
      simp

/-- Who is told to have left was a member. -/
theorem WellFormed.present_of_leave (h : keys.WellFormed) {member : ActorRef}
    (hmember : (keys.leave connectionId).2.member = some member) :
    keys.Present (actorKey member) := by
  unfold PresenceKeys.leave at hmember
  split at hmember
  · cases hmember
  · next connection hget =>
      cases hmember
      exact h.present hget

/-! ### Cleaning up -/

variable {candidate : String}

/-- A lease without a connection is dropped. -/
theorem WellFormed.dropLease (h : keys.WellFormed)
    (hnone : keys.connections.get connectionId = none) :
    WellFormed { keys with leases := keys.leases.delete connectionId } := by
  refine ⟨h.count, h.members, ?_, h.keyed⟩
  intro candidate
  rw [OrderedMap.get_delete]
  split_ifs with hid
  · subst hid
    simp [Has, hnone]
  · exact h.leases candidate

theorem WellFormed.removeAll (h : keys.WellFormed) (connectionIds : List String) :
    (removeAll connectionIds keys).1.WellFormed := by
  induction connectionIds generalizing keys with
  | nil => exact h
  | cons connectionId rest ih =>
    unfold removeAll
    split
    · next hnone => exact ih (h.dropLease hnone)
    · next connection hget => exact ih (h.remove hget)

theorem WellFormed.present_removeAll_iff (h : keys.WellFormed) (connectionIds : List String)
    (key : String) :
    (PresenceKeys.removeAll connectionIds keys).1.Present key ↔
      keys.Present key ∧
        ∀ member ∈ (PresenceKeys.removeAll connectionIds keys).2, actorKey member ≠ key := by
  induction connectionIds generalizing keys with
  | nil => simp [PresenceKeys.removeAll]
  | cons connectionId rest ih =>
    unfold PresenceKeys.removeAll
    split
    · next hnone => exact ih (h.dropLease hnone)
    · next connection hget =>
        dsimp only
        rw [ih (h.remove hget), h.present_remove_iff hget, h.keyed connectionId connection hget]
        split_ifs with hlast
        · simp [hlast, and_assoc]
        · simp [hlast]

/-- Who is listed as having left was a member. -/
theorem WellFormed.present_of_mem_removeAll (h : keys.WellFormed) {connectionIds : List String}
    {member : ActorRef} (hmem : member ∈ (PresenceKeys.removeAll connectionIds keys).2) :
    keys.Present (actorKey member) := by
  induction connectionIds generalizing keys with
  | nil => cases hmem
  | cons connectionId rest ih =>
    unfold PresenceKeys.removeAll at hmem
    split at hmem
    · next hnone =>
        have hpresent := ih (h.dropLease hnone) hmem
        exact hpresent
    · next connection hget =>
        have hrest : member ∈ (PresenceKeys.removeAll rest
            (keys.remove connectionId connection).1).2 → keys.Present (actorKey member) :=
          fun hlater => ((h.present_remove_iff hget _).1 (ih (h.remove hget) hlater)).1
        dsimp only at hmem
        split_ifs at hmem with hlast
        · rcases List.mem_cons.1 hmem with rfl | hlater
          · exact h.present hget
          · exact hrest hlater
        · exact hrest hmem

theorem has_removeAll_iff (connectionIds : List String) :
    (removeAll connectionIds keys).1.Has candidate ↔
      keys.Has candidate ∧ candidate ∉ connectionIds := by
  induction connectionIds generalizing keys with
  | nil => simp [removeAll]
  | cons connectionId rest ih =>
    unfold removeAll
    split
    · next hnone =>
        rw [ih, List.mem_cons, not_or]
        refine and_congr_right fun hhas => (and_iff_right ?_).symm
        rintro rfl
        simp [Has, hnone] at hhas
    · next connection hget =>
        dsimp only
        rw [ih, List.mem_cons, not_or, ← and_assoc]
        refine and_congr_left fun _ => ?_
        unfold Has remove
        dsimp only
        rw [OrderedMap.get_delete]
        split_ifs with hid <;> simp [hid]

variable {now limit : ℕ}

theorem WellFormed.cleanup (h : keys.WellFormed) (now limit : ℕ) :
    (keys.cleanup now limit).1.WellFormed :=
  (h.removeAll _).dropEmpty

/-- **The members that a cleanup lists are those who have left.** -/
theorem WellFormed.present_cleanup_iff (h : keys.WellFormed) (key : String) :
    (keys.cleanup now limit).1.Present key ↔
      keys.Present key ∧ ∀ member ∈ (keys.cleanup now limit).2, actorKey member ≠ key := by
  unfold PresenceKeys.cleanup
  dsimp only
  rw [dropEmpty_present (h.removeAll _), h.present_removeAll_iff]

theorem WellFormed.present_of_mem_cleanup (h : keys.WellFormed) {member : ActorRef}
    (hmem : member ∈ (keys.cleanup now limit).2) : keys.Present (actorKey member) :=
  h.present_of_mem_removeAll hmem

/-- A cleanup removes the connections whose leases it takes. -/
theorem has_cleanup_iff :
    (keys.cleanup now limit).1.Has connectionId ↔
      keys.Has connectionId ∧ connectionId ∉ keys.expired now limit := by
  unfold cleanup
  dsimp only
  rw [dropEmpty_has, has_removeAll_iff]

/-- Leaving removes one connection. -/
theorem has_leave_iff :
    (keys.leave connectionId).1.Has candidate ↔ keys.Has candidate ∧ candidate ≠ connectionId := by
  unfold leave
  split
  · next hnone =>
      refine (and_iff_left_of_imp ?_).symm
      rintro hhas rfl
      simp [Has, hnone] at hhas
  · dsimp only
    rw [dropEmpty_has]
    unfold Has remove
    dsimp only
    rw [OrderedMap.get_delete]
    split_ifs with hid <;> simp [hid]

theorem has_join_iff {key : String} {actor : ActorRef} {expiresAt : ℕ} :
    (keys.join connectionId key actor expiresAt).1.Has candidate ↔
      keys.Has candidate ∨ candidate = connectionId := by
  unfold join Has
  cases hget : keys.connections.get connectionId with
  | some connection =>
    refine (or_iff_left_of_imp ?_).symm
    rintro rfl
    exact Option.isSome_of_eq_some hget
  | none =>
    dsimp only
    rw [OrderedMap.get_set]
    split_ifs with hid <;> simp [hid]

theorem WellFormed.renew (h : keys.WellFormed) (connectionId : String) (expiresAt : ℕ) :
    (keys.renew connectionId expiresAt).1.WellFormed := by
  unfold PresenceKeys.renew
  split_ifs with hhas
  · exact h.touch hhas expiresAt
  · exact h

/-- What is in the hash of the connections after a script was there, or has joined. -/
theorem get_connections_join {key : String} {actor : ActorRef} {expiresAt : ℕ}
    (h : (keys.join connectionId key actor expiresAt).1.connections.get candidate =
      some connection) :
    keys.connections.get candidate = some connection ∨
      candidate = connectionId ∧ connection.member = actor := by
  unfold join at h
  split at h
  · exact .inl h
  · dsimp only at h
    rw [OrderedMap.get_set] at h
    split_ifs at h with hid
    · cases h
      exact .inr ⟨hid, rfl⟩
    · exact .inl h

theorem get_connections_dropEmpty (h : keys.dropEmpty.connections.get candidate = some connection) :
    keys.connections.get candidate = some connection := by
  unfold dropEmpty at h
  split_ifs at h
  · cases h
  · exact h

theorem get_connections_remove {removed : PresenceConnection}
    (h : (keys.remove connectionId removed).1.connections.get candidate = some connection) :
    keys.connections.get candidate = some connection := by
  unfold remove at h
  dsimp only at h
  rw [OrderedMap.get_delete] at h
  split_ifs at h
  exact h

theorem get_connections_leave
    (h : (keys.leave connectionId).1.connections.get candidate = some connection) :
    keys.connections.get candidate = some connection := by
  unfold leave at h
  split at h
  · exact h
  · exact get_connections_remove (get_connections_dropEmpty h)

theorem get_connections_removeAll {connectionIds : List String}
    (h : (removeAll connectionIds keys).1.connections.get candidate = some connection) :
    keys.connections.get candidate = some connection := by
  induction connectionIds generalizing keys with
  | nil => exact h
  | cons connectionId rest ih =>
    unfold removeAll at h
    split at h
    · have hrest := ih h
      exact hrest
    · exact get_connections_remove (ih h)

theorem get_connections_cleanup
    (h : (keys.cleanup now limit).1.connections.get candidate = some connection) :
    keys.connections.get candidate = some connection :=
  get_connections_removeAll (get_connections_dropEmpty h)

theorem renew_connections (connectionId : String) (expiresAt : ℕ) :
    (keys.renew connectionId expiresAt).1.connections = keys.connections := by
  unfold renew
  split_ifs <;> rfl

theorem renew_members (connectionId : String) (expiresAt : ℕ) :
    (keys.renew connectionId expiresAt).1.members = keys.members := by
  unfold renew
  split_ifs <;> rfl

end PresenceKeys

/-! ### The keys of a channel, and those of the others -/

namespace RedisPresence

variable {redis : RedisPresence} {channel channel' : BroadcastDestination}

@[simp] theorem keys_put_self (keys : PresenceKeys) :
    (redis.put channel keys).keys channel = keys :=
  if_pos rfl

theorem keys_put_of_ne (hne : channel' ≠ channel) (keys : PresenceKeys) :
    (redis.put channel keys).keys channel' = redis.keys channel' :=
  if_neg hne

@[simp] theorem keys_addChannel : (redis.addChannel channel).keys = redis.keys := by
  unfold addChannel
  split_ifs <;> rfl

@[simp] theorem keys_dropChannel : (redis.dropChannel channel).keys = redis.keys := by
  unfold dropChannel
  split_ifs <;> rfl

theorem keys_joinPresence (connectionId : String) (channel : BroadcastDestination)
    (actor : ActorRef) (expiresAt : ℕ) :
    (redis.joinPresence connectionId channel actor expiresAt).1.keys =
      (redis.put channel
        ((redis.keys channel).join connectionId (actorKey actor) actor expiresAt).1).keys := by
  unfold joinPresence
  dsimp only
  split_ifs
  · rfl
  · rw [keys_addChannel]

theorem keys_leavePresence (connectionId : String) (channel : BroadcastDestination) :
    (redis.leavePresence connectionId channel).1.keys =
      (redis.put channel ((redis.keys channel).leave connectionId).1).keys := by
  unfold leavePresence
  dsimp only
  split_ifs
  · rw [keys_dropChannel]
  · rfl

theorem keys_cleanupChannel (channel : BroadcastDestination) (now limit : ℕ) :
    (redis.cleanupChannel channel now limit).1.keys =
      (redis.put channel ((redis.keys channel).cleanup now limit).1).keys :=
  keys_dropChannel

/-- The keys of every channel are well formed. -/
def WellFormed (redis : RedisPresence) : Prop := ∀ channel, (redis.keys channel).WellFormed

theorem wellFormed_new : WellFormed new := fun _ => wellFormed_empty

theorem WellFormed.put {keys : PresenceKeys} (h : redis.WellFormed) (hkeys : keys.WellFormed) :
    (redis.put channel keys).WellFormed := by
  intro candidate
  by_cases hchannel : candidate = channel
  · subst hchannel
    rw [keys_put_self]
    exact hkeys
  · rw [keys_put_of_ne hchannel]
    exact h candidate

/-- What is well formed are the keys. -/
theorem WellFormed.congr {redis' : RedisPresence} (h : redis.WellFormed)
    (hkeys : redis'.keys = redis.keys) : redis'.WellFormed := by
  intro candidate
  rw [hkeys]
  exact h candidate

theorem WellFormed.joinPresence (h : redis.WellFormed) (connectionId : String)
    (channel : BroadcastDestination) (actor : ActorRef) (expiresAt : ℕ) :
    (redis.joinPresence connectionId channel actor expiresAt).1.WellFormed :=
  (h.put ((h channel).join connectionId actor expiresAt)).congr (keys_joinPresence _ _ _ _)

theorem WellFormed.leavePresence (h : redis.WellFormed) (connectionId : String)
    (channel : BroadcastDestination) : (redis.leavePresence connectionId channel).1.WellFormed :=
  (h.put ((h channel).leave connectionId)).congr (keys_leavePresence _ _)

theorem WellFormed.renewPresence (h : redis.WellFormed) (connectionId : String)
    (channel : BroadcastDestination) (expiresAt : ℕ) :
    (redis.renewPresence connectionId channel expiresAt).WellFormed :=
  h.put ((h channel).renew connectionId expiresAt)

theorem WellFormed.cleanupChannel (h : redis.WellFormed) (channel : BroadcastDestination)
    (now limit : ℕ) : (redis.cleanupChannel channel now limit).1.WellFormed :=
  (h.put ((h channel).cleanup now limit)).congr (keys_cleanupChannel _ _ _)

end RedisPresence

end Doxa
