/-
**Throttles of realtime commands.**

A realtime command may be sent `limit` times in `windowMs` milliseconds by an actor.  Three
implementations count: Keryx in memory (`keryx/src/index.ts`), for the `single` topology; a script
in Redis (`keryx/src/redis-backplane.ts`); and the transport that tests use
(`core/src/broadcasting.ts`).  In memory there is a bucket for each pair of an actor and a command,
and Keryx limits how many there are.  In Redis there is a sorted set for each pair, whose members
are made unique by `randomUUID`, and whose key expires.

The hash of a pair that names its key in Redis stands for the pair, and a UUID is a number that was
not drawn before.

Main definitions:

* `Doxa.consumeInKeryx`, `Doxa.consumeInFake`, `Doxa.consumeInRedis` — the three implementations;
* `Doxa.windowDecision` — the decision of an exact sliding window, from what was decided before.

Main results:

* `Doxa.FollowsBuckets.countAttempt`, `Doxa.follows_consumeInRedis` — the implementations keep the
  times that are still in the window;
* `Doxa.command_throttles_exact` — **the implementations decide the same**, which is what an exact
  sliding window decides.
-/

import Doxa.Lib.Answering
import Doxa.Lib.OrderedMap
import Doxa.Lib.SlidingWindow
import Mathlib.Data.List.Dedup
import Mathlib.Data.List.Perm.Subperm

set_option relaxedAutoImplicit false
set_option autoImplicit false

namespace Doxa

open SlidingWindow Answering

/-! ### Requests and decisions -/

/-- How often a command may be sent. -/
structure RealtimeCommandThrottle where
  limit : ℕ
  windowMs : ℕ
  limit_pos : 1 ≤ limit
  windowMs_pos : 1 ≤ windowMs

/-- An actor and a command. -/
structure ThrottlePair where
  actorId : String
  command : String
deriving DecidableEq

/-- A request, with the time at which it is made. -/
structure RealtimeCommandThrottleRequest where
  pair : ThrottlePair
  requestId : String
  throttle : RealtimeCommandThrottle
  now : ℕ

structure RealtimeCommandThrottleDecision where
  allowed : Bool
  retryAfterMs : Option ℤ
deriving DecidableEq

namespace RealtimeCommandThrottleRequest

def limit (request : RealtimeCommandThrottleRequest) : ℕ := request.throttle.limit

def windowMs (request : RealtimeCommandThrottleRequest) : ℕ := request.throttle.windowMs

/-- Attempts up to here do not count any more. -/
def cutoff (request : RealtimeCommandThrottleRequest) : ℤ := request.now - request.windowMs

end RealtimeCommandThrottleRequest

open RealtimeCommandThrottleRequest

/-! ### In memory -/

/-- What is kept of a pair. -/
structure CommandAttempts where
  attempts : List ℕ
  expiresAt : ℕ

abbrev CommandBuckets := OrderedMap ThrottlePair CommandAttempts

/-- The attempts that are kept of a pair. -/
def attemptsOf (pair : ThrottlePair) (buckets : CommandBuckets) : List ℕ :=
  ((buckets.get pair).map CommandAttempts.attempts).getD []

/-- What Keryx and the transport for tests have in common: an attempt is counted or refused. -/
def countAttempt (buckets : CommandBuckets) (request : RealtimeCommandThrottleRequest) :
    CommandBuckets × RealtimeCommandThrottleDecision :=
  let attempts := (attemptsOf request.pair buckets).filter fun value : ℕ => request.cutoff < value
  if request.limit ≤ attempts.length then
    (buckets.set request.pair ⟨attempts, attempts.getLastD 0 + request.windowMs⟩,
      ⟨false, some (max 1 ((attempts.headD 0 : ℕ) + request.windowMs - request.now))⟩)
  else
    (buckets.set request.pair ⟨attempts ++ [request.now], request.now + request.windowMs⟩,
      ⟨true, none⟩)

/-- The buckets that have not expired. -/
def pruneBuckets (now : ℕ) (buckets : CommandBuckets) : CommandBuckets :=
  buckets.filter fun _ bucket => ¬bucket.expiresAt ≤ now

/-- The bucket of a pair is dropped when it has expired. -/
def dropExpired (pair : ThrottlePair) (now : ℕ) (buckets : CommandBuckets) : CommandBuckets :=
  match buckets.get pair with
  | none => buckets
  | some bucket =>
    if bucket.expiresAt ≠ 0 ∧ bucket.expiresAt ≤ now then buckets.delete pair else buckets

/-- `Keryx.consumeRealtimeCommandThrottle`, with the `single` topology. -/
def consumeInKeryx (maxCommandThrottleBuckets : ℕ) (commandAttempts : CommandBuckets)
    (request : RealtimeCommandThrottleRequest) :
    CommandBuckets × RealtimeCommandThrottleDecision :=
  let buckets := dropExpired request.pair request.now commandAttempts
  if (buckets.get request.pair).isNone ∧ maxCommandThrottleBuckets ≤ buckets.size then
    let pruned := pruneBuckets request.now buckets
    if maxCommandThrottleBuckets ≤ pruned.size then
      (pruned, ⟨false, some request.windowMs⟩)
    else countAttempt pruned request
  else countAttempt buckets request

/-- `FakeBroadcastTransport.consumeRealtimeCommandThrottle`. -/
def consumeInFake (commandAttempts : CommandBuckets) (request : RealtimeCommandThrottleRequest) :
    CommandBuckets × RealtimeCommandThrottleDecision :=
  countAttempt (pruneBuckets request.now commandAttempts) request

/-! ### In Redis -/

/-- A sorted set of attempts, with the time at which its key expires. -/
structure CommandSet where
  /-- The scores of the members. -/
  scores : OrderedMap (String × ℕ) ℕ
  expiresAt : ℕ

structure RedisCommands where
  sets : OrderedMap ThrottlePair CommandSet
  /-- How many UUIDs were drawn. -/
  drawn : ℕ

namespace RedisCommands

def empty : RedisCommands := ⟨.empty, 0⟩

/-- The members of a key that has not expired. -/
def scoresOf (pair : ThrottlePair) (now : ℕ) (redis : RedisCommands) :
    OrderedMap (String × ℕ) ℕ :=
  (((redis.sets.get pair).filter fun set => now ≤ set.expiresAt).map CommandSet.scores).getD
    .empty

end RedisCommands

/-- `CONSUME_REALTIME_COMMAND_THROTTLE`: whether the attempt is allowed, and when to try again. -/
def consumeScript (redis : RedisCommands) (request : RealtimeCommandThrottleRequest) :
    RedisCommands × ℤ × ℤ :=
  let scores := (redis.scoresOf request.pair request.now).filter fun _ score =>
    ¬(score : ℤ) ≤ request.cutoff
  let expiresAt := request.now + request.windowMs
  if request.limit ≤ scores.size then
    let oldest := ((scores.entries.map Prod.snd).min?).getD 0
    (⟨redis.sets.set request.pair ⟨scores, expiresAt⟩, redis.drawn + 1⟩,
      0, max 1 (oldest + request.windowMs - request.now))
  else
    let added := scores.set (request.requestId, redis.drawn) request.now
    (⟨redis.sets.set request.pair ⟨added, expiresAt⟩, redis.drawn + 1⟩, 1, 0)

/-- `RedisBackplane.consumeRealtimeCommandThrottle`. -/
def consumeInRedis (redis : RedisCommands) (request : RealtimeCommandThrottleRequest) :
    RedisCommands × RealtimeCommandThrottleDecision :=
  let result := consumeScript redis request
  let allowed := result.2.1 == 1
  (result.1, ⟨allowed, if allowed then none
    else some (max 1 (if result.2.2 = 0 then 1 else result.2.2))⟩)

/-! ### An exact sliding window -/

/-- What was decided, the latest first. -/
abbrev ThrottleHistory := List (RealtimeCommandThrottleRequest × RealtimeCommandThrottleDecision)

/-- When attempts of a pair were allowed, the earliest first. -/
def allowedTimes (pair : ThrottlePair) : ThrottleHistory → List ℕ
  | [] => []
  | (request, decision) :: earlier =>
    if request.pair = pair ∧ decision.allowed = true then
      allowedTimes pair earlier ++ [request.now]
    else allowedTimes pair earlier

/-- The decision of a sliding window. -/
def windowDecision (earlier : ThrottleHistory) (request : RealtimeCommandThrottleRequest) :
    RealtimeCommandThrottleDecision :=
  let times := allowedTimes request.pair earlier
  if Allows request.limit request.windowMs request.now times then ⟨true, none⟩
  else ⟨false, some (retryAfter request.windowMs request.now times)⟩

/-- The time of the latest request. -/
def clockOf : ThrottleHistory → ℕ
  | [] => 0
  | (request, _) :: _ => request.now

/-- The pairs with an attempt that was allowed and is still in its window. -/
def livePairs (now : ℕ) (earlier : ThrottleHistory) : List ThrottlePair :=
  ((earlier.filter fun event =>
    event.2.allowed = true ∧ now < event.1.now + event.1.windowMs).map fun event =>
      event.1.pair).dedup

/-- How many attempts of the pair of a request were allowed in the window that ends with it. -/
def allowedRecently (request : RealtimeCommandThrottleRequest) (earlier : ThrottleHistory) : ℕ :=
  earlier.countP fun event => event.1.pair = request.pair ∧ event.2.allowed = true ∧
    request.now < event.1.now + request.windowMs

/-- The clock goes on, and a pair has one throttle. -/
def OrderlyRequest (throttles : ThrottlePair → RealtimeCommandThrottle) (earlier : ThrottleHistory)
    (request : RealtimeCommandThrottleRequest) : Prop :=
  clockOf earlier ≤ request.now ∧ request.throttle = throttles request.pair

/-- Fewer pairs than there are buckets are live. -/
def HasBucket (maxCommandThrottleBuckets : ℕ) (earlier : ThrottleHistory)
    (request : RealtimeCommandThrottleRequest) : Prop :=
  (livePairs request.now earlier).length < maxCommandThrottleBuckets

instance (maxCommandThrottleBuckets : ℕ) (earlier : ThrottleHistory)
    (request : RealtimeCommandThrottleRequest) :
    Decidable (HasBucket maxCommandThrottleBuckets earlier request) :=
  inferInstanceAs (Decidable (_ < _))

/-- What a client can rely on. -/
structure ExactWindow (throttled : ThrottleHistory) : Prop where
  /-- A request is allowed while fewer than `limit` ones were in its window. -/
  allowed_iff : ∀ later request decision earlier,
    throttled = later ++ (request, decision) :: earlier →
      (decision.allowed = true ↔ allowedRecently request earlier < request.limit)
  /-- After a refusal, the next request is allowed once the time told has passed. -/
  retry_iff : ∀ later next decision between refused refusal earlier,
    throttled = later ++ (next, decision) :: (between ++ (refused, refusal) :: earlier) →
      refusal.allowed = false → next.pair = refused.pair →
      (∀ event ∈ between, event.1.pair ≠ refused.pair) →
        ∃ retryAfterMs : ℤ, refusal.retryAfterMs = some retryAfterMs ∧
          (decision.allowed = true ↔ (refused.now : ℤ) + retryAfterMs ≤ next.now)

section Window

variable {throttles : ThrottlePair → RealtimeCommandThrottle} {earlier : ThrottleHistory}
  {request : RealtimeCommandThrottleRequest} {decision : RealtimeCommandThrottleDecision}
  {pair : ThrottlePair} {now : ℕ}

theorem mem_allowedTimes {t : ℕ} :
    t ∈ allowedTimes pair earlier ↔
      ∃ event ∈ earlier, event.1.pair = pair ∧ event.2.allowed = true ∧ event.1.now = t := by
  induction earlier with
  | nil => simp [allowedTimes]
  | cons event earlier ih =>
    obtain ⟨request, decision⟩ := event
    unfold allowedTimes
    split_ifs with hevent
    · rw [List.mem_append, List.mem_singleton, ih, List.exists_mem_cons_iff, or_comm]
      exact or_congr_left ⟨fun heq => ⟨hevent.1, hevent.2, heq.symm⟩, fun h => h.2.2.symm⟩
    · rw [ih, List.exists_mem_cons_iff]
      refine (or_iff_right ?_).symm
      rintro ⟨hpair, hallowed, -⟩
      exact hevent ⟨hpair, hallowed⟩

/-- What is in the window is what was allowed recently. -/
theorem length_recent_allowedTimes :
    (recent request.windowMs request.now (allowedTimes request.pair earlier)).length =
      allowedRecently request earlier := by
  induction earlier with
  | nil => rfl
  | cons event earlier ih =>
    obtain ⟨other, decision⟩ := event
    unfold allowedTimes allowedRecently
    rw [List.countP_cons, ← allowedRecently, ← ih]
    split_ifs with hevent hcounted hcounted
    · rw [recent_append, List.length_append]
      simp only [decide_eq_true_eq] at hcounted
      simp [recent, hcounted.2.2]
    · rw [recent_append, List.length_append]
      have hold : ¬request.now < other.now + request.windowMs :=
        fun hlive => hcounted (decide_eq_true ⟨hevent.1, hevent.2, hlive⟩)
      simp [recent, hold]
    · have hboth := of_decide_eq_true hcounted
      exact absurd ⟨hboth.1, hboth.2.1⟩ hevent
    · rfl

/-- What a window has allowed is sound. -/
theorem sound_allowedTimes (hmeets : Meets windowDecision earlier)
    (horderly : Guarded (OrderlyRequest throttles) earlier) (pair : ThrottlePair) :
    Sound (throttles pair).limit (throttles pair).windowMs (clockOf earlier)
      (allowedTimes pair earlier) := by
  induction earlier with
  | nil => exact sound_nil
  | cons event earlier ih =>
    obtain ⟨request, decision⟩ := event
    obtain ⟨hdecision, hmeets⟩ := hmeets
    obtain ⟨⟨hclock, hthrottle⟩, horderly⟩ := horderly
    have hsound := (ih hmeets horderly).later hclock
    unfold allowedTimes
    split_ifs with hevent
    · obtain ⟨hpair, hallowed⟩ := hevent
      refine hsound.allow (throttles pair).windowMs_pos ?_
      rw [hdecision, windowDecision] at hallowed
      split_ifs at hallowed with hallows
      rw [limit, windowMs,
        hthrottle, hpair] at hallows
      exact hallows
    · exact hsound

end Window

/-! ### What is kept in memory -/

/-- The buckets keep the times that are still in the window, and expire with the last of them. -/
structure FollowsBuckets (throttles : ThrottlePair → RealtimeCommandThrottle) (now : ℕ)
    (earlier : ThrottleHistory) (buckets : CommandBuckets) : Prop where
  keeps : ∀ pair, Keeps (throttles pair).windowMs now (attemptsOf pair buckets)
    (allowedTimes pair earlier)
  expiry : ∀ pair bucket, buckets.get pair = some bucket →
    ∃ last ∈ allowedTimes pair earlier, bucket.expiresAt = last + (throttles pair).windowMs ∧
      ∀ t ∈ bucket.attempts, t ≤ last

variable {throttles : ThrottlePair → RealtimeCommandThrottle} {earlier : ThrottleHistory}
  {request : RealtimeCommandThrottleRequest} {buckets : CommandBuckets} {now : ℕ}

theorem followsBuckets_nil (throttles : ThrottlePair → RealtimeCommandThrottle) (now : ℕ) :
    FollowsBuckets throttles now [] .empty :=
  ⟨fun _ => keeps_nil, nofun⟩

theorem FollowsBuckets.later {next : ℕ} (h : FollowsBuckets throttles now earlier buckets)
    (hlater : now ≤ next) : FollowsBuckets throttles next earlier buckets :=
  ⟨fun pair => (h.keeps pair).later hlater, h.expiry⟩

/-- Buckets that have expired may be dropped. -/
theorem FollowsBuckets.drop {dropped : CommandBuckets}
    (h : FollowsBuckets throttles now earlier buckets)
    (hdropped : ∀ pair, dropped.get pair = buckets.get pair ∨ dropped.get pair = none ∧
      ∃ bucket, buckets.get pair = some bucket ∧ bucket.expiresAt ≤ now) :
    FollowsBuckets throttles now earlier dropped := by
  constructor
  · intro pair
    have hkeeps := h.keeps pair
    unfold attemptsOf at hkeeps ⊢
    rcases hdropped pair with hsame | ⟨hnone, bucket, hget, hexpired⟩
    · rw [hsame]
      exact hkeeps
    · rw [hnone]
      rw [hget] at hkeeps
      refine hkeeps.forget ?_
      intro t ht
      obtain ⟨last, -, hexpires, hlast⟩ := h.expiry pair bucket hget
      have hle := hlast t ht
      omega
  · intro pair bucket hget
    rcases hdropped pair with hsame | ⟨hnone, -⟩
    · exact h.expiry pair bucket (hsame ▸ hget)
    · rw [hnone] at hget
      cases hget

theorem FollowsBuckets.pruneBuckets (h : FollowsBuckets throttles now earlier buckets) :
    FollowsBuckets throttles now earlier (pruneBuckets now buckets) := by
  refine h.drop ?_
  intro pair
  rw [Doxa.pruneBuckets, OrderedMap.get_filter]
  cases hget : buckets.get pair with
  | none => simp
  | some bucket =>
    by_cases hexpired : bucket.expiresAt ≤ now
    · exact .inr ⟨by simp [hexpired], bucket, rfl, hexpired⟩
    · exact .inl (by simpa using hexpired)

theorem FollowsBuckets.dropExpired (h : FollowsBuckets throttles now earlier buckets)
    (pair : ThrottlePair) :
    FollowsBuckets throttles now earlier (dropExpired pair now buckets) := by
  unfold Doxa.dropExpired
  split
  · exact h
  · next bucket hget =>
      split_ifs with hexpired
      · refine h.drop ?_
        intro pair'
        rw [OrderedMap.get_delete]
        split_ifs with hpair
        · exact .inr ⟨rfl, bucket, hpair ▸ hget, hexpired.2⟩
        · exact .inl rfl
      · exact h

/-- The last time of a list is the greatest. -/
theorem le_getLastD {times : List ℕ} (hsorted : times.Pairwise (· ≤ ·)) {t : ℕ} (ht : t ∈ times) :
    times.getLastD 0 ∈ times ∧ t ≤ times.getLastD 0 := by
  rcases List.eq_nil_or_concat times with rfl | ⟨init, last, rfl⟩
  · cases ht
  · rw [List.concat_eq_append] at hsorted ht ⊢
    rw [List.getLastD_concat]
    refine ⟨List.mem_append_right _ (List.mem_singleton_self last), ?_⟩
    rcases List.mem_append.1 ht with ht | ht
    · exact (List.pairwise_append.1 hsorted).2.2 t ht last (List.mem_singleton_self last)
    · exact (List.mem_singleton.1 ht).le

theorem attemptsOf_set (pair : ThrottlePair) (bucket : CommandAttempts) (pair' : ThrottlePair) :
    attemptsOf pair' (buckets.set pair bucket) =
      if pair' = pair then bucket.attempts else attemptsOf pair' buckets := by
  unfold attemptsOf
  rw [OrderedMap.get_set]
  split_ifs <;> rfl

/-- A bucket is set, and only it. -/
theorem FollowsBuckets.set {decision : RealtimeCommandThrottleDecision} {bucket : CommandAttempts}
    (h : FollowsBuckets throttles request.now earlier buckets)
    (hkeeps : Keeps (throttles request.pair).windowMs request.now bucket.attempts
      (allowedTimes request.pair ((request, decision) :: earlier)))
    (hexpiry : ∃ last ∈ allowedTimes request.pair ((request, decision) :: earlier),
      bucket.expiresAt = last + (throttles request.pair).windowMs ∧
        ∀ t ∈ bucket.attempts, t ≤ last) :
    FollowsBuckets throttles request.now ((request, decision) :: earlier)
      (buckets.set request.pair bucket) := by
  have hothers : ∀ pair, pair ≠ request.pair →
      allowedTimes pair ((request, decision) :: earlier) = allowedTimes pair earlier :=
    fun pair hpair => if_neg fun hevent => hpair hevent.1.symm
  constructor
  · intro pair
    rw [attemptsOf_set]
    split_ifs with hpair
    · subst hpair
      exact hkeeps
    · rw [hothers pair hpair]
      exact h.keeps pair
  · intro pair bucket' hget
    rw [OrderedMap.get_set] at hget
    split_ifs at hget with hpair
    · subst hpair
      cases hget
      exact hexpiry
    · rw [hothers pair hpair]
      exact h.expiry pair bucket' hget

/-- **An attempt is decided as by the window**, and the buckets still follow. -/
theorem FollowsBuckets.countAttempt (h : FollowsBuckets throttles request.now earlier buckets)
    (hsound : Sound (throttles request.pair).limit (throttles request.pair).windowMs request.now
      (allowedTimes request.pair earlier))
    (hthrottle : request.throttle = throttles request.pair) :
    (countAttempt buckets request).2 = windowDecision earlier request ∧
      FollowsBuckets throttles request.now ((request, (countAttempt buckets request).2) :: earlier)
        (countAttempt buckets request).1 := by
  have hkeeps := h.keeps request.pair
  have hlimit := request.throttle.limit_pos
  have hwindow := request.throttle.windowMs_pos
  rw [← hthrottle] at hsound hkeeps
  have hattempts : ((attemptsOf request.pair buckets).filter fun value : ℕ =>
      request.cutoff < value) = recent request.windowMs request.now
        (attemptsOf request.pair buckets) := by
    refine List.filter_congr ?_
    intro value _
    rw [decide_eq_decide, cutoff]
    omega
  have hrecent : recent request.windowMs request.now (attemptsOf request.pair buckets) =
      recent request.windowMs request.now (allowedTimes request.pair earlier) := hkeeps.recent_eq
  have hpruned := hkeeps.prune
  unfold Doxa.countAttempt windowDecision
  dsimp only
  rw [hattempts, hrecent]
  by_cases hallows : Allows request.limit request.windowMs request.now
      (allowedTimes request.pair earlier)
  · have hcount := Nat.not_le.2 hallows
    rw [if_neg hcount, if_pos hallows]
    have htimes : ∀ decision : RealtimeCommandThrottleDecision, decision.allowed = true →
        allowedTimes request.pair ((request, decision) :: earlier) =
          allowedTimes request.pair earlier ++ [request.now] :=
      fun decision hdecision => if_pos ⟨rfl, hdecision⟩
    refine ⟨rfl, h.set ?_ ?_⟩
    · rw [htimes _ rfl, ← hrecent, ← hthrottle]
      exact hpruned.concat
    · rw [htimes _ rfl, ← hthrottle]
      refine ⟨request.now, List.mem_append_right _ (List.mem_singleton_self _), rfl, ?_⟩
      intro t ht
      rcases List.mem_append.1 ht with ht | ht
      · exact hsound.past t (mem_recent.1 ht).1
      · exact (List.mem_singleton.1 ht).le
  · have hcount : request.limit ≤ (recent request.windowMs request.now
        (allowedTimes request.pair earlier)).length := Nat.not_lt.1 hallows
    rw [if_pos hcount, if_neg hallows]
    have hretry := retryAfter_pos hlimit hallows
    have htimes : ∀ retry, allowedTimes request.pair ((request, ⟨false, retry⟩) :: earlier) =
        allowedTimes request.pair earlier :=
      fun retry => if_neg fun hevent => Bool.false_ne_true hevent.2
    refine ⟨?_, h.set ?_ ?_⟩
    · -- the oldest attempt is still in the window
      unfold retryAfter at hretry ⊢
      simp only [RealtimeCommandThrottleDecision.mk.injEq, Option.some.injEq, true_and]
      omega
    · rw [htimes, ← hrecent, ← hthrottle]
      exact hpruned
    · rw [htimes, ← hthrottle]
      obtain ⟨oldest, rest, holdest⟩ := exists_oldest hlimit hallows
      have hsorted : (recent request.windowMs request.now
          (allowedTimes request.pair earlier)).Pairwise (· ≤ ·) :=
        hsound.sorted.sublist recent_sublist
      have hmem : oldest ∈ recent request.windowMs request.now
          (allowedTimes request.pair earlier) := holdest ▸ List.mem_cons_self
      exact ⟨_, (mem_recent.1 (le_getLastD hsorted hmem).1).1, rfl, fun t ht =>
        (le_getLastD hsorted ht).2⟩

/-- Buckets that have not expired are live. -/
theorem FollowsBuckets.size_pruneBuckets (h : FollowsBuckets throttles now earlier buckets)
    (hthrottles : ∀ event ∈ earlier, event.1.throttle = throttles event.1.pair) :
    (Doxa.pruneBuckets now buckets).size ≤ (livePairs now earlier).length := by
  have hsubset : (Doxa.pruneBuckets now buckets).keys ⊆ livePairs now earlier := by
    intro pair hpair
    obtain ⟨⟨pair', bucket⟩, hentry, rfl⟩ := List.mem_map.1 hpair
    obtain ⟨hentry, hlive⟩ := List.mem_filter.1 hentry
    obtain ⟨last, hlast, hexpires, -⟩ := h.expiry _ bucket (OrderedMap.get_eq_some_iff.2 hentry)
    obtain ⟨event, hevent, hpair', hallowed, rfl⟩ := mem_allowedTimes.1 hlast
    refine List.mem_dedup.2 (List.mem_map.2 ⟨event, List.mem_filter.2 ⟨hevent, ?_⟩, hpair'⟩)
    have hwindow : event.1.windowMs = (throttles pair').windowMs := by
      rw [windowMs, hthrottles event hevent, hpair']
    simp only [hexpires, decide_eq_true_eq, not_le] at hlive
    simp only [decide_eq_true_eq, hwindow]
    exact ⟨hallowed, hlive⟩
  have hlength := ((Doxa.pruneBuckets now buckets).keys_nodup.subperm hsubset).length_le
  rw [OrderedMap.keys, List.length_map] at hlength
  exact hlength

/-! ### What is kept in Redis -/

/-- The attempts in a sorted set. -/
def CommandSet.times (set : CommandSet) : List ℕ := set.scores.entries.map Prod.snd

/-- The sorted sets keep the times that are still in the window, their keys do not expire earlier,
and a UUID that is drawn is new. -/
structure FollowsRedis (throttles : ThrottlePair → RealtimeCommandThrottle) (now : ℕ)
    (earlier : ThrottleHistory) (redis : RedisCommands) : Prop where
  keeps : ∀ pair, Keeps (throttles pair).windowMs now
    (((redis.sets.get pair).map CommandSet.times).getD []) (allowedTimes pair earlier)
  expiry : ∀ pair set, redis.sets.get pair = some set →
    ∀ t ∈ set.times, t + (throttles pair).windowMs ≤ set.expiresAt
  fresh : ∀ pair set, redis.sets.get pair = some set → ∀ member ∈ set.scores.keys,
    member.2 < redis.drawn

variable {redis : RedisCommands}

theorem followsRedis_nil (throttles : ThrottlePair → RealtimeCommandThrottle) (now : ℕ) :
    FollowsRedis throttles now [] .empty :=
  ⟨fun _ => keeps_nil, nofun, nofun⟩

theorem FollowsRedis.later {next : ℕ} (h : FollowsRedis throttles now earlier redis)
    (hlater : now ≤ next) : FollowsRedis throttles next earlier redis :=
  ⟨fun pair => (h.keeps pair).later hlater, h.expiry, h.fresh⟩

/-- The members that the script goes on with. -/
def scoresInWindow (redis : RedisCommands) (request : RealtimeCommandThrottleRequest) :
    OrderedMap (String × ℕ) ℕ :=
  (redis.scoresOf request.pair request.now).filter fun _ score =>
    ¬(score : ℤ) ≤ request.cutoff

/-- **A key that has expired holds nothing of the window.** -/
theorem FollowsRedis.scoresInWindow_eq (h : FollowsRedis throttles request.now earlier redis)
    (hthrottle : request.throttle = throttles request.pair) :
    (scoresInWindow redis request).entries.map Prod.snd =
      recent request.windowMs request.now (allowedTimes request.pair earlier) := by
  have hkeeps := (h.keeps request.pair).recent_eq
  have hwindow : (throttles request.pair).windowMs = request.windowMs := by
    rw [windowMs, hthrottle]
  rw [hwindow] at hkeeps
  have hfilter : ∀ scores : OrderedMap (String × ℕ) ℕ,
      (scores.filter fun _ score => ¬(score : ℤ) ≤ request.cutoff).entries.map Prod.snd =
        recent request.windowMs request.now (scores.entries.map Prod.snd) := by
    intro scores
    rw [recent, List.filter_map]
    refine congrArg _ (List.filter_congr ?_)
    intro entry _
    rw [Function.comp_apply, decide_eq_decide, cutoff]
    omega
  rw [scoresInWindow, hfilter, ← hkeeps, RedisCommands.scoresOf]
  cases hget : redis.sets.get request.pair with
  | none => rfl
  | some set =>
    by_cases hlive : request.now ≤ set.expiresAt
    · simp [Option.filter_some, hlive, CommandSet.times]
    · have hgone : recent request.windowMs request.now set.times = [] := by
        refine List.filter_eq_nil_iff.2 ?_
        intro t ht
        have hexpiry := h.expiry request.pair set hget t ht
        rw [hwindow] at hexpiry
        simp only [decide_eq_true_eq]
        omega
      simp [Option.filter_some, hlive, hgone, OrderedMap.empty]

/-- The members that the script goes on with are old ones. -/
theorem FollowsRedis.fresh_scoresInWindow (h : FollowsRedis throttles request.now earlier redis)
    {member : String × ℕ} (hmember : member ∈ (scoresInWindow redis request).keys) :
    member.2 < redis.drawn := by
  obtain ⟨entry, hentry, rfl⟩ := List.mem_map.1 hmember
  have hold := (List.mem_filter.1 hentry).1
  rw [RedisCommands.scoresOf] at hold
  cases hget : redis.sets.get request.pair with
  | none =>
    rw [hget] at hold
    cases hold
  | some set =>
    rw [hget] at hold
    by_cases hlive : request.now ≤ set.expiresAt
    · simp only [Option.filter_some, hlive, decide_true, if_true, Option.map_some,
        Option.getD_some] at hold
      exact h.fresh request.pair set hget entry.1 (List.mem_map_of_mem hold)
    · simp only [Option.filter_some, hlive, decide_false, Bool.false_eq_true, if_false,
        Option.map_none, Option.getD_none] at hold
      cases hold

/-- A sorted set is changed, and only it. -/
theorem FollowsRedis.set {decision : RealtimeCommandThrottleDecision} {set : CommandSet}
    (h : FollowsRedis throttles request.now earlier redis)
    (hkeeps : Keeps (throttles request.pair).windowMs request.now set.times
      (allowedTimes request.pair ((request, decision) :: earlier)))
    (hexpiry : ∀ t ∈ set.times, t + (throttles request.pair).windowMs ≤ set.expiresAt)
    (hfresh : ∀ member ∈ set.scores.keys, member.2 < redis.drawn + 1) :
    FollowsRedis throttles request.now ((request, decision) :: earlier)
      ⟨redis.sets.set request.pair set, redis.drawn + 1⟩ := by
  have hothers : ∀ pair, pair ≠ request.pair →
      allowedTimes pair ((request, decision) :: earlier) = allowedTimes pair earlier :=
    fun pair hpair => if_neg fun hevent => hpair hevent.1.symm
  constructor
  · intro pair
    dsimp only
    rw [OrderedMap.get_set]
    split_ifs with hpair
    · subst hpair
      exact hkeeps
    · rw [hothers pair hpair]
      exact h.keeps pair
  · intro pair set' hget
    dsimp only at hget
    rw [OrderedMap.get_set] at hget
    split_ifs at hget with hpair
    · subst hpair
      cases hget
      exact hexpiry
    · exact h.expiry pair set' hget
  · intro pair set' hget member hmember
    dsimp only at hget
    rw [OrderedMap.get_set] at hget
    split_ifs at hget with hpair
    · cases hget
      exact hfresh member hmember
    · have hold := h.fresh pair set' hget member hmember
      exact Nat.lt_succ_of_lt hold

/-- The least of times in order is the first one. -/
theorem min?_getD_eq_headD {times : List ℕ} (hsorted : times.Pairwise (· ≤ ·)) :
    times.min?.getD 0 = times.headD 0 := by
  rw [List.min?_eq_head? (hsorted.imp Nat.min_eq_left), List.headD_eq_head?_getD]

/-- **The script decides as the window does**, and the sorted sets still follow. -/
theorem FollowsRedis.consumeInRedis (h : FollowsRedis throttles request.now earlier redis)
    (hsound : Sound (throttles request.pair).limit (throttles request.pair).windowMs request.now
      (allowedTimes request.pair earlier))
    (hthrottle : request.throttle = throttles request.pair) :
    (consumeInRedis redis request).2 = windowDecision earlier request ∧
      FollowsRedis throttles request.now ((request, (consumeInRedis redis request).2) :: earlier)
        (consumeInRedis redis request).1 := by
  have hlimit := request.throttle.limit_pos
  have hkeeps := (h.keeps request.pair).prune
  have hscores := h.scoresInWindow_eq hthrottle
  have hfresh : ∀ member ∈ (scoresInWindow redis request).keys, member.2 < redis.drawn :=
    fun member => h.fresh_scoresInWindow
  have hsize : (scoresInWindow redis request).size =
      (recent request.windowMs request.now (allowedTimes request.pair earlier)).length := by
    rw [← hscores, List.length_map]
    rfl
  rw [(h.keeps request.pair).recent_eq, ← hthrottle] at hkeeps
  rw [← hthrottle] at hsound
  unfold Doxa.consumeInRedis consumeScript windowDecision
  rw [← scoresInWindow]
  dsimp only
  rw [hsize, hscores]
  by_cases hallows : Allows request.limit request.windowMs request.now
      (allowedTimes request.pair earlier)
  · have hcount := Nat.not_le.2 hallows
    rw [if_neg hcount, if_pos hallows]
    have hnew : (scoresInWindow redis request).get (request.requestId, redis.drawn) = none :=
      OrderedMap.get_eq_none_iff.2 fun hmem => lt_irrefl _ (hfresh _ hmem)
    have hadded : ((scoresInWindow redis request).set (request.requestId, redis.drawn)
        request.now).entries = (scoresInWindow redis request).entries ++
          [((request.requestId, redis.drawn), request.now)] :=
      OrderedMap.entries_set_of_get_eq_none hnew request.now
    have htimes : ∀ expiresAt, CommandSet.times ⟨(scoresInWindow redis request).set
        (request.requestId, redis.drawn) request.now, expiresAt⟩ =
          recent request.windowMs request.now (allowedTimes request.pair earlier) ++
            [request.now] := by
      intro expiresAt
      rw [CommandSet.times, hadded, List.map_append, hscores]
      rfl
    refine ⟨rfl, h.set ?_ ?_ ?_⟩
    · rw [htimes, allowedTimes, if_pos ⟨rfl, rfl⟩, ← hthrottle]
      exact hkeeps.concat
    · intro t ht
      rw [htimes] at ht
      rw [← hthrottle]
      rcases List.mem_append.1 ht with ht | ht
      · exact Nat.add_le_add_right (hsound.past t (mem_recent.1 ht).1) _
      · rw [List.mem_singleton.1 ht]
        exact le_rfl
    · intro member hmember
      dsimp only at hmember
      rw [OrderedMap.keys, hadded, List.map_append, List.mem_append] at hmember
      rcases hmember with hmember | hmember
      · exact Nat.lt_succ_of_lt (hfresh member hmember)
      · rw [List.mem_singleton.1 hmember]
        exact Nat.lt_succ_self _
  · have hcount : request.limit ≤ (recent request.windowMs request.now
        (allowedTimes request.pair earlier)).length := Nat.not_lt.1 hallows
    rw [if_pos hcount, if_neg hallows]
    have hretry := retryAfter_pos hlimit hallows
    refine ⟨?_, h.set ?_ ?_ ?_⟩
    · -- the time to wait is positive, so that neither bound of it matters
      rw [min?_getD_eq_headD (hsound.sorted.sublist recent_sublist)]
      unfold retryAfter at hretry ⊢
      generalize (recent request.windowMs request.now
        (allowedTimes request.pair earlier)).headD 0 = oldest at hretry ⊢
      have hwait : max 1 ((oldest : ℤ) + request.windowMs - request.now) =
          ((oldest + request.windowMs - request.now : ℕ) : ℤ) := by omega
      have hpositive : ((oldest + request.windowMs - request.now : ℕ) : ℤ) ≠ 0 := by omega
      simp only [hwait, hpositive, if_false, RealtimeCommandThrottleDecision.mk.injEq]
      refine ⟨rfl, ?_⟩
      simp only [show ((0 : ℤ) == 1) = false from rfl, Bool.false_eq_true, if_false,
        Option.some.injEq]
      omega
    · rw [CommandSet.times, hscores, allowedTimes, if_neg, ← hthrottle]
      · exact hkeeps
      · rintro ⟨-, hallowed⟩
        cases hallowed
    · intro t ht
      rw [CommandSet.times, hscores] at ht
      rw [← hthrottle]
      exact Nat.add_le_add_right (hsound.past t (mem_recent.1 ht).1) _
    · exact fun member hmember => Nat.lt_succ_of_lt (hfresh member hmember)

/-! ### The implementations decide alike -/

/-- The throttles of the requests that were made. -/
theorem throttles_of_orderly (horderly : Guarded (OrderlyRequest throttles) earlier) :
    ∀ event ∈ earlier, event.1.throttle = throttles event.1.pair := by
  induction earlier with
  | nil => nofun
  | cons event earlier ih =>
    intro event' hevent
    rcases List.mem_cons.1 hevent with rfl | hevent
    · exact horderly.1.2
    · exact ih horderly.2 event' hevent

theorem FollowsBuckets.consumeInFake (h : FollowsBuckets throttles request.now earlier buckets)
    (hsound : Sound (throttles request.pair).limit (throttles request.pair).windowMs request.now
      (allowedTimes request.pair earlier))
    (hthrottle : request.throttle = throttles request.pair) :
    (consumeInFake buckets request).2 = windowDecision earlier request ∧
      FollowsBuckets throttles request.now ((request, (consumeInFake buckets request).2) :: earlier)
        (consumeInFake buckets request).1 :=
  h.pruneBuckets.countAttempt hsound hthrottle

/-- **Keryx decides as the window does** when there is a bucket for every live pair. -/
theorem FollowsBuckets.consumeInKeryx {maxCommandThrottleBuckets : ℕ}
    (h : FollowsBuckets throttles request.now earlier buckets)
    (hsound : Sound (throttles request.pair).limit (throttles request.pair).windowMs request.now
      (allowedTimes request.pair earlier))
    (hthrottle : request.throttle = throttles request.pair)
    (hthrottles : ∀ event ∈ earlier, event.1.throttle = throttles event.1.pair)
    (hbucket : HasBucket maxCommandThrottleBuckets earlier request) :
    (consumeInKeryx maxCommandThrottleBuckets buckets request).2 = windowDecision earlier request ∧
      FollowsBuckets throttles request.now
        ((request, (consumeInKeryx maxCommandThrottleBuckets buckets request).2) :: earlier)
        (consumeInKeryx maxCommandThrottleBuckets buckets request).1 := by
  have hdropped := h.dropExpired request.pair
  have hsize := hdropped.size_pruneBuckets hthrottles
  have hroom : ¬maxCommandThrottleBuckets ≤
      (Doxa.pruneBuckets request.now (Doxa.dropExpired request.pair request.now buckets)).size :=
    Nat.not_le.2 (hsize.trans_lt hbucket)
  unfold Doxa.consumeInKeryx
  dsimp only
  rw [if_neg hroom]
  split_ifs
  · exact hdropped.pruneBuckets.countAttempt hsound hthrottle
  · exact hdropped.countAttempt hsound hthrottle

/-- Requests in order make an orderly history. -/
theorem guarded_orderly {σ : Type*}
    {answer : σ → RealtimeCommandThrottleRequest → σ × RealtimeCommandThrottleDecision} {start : σ}
    {requests : List RealtimeCommandThrottleRequest}
    (hclock : requests.Pairwise fun request later => request.now ≤ later.now)
    (hthrottles : ∀ request ∈ requests, request.throttle = throttles request.pair) :
    Guarded (OrderlyRequest throttles) (history answer start requests) := by
  induction requests using List.reverseRecOn with
  | nil => trivial
  | append_singleton requests request ih =>
    obtain ⟨hearlier, -, hlast⟩ := List.pairwise_append.1 hclock
    rw [history, observe_concat]
    refine ⟨⟨?_, hthrottles request (List.mem_append_right _ (List.mem_singleton_self _))⟩,
      ih hearlier fun other hother => hthrottles other (List.mem_append_left _ hother)⟩
    cases hhistory : history answer start requests with
    | nil =>
      rw [history] at hhistory
      rw [hhistory]
      exact Nat.zero_le _
    | cons event earlier =>
      have hinputs : (history answer start requests).map Prod.fst = requests.reverse :=
        map_fst_history requests
      rw [hhistory, List.map_cons] at hinputs
      have hmem : event.1 ∈ requests := by
        rw [← List.mem_reverse, ← hinputs]
        exact List.mem_cons_self
      rw [history] at hhistory
      rw [hhistory]
      exact hlast event.1 hmem request (List.mem_singleton_self request)

theorem le_clockOf (horderly : Guarded (OrderlyRequest throttles) earlier) :
    ∀ event ∈ earlier, event.1.now ≤ clockOf earlier := by
  induction earlier with
  | nil => nofun
  | cons event earlier ih =>
    intro event' hevent
    rcases List.mem_cons.1 hevent with rfl | hevent
    · exact le_rfl
    · exact (ih horderly.2 event' hevent).trans horderly.1.1

/-- Requests of other pairs allow nothing to a pair. -/
theorem allowedTimes_append_of_ne {pair : ThrottlePair} {between : ThrottleHistory}
    (hothers : ∀ event ∈ between, event.1.pair ≠ pair) :
    allowedTimes pair (between ++ earlier) = allowedTimes pair earlier := by
  induction between with
  | nil => rfl
  | cons event between ih =>
    obtain ⟨request, decision⟩ := event
    have hne := hothers (request, decision) List.mem_cons_self
    rw [List.cons_append, allowedTimes, if_neg fun hevent => hne hevent.1]
    exact ih fun event hevent => hothers event (List.mem_cons_of_mem _ hevent)

/-- **A history that the window decides is exact.** -/
theorem exactWindow_of_meets {throttled : ThrottleHistory} (hmeets : Meets windowDecision throttled)
    (horderly : Guarded (OrderlyRequest throttles) throttled) : ExactWindow throttled := by
  constructor
  · rintro later request decision earlier rfl
    rw [(hmeets.of_append).1, windowDecision, ← length_recent_allowedTimes]
    by_cases hallows : Allows request.limit request.windowMs request.now
        (allowedTimes request.pair earlier)
    · rw [if_pos hallows]
      exact iff_of_true rfl hallows
    · rw [if_neg hallows]
      exact iff_of_false Bool.false_ne_true hallows
  · rintro later next decision between refused refusal earlier rfl hrefused hpair hbetween
    obtain ⟨hdecision, hmeets⟩ := hmeets.of_append
    obtain ⟨⟨hclock, hthrottle⟩, horderly⟩ := horderly.of_append
    have hnow : refused.now ≤ next.now :=
      (le_clockOf horderly (refused, refusal)
        (List.mem_append_right _ List.mem_cons_self)).trans hclock
    obtain ⟨hrefusal, hmeets⟩ := hmeets.of_append
    obtain ⟨⟨hclock', hthrottle'⟩, horderly⟩ := horderly.of_append
    have hsame : next.throttle = refused.throttle := by rw [hthrottle, hthrottle', hpair]
    have hsound := (sound_allowedTimes hmeets horderly refused.pair).later hclock'
    rw [← hthrottle'] at hsound
    -- nothing was allowed to the pair since
    have htimes : allowedTimes next.pair (between ++ (refused, refusal) :: earlier) =
        allowedTimes refused.pair earlier := by
      rw [hpair, allowedTimes_append_of_ne hbetween, allowedTimes, if_neg]
      rintro ⟨-, hallowed⟩
      rw [hrefused] at hallowed
      cases hallowed
    rw [windowDecision] at hrefusal
    split_ifs at hrefusal with hallows
    · rw [hrefusal] at hrefused
      cases hrefused
    · have hagain := hsound.allows_iff refused.throttle.limit_pos hallows hnow
      refine ⟨_, congrArg RealtimeCommandThrottleDecision.retryAfterMs hrefusal, ?_⟩
      rw [hdecision, windowDecision, htimes, limit,
        windowMs, hsame]
      have hcast : ((refused.now : ℤ) + (retryAfter refused.windowMs refused.now
          (allowedTimes refused.pair earlier) : ℕ) ≤ next.now) ↔
            refused.now + retryAfter refused.windowMs refused.now
              (allowedTimes refused.pair earlier) ≤ next.now := by
        omega
      rw [hcast]
      by_cases hallowed : Allows refused.throttle.limit refused.throttle.windowMs next.now
          (allowedTimes refused.pair earlier)
      · rw [if_pos hallowed]
        exact iff_of_true rfl (hagain.1 hallowed)
      · rw [if_neg hallowed]
        exact iff_of_false Bool.false_ne_true fun hpassed => hallowed (hagain.2 hpassed)

section Meets

variable {requests : List RealtimeCommandThrottleRequest} {maxCommandThrottleBuckets : ℕ}

theorem meets_consumeInKeryx
    (horderly : Guarded (OrderlyRequest throttles)
      (history (consumeInKeryx maxCommandThrottleBuckets) .empty requests))
    (hlive : Guarded (HasBucket maxCommandThrottleBuckets)
      (history (consumeInKeryx maxCommandThrottleBuckets) .empty requests)) :
    Meets windowDecision
      (history (consumeInKeryx maxCommandThrottleBuckets) .empty requests) := by
  refine (meets_of_simulation windowDecision _
    (fun earlier buckets => FollowsBuckets throttles (clockOf earlier) earlier buckets)
    (followsBuckets_nil throttles 0) ?_ requests (horderly.and hlive)).1
  rintro earlier buckets request hfollows hmeets hguarded ⟨⟨hclock, hthrottle⟩, hbucket⟩
  have hearlier : Guarded (OrderlyRequest throttles) earlier := hguarded.mono fun _ _ h => h.1
  have hsound := (sound_allowedTimes hmeets hearlier request.pair).later hclock
  exact (hfollows.later hclock).consumeInKeryx hsound hthrottle (throttles_of_orderly hearlier)
    hbucket

theorem meets_consumeInFake
    (horderly : Guarded (OrderlyRequest throttles)
      (history consumeInFake .empty requests)) :
    Meets windowDecision (history consumeInFake .empty requests) := by
  refine (meets_of_simulation windowDecision _
    (fun earlier buckets => FollowsBuckets throttles (clockOf earlier) earlier buckets)
    (followsBuckets_nil throttles 0) ?_ requests horderly).1
  rintro earlier buckets request hfollows hmeets hearlier ⟨hclock, hthrottle⟩
  have hsound := (sound_allowedTimes hmeets hearlier request.pair).later hclock
  exact (hfollows.later hclock).consumeInFake hsound hthrottle

theorem meets_consumeInRedis
    (horderly : Guarded (OrderlyRequest throttles)
      (history consumeInRedis .empty requests)) :
    Meets windowDecision (history consumeInRedis .empty requests) := by
  refine (meets_of_simulation windowDecision _
    (fun earlier redis => FollowsRedis throttles (clockOf earlier) earlier redis)
    (followsRedis_nil throttles 0) ?_ requests horderly).1
  rintro earlier redis request hfollows hmeets hearlier ⟨hclock, hthrottle⟩
  have hsound := (sound_allowedTimes hmeets hearlier request.pair).later hclock
  exact (hfollows.later hclock).consumeInRedis hsound hthrottle

end Meets

/-- **The throttles are one exact sliding window.** -/
theorem command_throttles_exact (maxCommandThrottleBuckets : ℕ)
    (throttles : ThrottlePair → RealtimeCommandThrottle)
    (requests : List RealtimeCommandThrottleRequest)
    (hclock : requests.Pairwise fun request later => request.now ≤ later.now)
    (hthrottles : ∀ request ∈ requests, request.throttle = throttles request.pair)
    (hlive : Guarded (HasBucket maxCommandThrottleBuckets)
      (history (consumeInKeryx maxCommandThrottleBuckets) .empty requests)) :
    history consumeInRedis .empty requests =
        history (consumeInKeryx maxCommandThrottleBuckets) .empty requests ∧
      history consumeInFake .empty requests =
        history (consumeInKeryx maxCommandThrottleBuckets) .empty requests ∧
      ExactWindow
        (history (consumeInKeryx maxCommandThrottleBuckets) .empty requests) := by
  have horderly : Guarded (OrderlyRequest throttles)
      (history (consumeInKeryx maxCommandThrottleBuckets) .empty requests) :=
    guarded_orderly hclock hthrottles
  have hkeryx := meets_consumeInKeryx horderly hlive
  have hfake := meets_consumeInFake (guarded_orderly hclock hthrottles)
  have hredis := meets_consumeInRedis (guarded_orderly hclock hthrottles)
  refine ⟨hredis.eq hkeryx ?_, hfake.eq hkeryx ?_, exactWindow_of_meets hkeryx horderly⟩
  · rw [map_fst_history, map_fst_history]
  · rw [map_fst_history, map_fst_history]

/-- A command that may be sent once in ten milliseconds. -/
def sampleThrottle : RealtimeCommandThrottle := ⟨1, 10, le_rfl, by decide⟩

def sampleThrottleRequest (actorId : String) (now : ℕ) : RealtimeCommandThrottleRequest :=
  ⟨⟨actorId, "chat.typing"⟩, "r", sampleThrottle, now⟩

/-- Two actors send a command, and one of them sends it again too early, and then in time. -/
theorem command_throttles_exact_sample :
    let requests := [sampleThrottleRequest "ann" 3, sampleThrottleRequest "bob" 5,
      sampleThrottleRequest "ann" 9, sampleThrottleRequest "ann" 13]
    history consumeInRedis .empty requests =
        history (consumeInKeryx 3) .empty requests ∧
      history consumeInFake .empty requests =
        history (consumeInKeryx 3) .empty requests ∧
      ExactWindow (history (consumeInKeryx 3) .empty requests) :=
  command_throttles_exact 3 (fun _ => sampleThrottle) _ (by simp [sampleThrottleRequest])
    (by simp [sampleThrottleRequest]) (by decide)

end Doxa
