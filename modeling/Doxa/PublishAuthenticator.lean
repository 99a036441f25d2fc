/-
**Signed publish requests.**

A server without sockets publishes through the web server of Keryx, with a request that it signs
(`keryx/src/security.ts`).  The signature covers the method, the path, the second in which it was
made, a nonce and a digest of the body.  The web server accepts a request whose second is not more
than `clockSkewSeconds` away from its own, in either direction, and remembers its nonce for as long
as that is so.

What `node:crypto` and the conversion of a text to a number compute are parameters.  A header is
what `headers.get` finds.

Main definitions:

* `Doxa.KeryxPublishAuthenticator.headers`, `.verify` — signing and checking;
* `Doxa.KeryxPublishAuthenticator.Acceptable` — the second of a request is near enough.

Main results:

* `Doxa.KeryxPublishAuthenticator.verify_cases` — what checking a request does;
* `Doxa.KeryxPublishAuthenticator.SameNonces.verify` — nonces that are not remembered any more do
  not matter;
* `Doxa.publish_accepted_once` — **a request is accepted at most once**, and a request that is
  refused leaves nothing behind.
-/

import Doxa.KeryxTickets
import Doxa.Lib.Answering
import Std.Data.String.ToNat

set_option relaxedAutoImplicit false
set_option autoImplicit false

namespace Doxa

open Answering

/-! ### Signing and checking -/

/-- What the platform computes. -/
structure PublishPlatform where
  /-- `Number(text)`, when that is an integer. -/
  number : String → Option ℤ
  /-- `createHash('sha256')`, in hexadecimal. -/
  sha256 : String → String
  /-- `createHmac('sha256', secret)`, in hexadecimal. -/
  hmacSha256 : String → String → String
  toUpperCase : String → String

/-- What is documented of the platform: a text of decimal digits is the number it stands for, and
a digest is not empty. -/
structure PublishPlatform.Documented (platform : PublishPlatform) : Prop where
  number_repr : ∀ n : ℕ, Js.isSafeInteger n = true → platform.number n.repr = some (n : ℤ)
  hmacSha256_ne : ∀ secret text, platform.hmacSha256 secret text ≠ ""

structure KeryxPublishAuthenticator where
  platform : PublishPlatform
  key : String
  secret : String
  clockSkewSeconds : ℤ
  key_ne : key ≠ ""
  secret_length : 32 ≤ secret.length

structure PublishRequest where
  method : String
  pathname : String
  /-- `headers.get`. -/
  header : String → Option String

/-- A call of `verify`, with the time at which it is made. -/
structure PublishVerification where
  request : PublishRequest
  body : String
  now : ℕ

def PublishVerification.nowSeconds (call : PublishVerification) : ℤ := (call.now / 1000 : ℕ)

/-- A header that is there and not empty. -/
def PublishRequest.present (request : PublishRequest) (name : String) : Option String :=
  (request.header name).filter fun value => value ≠ ""

def publishError (code : String) (status : ℕ) (message : String) : KeryxAuthenticationError :=
  ⟨code, status, message⟩

namespace KeryxPublishAuthenticator

variable (authenticator : KeryxPublishAuthenticator)

/-- `signature`. -/
def signature (method path timestamp nonce body : String) : String :=
  let digest := authenticator.platform.sha256 body
  let canonical := "\n".intercalate
    [authenticator.platform.toUpperCase method, path, timestamp, nonce, digest]
  authenticator.platform.hmacSha256 authenticator.secret canonical

/-- `headers`, with the nonce that `randomUUID` draws; the names are in lower case, as they are
read. -/
def headers (method path body nonce : String) (now : ℕ) : List (String × String) :=
  let timestamp := (now / 1000).repr
  [("x-doxa-key", authenticator.key),
    ("x-doxa-timestamp", timestamp),
    ("x-doxa-nonce", nonce),
    ("x-doxa-signature", authenticator.signature method path timestamp nonce body)]

/-- The second that the text of a header names. -/
def timestampSeconds (timestamp : String) : Option ℤ :=
  (authenticator.platform.number timestamp).filter Js.isSafeInteger

/-- `#pruneNonces`. -/
def pruneNonces (nowSeconds : ℤ) (nonces : OrderedMap String ℤ) : OrderedMap String ℤ :=
  nonces.filter fun _ expiresAt => ¬expiresAt < nowSeconds

/-- `verify`. -/
def verify (nonces : OrderedMap String ℤ) (call : PublishVerification) :
    OrderedMap String ℤ × Except KeryxAuthenticationError Unit :=
  match call.request.present "x-doxa-key", call.request.present "x-doxa-timestamp",
      call.request.present "x-doxa-nonce", call.request.present "x-doxa-signature" with
  | some key, some timestamp, some nonce, some provided =>
    if key ≠ authenticator.key then
      (nonces, throw (publishError "publish_key_invalid" 401
        "Keryx publish credentials are invalid."))
    else
      match authenticator.timestampSeconds timestamp with
      | none =>
        (nonces, throw (publishError "publish_timestamp_invalid" 401
          "Keryx publish timestamp is outside the accepted window."))
      | some timestampSeconds =>
        if authenticator.clockSkewSeconds < |call.nowSeconds - timestampSeconds| then
          (nonces, throw (publishError "publish_timestamp_invalid" 401
            "Keryx publish timestamp is outside the accepted window."))
        else
          let pruned := pruneNonces call.nowSeconds nonces
          if (pruned.get nonce).isSome then
            (pruned, throw (publishError "publish_replay_detected" 409
              "Keryx rejected a replayed publish request."))
          else if provided ≠ authenticator.signature call.request.method
              call.request.pathname timestamp nonce call.body then
            (pruned, throw (publishError "publish_signature_invalid" 401
              "Keryx publish credentials are invalid."))
          else
            (pruned.set nonce (timestampSeconds + authenticator.clockSkewSeconds), pure ())
  | _, _, _, _ =>
    (nonces, throw (publishError "publish_authentication_required" 401
      "Keryx publish authentication is required."))

/-- The calls one after the other, with nothing remembered at first. -/
def verifyAll (calls : List PublishVerification) :
    Observed (OrderedMap String ℤ) PublishVerification (Except KeryxAuthenticationError Unit) :=
  observe authenticator.verify .empty calls

/-! ### What is said about requests -/

/-- The nonce of a request. -/
def nonceOf (call : PublishVerification) : Option String := call.request.present "x-doxa-nonce"

/-- The second in which a request says that it was made. -/
def secondOf (call : PublishVerification) : Option ℤ :=
  (call.request.present "x-doxa-timestamp").bind authenticator.timestampSeconds

/-- The second of a request is near enough to a time in milliseconds. -/
def Acceptable (call : PublishVerification) (now : ℕ) : Prop :=
  ∃ second, authenticator.secondOf call = some second ∧
    |((now / 1000 : ℕ) : ℤ) - second| ≤ authenticator.clockSkewSeconds

/-- A request carries the headers that were made. -/
def Carries (request : PublishRequest) (headers : List (String × String)) : Prop :=
  ∀ entry ∈ headers, request.header entry.1 = some entry.2

end KeryxPublishAuthenticator

namespace KeryxPublishAuthenticator

variable {authenticator : KeryxPublishAuthenticator} {nonces nonces' : OrderedMap String ℤ}
  {call : PublishVerification} {now : ℤ} {nonce : String}

theorem get_pruneNonces :
    (pruneNonces now nonces).get nonce = (nonces.get nonce).filter fun expiresAt =>
      ¬expiresAt < now :=
  OrderedMap.get_filter nonces _ nonce

/-- **What checking a request does.** -/
theorem verify_cases (authenticator : KeryxPublishAuthenticator) (nonces : OrderedMap String ℤ)
    (call : PublishVerification) :
    (∃ error, authenticator.verify nonces call = (nonces, throw error)) ∨
      (∃ error, authenticator.verify nonces call =
        (pruneNonces call.nowSeconds nonces, throw error)) ∨
      ∃ nonce second, nonceOf call = some nonce ∧ authenticator.secondOf call = some second ∧
        |call.nowSeconds - second| ≤ authenticator.clockSkewSeconds ∧
        (pruneNonces call.nowSeconds nonces).get nonce = none ∧
        authenticator.verify nonces call = ((pruneNonces call.nowSeconds nonces).set nonce
          (second + authenticator.clockSkewSeconds), pure ()) := by
  unfold verify
  split
  · next key timestamp nonce provided hkey htimestamp hnonce hprovided =>
      by_cases hcredentials : key ≠ authenticator.key
      · rw [if_pos hcredentials]
        exact .inl ⟨_, rfl⟩
      · rw [if_neg hcredentials]
        split
        · exact .inl ⟨_, rfl⟩
        · next second hsecond =>
            dsimp only
            split_ifs with hskew hused hsigned
            · exact .inl ⟨_, rfl⟩
            · exact .inr (.inl ⟨_, rfl⟩)
            · exact .inr (.inl ⟨_, rfl⟩)
            · refine .inr (.inr ⟨nonce, second, hnonce, ?_, not_lt.1 hskew, ?_, rfl⟩)
              · rw [secondOf, htimestamp, Option.bind_some, hsecond]
              · simpa using hused
  · exact .inl ⟨_, rfl⟩

/-! ### Nonces that are not remembered any more -/

/-- From some second on, the same nonces are remembered. -/
def SameNonces (now : ℤ) (nonces nonces' : OrderedMap String ℤ) : Prop :=
  ∀ nonce, (pruneNonces now nonces).get nonce = (pruneNonces now nonces').get nonce

theorem SameNonces.later {next : ℤ} (h : SameNonces now nonces nonces') (hlater : now ≤ next) :
    SameNonces next nonces nonces' := by
  have hagain : ∀ map : OrderedMap String ℤ, ∀ nonce, (pruneNonces next map).get nonce =
      ((pruneNonces now map).get nonce).filter fun expiresAt => ¬expiresAt < next := by
    intro map nonce
    rw [get_pruneNonces, get_pruneNonces, Option.filter_filter]
    refine congrArg (Option.filter · (map.get nonce)) (funext fun expiresAt => ?_)
    rw [← Bool.decide_and, decide_eq_decide]
    omega
  intro nonce
  rw [hagain, hagain, h nonce]

theorem sameNonces_pruneNonces : SameNonces now (pruneNonces now nonces) nonces := by
  intro nonce
  rw [get_pruneNonces, get_pruneNonces, Option.filter_filter]
  simp

/-- **The answer depends on what is remembered only**, and so does what is remembered next. -/
theorem SameNonces.verify (h : SameNonces call.nowSeconds nonces nonces') :
    (authenticator.verify nonces call).2 = (authenticator.verify nonces' call).2 ∧
      SameNonces call.nowSeconds (authenticator.verify nonces call).1
        (authenticator.verify nonces' call).1 := by
  have hpruned : SameNonces call.nowSeconds (pruneNonces call.nowSeconds nonces)
      (pruneNonces call.nowSeconds nonces') := by
    intro nonce
    rw [sameNonces_pruneNonces, sameNonces_pruneNonces, h nonce]
  unfold KeryxPublishAuthenticator.verify
  split
  · next key timestamp nonce provided hkey htimestamp hnonce hprovided =>
      by_cases hcredentials : key ≠ authenticator.key
      · rw [if_pos hcredentials, if_pos hcredentials]
        exact ⟨rfl, h⟩
      · rw [if_neg hcredentials, if_neg hcredentials]
        split
        · exact ⟨rfl, h⟩
        · next second hsecond =>
            dsimp only
            rw [h nonce]
            split_ifs with hskew hused hsigned
            · exact ⟨rfl, h⟩
            · exact ⟨rfl, hpruned⟩
            · exact ⟨rfl, hpruned⟩
            · refine ⟨rfl, ?_⟩
              intro candidate
              rw [get_pruneNonces, get_pruneNonces, OrderedMap.get_set, OrderedMap.get_set,
                h candidate]
  · exact ⟨rfl, h⟩

/-! ### Nonces of accepted requests -/

/-- A nonce is remembered at a second. -/
def Live (now : ℤ) (nonces : OrderedMap String ℤ) (nonce : String) : Prop :=
  ((pruneNonces now nonces).get nonce).isSome = true

theorem live_iff :
    Live now nonces nonce ↔ ∃ expiresAt, nonces.get nonce = some expiresAt ∧ now ≤ expiresAt := by
  rw [Live, get_pruneNonces, Option.isSome_iff_exists]
  refine exists_congr fun expiresAt => ?_
  rw [Option.filter_eq_some_iff]
  simp

/-- What the nonces that are remembered have to do with the requests that were accepted. -/
structure Remembers (authenticator : KeryxPublishAuthenticator)
    (earlier : List (PublishVerification × Except KeryxAuthenticationError Unit))
    (nonces : OrderedMap String ℤ) : Prop where
  /-- The nonce of an accepted request is remembered as long as its second is near enough. -/
  kept : ∀ event ∈ earlier, event.2 = pure () → ∀ nonce second, nonceOf event.1 = some nonce →
    authenticator.secondOf event.1 = some second → ∀ now : ℤ,
      (∀ other ∈ earlier, other.1.nowSeconds ≤ now) →
        now ≤ second + authenticator.clockSkewSeconds → Live now nonces nonce
  /-- Only nonces of accepted requests are remembered. -/
  used : ∀ nonce, (nonces.get nonce).isSome = true →
    ∃ event ∈ earlier, event.2 = pure () ∧ nonceOf event.1 = some nonce

theorem remembers_nil (authenticator : KeryxPublishAuthenticator) :
    authenticator.Remembers [] .empty :=
  ⟨nofun, nofun⟩

theorem nowSeconds_le {call call' : PublishVerification} (h : call.now ≤ call'.now) :
    call.nowSeconds ≤ call'.nowSeconds :=
  Int.ofNat_le.2 (Nat.div_le_div_right h)

variable {earlier : List (PublishVerification × Except KeryxAuthenticationError Unit)}

/-- Dropping nonces that are too old, or refusing a request, forgets nothing. -/
theorem Remembers.refused {error : KeryxAuthenticationError} {kept : OrderedMap String ℤ}
    (h : authenticator.Remembers earlier nonces)
    (hkept : SameNonces call.nowSeconds kept nonces)
    (hused : ∀ nonce, (kept.get nonce).isSome = true → (nonces.get nonce).isSome = true) :
    authenticator.Remembers ((call, throw error) :: earlier) kept := by
  constructor
  · intro event hevent haccepted nonce second hnonce hsecond now hnow hlive
    rcases List.mem_cons.1 hevent with rfl | hevent
    · cases haccepted
    · rw [Live, hkept.later (hnow _ List.mem_cons_self)]
      exact h.kept event hevent haccepted nonce second hnonce hsecond now
        (fun other hother => hnow other (List.mem_cons_of_mem _ hother)) hlive
  · intro nonce hget
    obtain ⟨event, hevent, haccepted, hnonce⟩ := h.used nonce (hused nonce hget)
    exact ⟨event, List.mem_cons_of_mem _ hevent, haccepted, hnonce⟩

theorem Live.isSome (h : Live now nonces nonce) : (nonces.get nonce).isSome = true := by
  obtain ⟨expiresAt, hget, -⟩ := live_iff.1 h
  exact Option.isSome_of_eq_some hget

/-- **Checking a request keeps what is known of the nonces.** -/
theorem Remembers.verify (h : authenticator.Remembers earlier nonces)
    (horder : ∀ event ∈ earlier, event.1.now ≤ call.now) :
    authenticator.Remembers ((call, (authenticator.verify nonces call).2) :: earlier)
      (authenticator.verify nonces call).1 := by
  rcases authenticator.verify_cases nonces call with
    ⟨error, hverify⟩ | ⟨error, hverify⟩ | ⟨nonce, second, hnonce, hsecond, hskew, hnew, hverify⟩
  · rw [hverify]
    exact h.refused (fun _ => rfl) fun _ hget => hget
  · rw [hverify]
    exact h.refused sameNonces_pruneNonces fun _ => Live.isSome
  · rw [hverify]
    constructor
    · intro event hevent haccepted nonce' second' hnonce' hsecond' now hnow hlive
      have hcall : call.nowSeconds ≤ now := hnow _ List.mem_cons_self
      rw [live_iff, OrderedMap.get_set]
      rcases List.mem_cons.1 hevent with rfl | hevent
      · -- the request that is accepted now
        have hnonces : nonce' = nonce := Option.some.inj (hnonce'.symm.trans hnonce)
        have hseconds : second' = second := Option.some.inj (hsecond'.symm.trans hsecond)
        rw [if_pos hnonces]
        exact ⟨_, rfl, hseconds ▸ hlive⟩
      · have hold := h.kept event hevent haccepted nonce' second' hnonce' hsecond'
        split_ifs with hsame
        · -- an older request with its nonce would still be remembered
          have hused := hold call.nowSeconds
            (fun other hother => nowSeconds_le (horder other hother)) (hcall.trans hlive)
          rw [Live, hsame, hnew] at hused
          cases hused
        · obtain ⟨expiresAt, hget, hexpires⟩ := live_iff.1 (hold now
            (fun other hother => hnow other (List.mem_cons_of_mem _ hother)) hlive)
          refine ⟨expiresAt, ?_, hexpires⟩
          rw [get_pruneNonces, hget, Option.filter_some, if_pos]
          simpa using hcall.trans hexpires
    · intro nonce' hget
      rw [OrderedMap.get_set] at hget
      split_ifs at hget with hsame
      · subst hsame
        exact ⟨_, List.mem_cons_self, rfl, hnonce⟩
      · obtain ⟨event, hevent, haccepted, hnonce'⟩ := h.used nonce' (Live.isSome hget)
        exact ⟨event, List.mem_cons_of_mem _ hevent, haccepted, hnonce'⟩

/-! ### Runs -/

variable {calls : List PublishVerification}

/-- What `Remembers` says of the calls of a run. -/
theorem remembers_verifyAll (hclock : calls.Pairwise fun call later => call.now ≤ later.now) :
    authenticator.Remembers (authenticator.verifyAll calls).history
      (authenticator.verifyAll calls).state :=
  follows_of_guarded _ (authenticator.Remembers) (remembers_nil authenticator)
    (fun _ _ _ hremembers horder => hremembers.verify horder) calls (guarded_of_pairwise hclock)

/-- **A nonce is not accepted again** while the second of its request is near enough. -/
theorem not_acceptable_of_reused (hclock : calls.Pairwise fun call later => call.now ≤ later.now)
    {later between earlier : List (PublishVerification × Except KeryxAuthenticationError Unit)}
    {first second : PublishVerification}
    (hhistory : (authenticator.verifyAll calls).history =
      later ++ (second, pure ()) :: (between ++ (first, pure ()) :: earlier))
    (hnonce : nonceOf second = nonceOf first) : ¬authenticator.Acceptable first second.now := by
  rintro ⟨named, hnamed, hnear⟩
  obtain ⟨before, after, rfl, hrest, hanswer⟩ := exists_of_history_eq hhistory
  obtain ⟨hbefore, -, hacross⟩ := List.pairwise_append.1 hclock
  have hremembers : authenticator.Remembers (between ++ (first, pure ()) :: earlier)
      (authenticator.verifyAll before).state := hrest ▸ remembers_verifyAll hbefore
  rcases authenticator.verify_cases (authenticator.verifyAll before).state second with
    ⟨error, hverify⟩ | ⟨error, hverify⟩ | ⟨nonce, seconds, hsecond, -, -, hnew, -⟩
  · rw [verifyAll] at hverify
    rw [hverify] at hanswer
    cases hanswer
  · rw [verifyAll] at hverify
    rw [hverify] at hanswer
    cases hanswer
  · -- the nonce of the first request is still remembered
    have hkept := hremembers.kept (first, pure ())
      (List.mem_append_right _ List.mem_cons_self) rfl nonce named (hnonce ▸ hsecond) hnamed
      second.nowSeconds ?_ ?_
    · rw [Live, hnew] at hkept
      cases hkept
    · intro other hother
      have hmem : other.1 ∈ before := by
        rw [← List.mem_reverse, ← @map_fst_history _ _ _ authenticator.verify .empty]
        rw [hrest] at hother
        exact List.mem_map_of_mem hother
      exact nowSeconds_le (hacross other.1 hmem second List.mem_cons_self)
    · have hle := (abs_le.1 hnear).2
      unfold PublishVerification.nowSeconds
      omega

/-- A request that was accepted has a second near enough. -/
theorem acceptable_of_accepted
    {later earlier : List (PublishVerification × Except KeryxAuthenticationError Unit)}
    {call : PublishVerification}
    (hhistory : (authenticator.verifyAll calls).history = later ++ (call, pure ()) :: earlier) :
    authenticator.Acceptable call call.now := by
  obtain ⟨before, after, -, -, hanswer⟩ := exists_of_history_eq hhistory
  rcases authenticator.verify_cases (observe authenticator.verify .empty before).state
    call with ⟨error, hverify⟩ | ⟨error, hverify⟩ | ⟨nonce, seconds, -, hsecond, hnear, -, -⟩
  · rw [hverify] at hanswer
    cases hanswer
  · rw [hverify] at hanswer
    cases hanswer
  · exact ⟨seconds, hsecond, hnear⟩

/-- **A request that is refused leaves nothing behind.** -/
theorem exists_answers_of_refused {before after : List PublishVerification}
    {refused : PublishVerification} {error : KeryxAuthenticationError}
    (hclock : (before ++ refused :: after).Pairwise fun call later => call.now ≤ later.now)
    (hrefused : (authenticator.verify (authenticator.verifyAll before).state refused).2 =
      throw error) :
    ∃ answers, (authenticator.verifyAll (before ++ refused :: after)).history =
        answers ++ (refused, throw error) :: (authenticator.verifyAll before).history ∧
      (authenticator.verifyAll (before ++ after)).history =
        answers ++ (authenticator.verifyAll before).history := by
  obtain ⟨-, htail, -⟩ := List.pairwise_append.1 hclock
  obtain ⟨hlater, hafter⟩ := List.pairwise_cons.1 htail
  have hsame : SameNonces refused.nowSeconds
      (feed authenticator.verify (authenticator.verifyAll before) refused).state
      (authenticator.verifyAll before).state := by
    rcases authenticator.verify_cases (authenticator.verifyAll before).state refused with
      ⟨error, hverify⟩ | ⟨error, hverify⟩ | ⟨nonce, seconds, -, -, -, -, hverify⟩
    · rw [feed, hverify]
      exact fun _ => rfl
    · rw [feed, hverify]
      exact sameNonces_pruneNonces
    · rw [hverify] at hrefused
      cases hrefused
  obtain ⟨answers, hwith, hwithout⟩ := exists_answers_of_alike authenticator.verify
    (fun call nonces nonces' => SameNonces call.nowSeconds nonces nonces')
    (fun call nonces nonces' halike => by
      obtain ⟨hanswer, hnext⟩ := SameNonces.verify halike
      exact ⟨hanswer, fun next hle => hnext.later (nowSeconds_le hle)⟩) hafter
    fun call hcall => hsame.later (nowSeconds_le (hlater call hcall))
  refine ⟨answers, ?_, ?_⟩
  · have hevent : (feed authenticator.verify (authenticator.verifyAll before) refused).history =
        (refused, throw error) :: (authenticator.verifyAll before).history := by
      rw [feed, hrefused]
    rw [hevent] at hwith
    rw [verifyAll, observe, List.foldl_append, List.foldl_cons]
    exact hwith
  · rw [verifyAll, observe, List.foldl_append]
    exact hwithout

/-- **What `headers` has signed is accepted**, by whoever has not seen its nonce. -/
theorem accepted_of_carries (hplatform : authenticator.platform.Documented)
    {method path body nonce : String} {madeAt : ℕ}
    (hclock : calls.Pairwise fun call later => call.now ≤ later.now) (hnonce : nonce ≠ "")
    (hsafe : Js.isSafeInteger (madeAt / 1000 : ℕ) = true) (hmethod : call.request.method = method)
    (hpath : call.request.pathname = path) (hbody : call.body = body)
    (hcarries : Carries call.request (authenticator.headers method path body nonce madeAt))
    (hfirst : ∀ event ∈ (authenticator.verifyAll calls).history, event.2 = pure () →
      nonceOf event.1 ≠ some nonce) (hmade : madeAt ≤ call.now)
    (hsoon : (call.now : ℤ) < madeAt + 1000 * authenticator.clockSkewSeconds) :
    (authenticator.verify (authenticator.verifyAll calls).state call).2 = pure () := by
  have hheader : ∀ name value,
      (name, value) ∈ authenticator.headers method path body nonce madeAt →
        value ≠ "" → call.request.present name = some value := by
    intro name value hentry hvalue
    rw [PublishRequest.present, hcarries (name, value) hentry, Option.filter_some, if_pos]
    simpa using hvalue
  have hkey := hheader "x-doxa-key" authenticator.key (by simp [headers]) authenticator.key_ne
  have htimestamp := hheader "x-doxa-timestamp" (madeAt / 1000).repr (by simp [headers])
    Nat.repr_ne_empty
  have hnonces := hheader "x-doxa-nonce" nonce (by simp [headers]) hnonce
  have hsignature := hheader "x-doxa-signature"
    (authenticator.signature method path (madeAt / 1000).repr nonce body) (by simp [headers])
    (hplatform.hmacSha256_ne _ _)
  have hsecond : authenticator.timestampSeconds (madeAt / 1000).repr =
      some ((madeAt / 1000 : ℕ) : ℤ) := by
    rw [timestampSeconds, hplatform.number_repr _ hsafe, Option.filter_some, if_pos hsafe]
  have hnear : ¬authenticator.clockSkewSeconds < |call.nowSeconds - ((madeAt / 1000 : ℕ) : ℤ)| := by
    unfold PublishVerification.nowSeconds
    rw [not_lt, abs_le]
    constructor <;> omega
  have hremembers := @remembers_verifyAll authenticator calls hclock
  have hnew : ¬((pruneNonces call.nowSeconds (authenticator.verifyAll calls).state).get
      nonce).isSome = true := by
    intro hused
    obtain ⟨event, hevent, haccepted, hsame⟩ := hremembers.used nonce (Live.isSome hused)
    exact hfirst event hevent haccepted hsame
  subst hmethod hpath hbody
  unfold verify
  rw [hkey, htimestamp, hnonces, hsignature]
  dsimp only
  rw [if_neg (not_not.2 rfl), hsecond]
  dsimp only
  rw [if_neg hnear, if_neg hnew, if_neg (not_not.2 rfl)]

end KeryxPublishAuthenticator

open KeryxPublishAuthenticator

/-- **A signed publish request is accepted at most once**: a nonce is not accepted again while the
second of its request is near enough, no request is accepted twice, a request that is refused leaves
nothing behind, and what `headers` has signed is accepted in time. -/
theorem publish_accepted_once (authenticator : KeryxPublishAuthenticator)
    (hplatform : authenticator.platform.Documented) (calls : List PublishVerification)
    (hclock : calls.Pairwise fun call later => call.now ≤ later.now) :
    (∀ later second between first earlier, (authenticator.verifyAll calls).history =
        later ++ (second, .ok ()) :: (between ++ (first, .ok ()) :: earlier) →
      (nonceOf second = nonceOf first → ¬authenticator.Acceptable first second.now) ∧
        ¬(second.request = first.request ∧ second.body = first.body)) ∧
    (∀ before refused after error, calls = before ++ refused :: after →
      (authenticator.verify (authenticator.verifyAll before).state refused).2 =
        .error error →
          ∃ answers, (authenticator.verifyAll calls).history =
              answers ++ (refused, .error error) ::
                (authenticator.verifyAll before).history ∧
            (authenticator.verifyAll (before ++ after)).history =
              answers ++ (authenticator.verifyAll before).history) ∧
    ∀ (call : PublishVerification) (nonce : String) (madeAt : ℕ), nonce ≠ "" →
      Js.isSafeInteger (madeAt / 1000 : ℕ) = true →
      Carries call.request (authenticator.headers call.request.method call.request.pathname
        call.body nonce madeAt) →
      (∀ event ∈ (authenticator.verifyAll calls).history, event.2 = .ok () →
        nonceOf event.1 ≠ some nonce) →
      madeAt ≤ call.now → (call.now : ℤ) < madeAt + 1000 * authenticator.clockSkewSeconds →
        (authenticator.verify (authenticator.verifyAll calls).state call).2 = .ok () := by
  refine ⟨?_, ?_, ?_⟩
  · intro later second between first earlier hhistory
    have hreused := not_acceptable_of_reused hclock hhistory
    refine ⟨hreused, ?_⟩
    rintro ⟨hrequest, -⟩
    -- the same request names the same second, which was near enough when it was accepted again
    obtain ⟨named, hnamed, hnear⟩ := acceptable_of_accepted hhistory
    refine hreused ?_ ⟨named, ?_, hnear⟩
    · rw [nonceOf, nonceOf, hrequest]
    · rw [secondOf, ← hrequest]
      exact hnamed
  · rintro before refused after error rfl hrefused
    exact exists_answers_of_refused hclock hrefused
  · intro call nonce madeAt hnonce hsafe hcarries hfirst hmade hsoon
    exact accepted_of_carries hplatform hclock hnonce hsafe rfl rfl rfl hcarries hfirst hmade hsoon

/-- A platform with digests that can be read. -/
def samplePublishPlatform : PublishPlatform where
  number text := text.toNat?.map Int.ofNat
  sha256 text := "digest of " ++ text
  hmacSha256 _ text := "signature of " ++ text
  toUpperCase text := text

theorem documented_samplePublishPlatform : samplePublishPlatform.Documented := by
  constructor
  · intro n _
    simp [samplePublishPlatform, Nat.toNat?_repr]
  · intro secret text
    simp [samplePublishPlatform]

def samplePublishAuthenticator : KeryxPublishAuthenticator where
  platform := samplePublishPlatform
  key := "default"
  secret := "0123456789abcdef0123456789abcdef"
  clockSkewSeconds := 60
  key_ne := by decide
  secret_length := by decide

/-- A request that was made in the fifth second and arrives in the last moment. -/
def samplePublishCall : PublishVerification where
  request :=
    { method := "POST"
      pathname := "/broadcasts"
      header := fun name =>
        ((samplePublishAuthenticator.headers "POST" "/broadcasts" "body" "n" 5000).find?
          fun entry => entry.1 = name).map Prod.snd }
  body := "body"
  now := 64999

/-- A request that is not signed comes first. -/
theorem publish_accepted_once_sample :
    (samplePublishAuthenticator.verify (samplePublishAuthenticator.verifyAll
      [⟨⟨"POST", "/broadcasts", fun _ => none⟩, "body", 6000⟩]).state samplePublishCall).2 =
        .ok () := by
  refine (publish_accepted_once samplePublishAuthenticator documented_samplePublishPlatform _
    (List.pairwise_singleton _ _)).2.2 samplePublishCall "n" 5000 (by decide) (by decide) ?_ ?_
    (by decide) (by decide)
  · intro entry hentry
    simp only [headers, List.mem_cons, List.not_mem_nil, or_false] at hentry
    rcases hentry with rfl | rfl | rfl | rfl <;> simp [samplePublishCall, headers]
  · intro event hevent haccepted
    simp only [verifyAll, observe, List.foldl_cons, List.foldl_nil, feed,
      List.mem_singleton] at hevent
    subst hevent
    cases haccepted

end Doxa
