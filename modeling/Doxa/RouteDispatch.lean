/-
**Which route answers an HTTP request.**

`HonoHttpEngine` (`http-hono/src/index.ts`) registers the routes of the manifest with Hono in the
order of the manifest, and the handler of a route hands the request over to the runtime by the id of
the route.  Hono asks the handlers in the order of their registration, and the handler of a route
always answers, with an error document if need be.  A `HEAD` request is matched as `GET`.

The path of a request is the one the router is given, the decoded path of the URL.  The paths of
routes are made of literal segments and `:name` parameters; a path with any other pattern of Hono
in it (`RouteFacts.pattern` is `none`) is outside of the model.

A set of routes that the compiler accepts may hold a route that no request reaches: one whose
method is `HEAD`, or one whose path an earlier route covers.  Where two routes overlap, their ids
decide which one answers.

Main definitions:

* `Doxa.RouteFacts.pattern`, `Doxa.RouteFacts.capture` — a route as Hono reads it;
* `Doxa.fetchRoute` — the route that answers, with the parameters;
* `Doxa.UnambiguousRoutes` — no route is for `HEAD`, and no two of one method overlap.

Main results:

* `Doxa.facts_fetchRoute` — the class that answers is the first one that matches;
* `Doxa.UnambiguousRoutes.of_independent` — if the ids do not matter, no two routes overlap;
* `Doxa.declared_routes_reachable_iff` — **every route is reachable, literal paths are dispatched
  literally and ids decide nothing, just when the routes are unambiguous**.
-/

import Doxa.Lib.OrderedMap
import Doxa.Lib.PathPattern
import Doxa.RouteManifest
import Mathlib.Data.List.Pairwise
import Mathlib.Data.String.Basic

set_option relaxedAutoImplicit false
set_option autoImplicit false

namespace Doxa

open PathPattern

/-! ### Paths -/

/-- `path.split('/')`, without the empty text in front of the first slash. -/
def splitPath (path : List Char) : List (List Char) :=
  match path.splitOn '/' with
  | [] :: parts => parts
  | parts => parts

/-- Characters with a meaning in the patterns of Hono. -/
def isPatternCharacter (c : Char) : Bool := [':', '*', '?', '\x7b', '\x7d'].contains c

/-- A segment of a route path: a literal or `:name`. -/
def readSegment (text : List Char) : Option (Segment (List Char) Char) :=
  match text with
  | ':' :: name =>
    if !name.isEmpty && !name.any isPatternCharacter then some (.parameter name) else none
  | text => if !text.any isPatternCharacter then some (.literal text) else none

/-- The pattern of a route, when its path is made of literals and parameters. -/
def RouteFacts.pattern (facts : RouteFacts) : Option (List (Segment (List Char) Char)) :=
  (splitPath facts.path).mapM readSegment

/-- The parameters a route declares. -/
def RouteFacts.parameters (facts : RouteFacts) : Option (List (List Char)) :=
  facts.pattern.map names

open RouteFacts

/-! ### The engine -/

variable (routes : List RouteManifestEntry)

/-- A request, as far as routing goes. -/
structure RouteRequest where
  method : String
  path : List Char

/-- The method a request is matched by. -/
def RouteRequest.matchedMethod (request : RouteRequest) : String :=
  if request.method = "HEAD" then "GET" else request.method

/-- What `app.on(route.method, route.path, …)` captures of a request. -/
def RouteFacts.capture (facts : RouteFacts) (request : RouteRequest) :
    Option (List (List Char × List Char)) :=
  if facts.method.text = request.matchedMethod then
    facts.pattern.bind fun pattern => PathPattern.capture pattern (splitPath request.path)
  else none

/-- Whether the handler of the route answers the request, when it is asked. -/
def RouteFacts.answers (facts : RouteFacts) (request : RouteRequest) : Bool :=
  (facts.capture request).isSome

/-- `#routesById` -/
def routesById : OrderedMap String RouteManifestEntry :=
  OrderedMap.empty.setAll (routes.map fun route => (route.id, route))

/-- The id of the route whose handler runs, with what `context.req.param()` returns there. -/
def matchRoute (request : RouteRequest) : Option (String × List (List Char × List Char)) :=
  routes.findSome? fun route => (route.capture request).map fun params => (route.id, params)

/-- The route that `dispatchRoute` runs for a request, with its parameters.  There is none when Hono
answers that no route matches. -/
def fetchRoute (request : RouteRequest) :
    Option (RouteManifestEntry × List (List Char × List Char)) :=
  (matchRoute routes request).bind fun found =>
    ((routesById routes).get found.1).map fun route => (route, found.2)

/-! ### Paths and their parts -/

variable {facts : RouteFacts}

theorem splitPath_cons (path : List Char) : splitPath ('/' :: path) = path.splitOn '/' := by
  have hsplit : ('/' :: path).splitOn '/' = [] :: path.splitOn '/' := by
    rw [List.splitOn, List.splitOnP_cons_eq_if_modifyHead, if_pos (by simp), List.splitOn]
  rw [splitPath, hsplit]

theorem slash_notMem_of_mem_splitOn {path part : List Char} (h : part ∈ path.splitOn '/') :
    '/' ∉ part := by
  induction path generalizing part with
  | nil =>
    rw [List.splitOn_nil, List.mem_singleton] at h
    simp [h]
  | cons c path ih =>
    rw [List.splitOn, List.splitOnP_cons_eq_if_modifyHead] at h
    split at h
    · rcases List.mem_cons.1 h with rfl | h
      · simp
      · exact ih h
    next hc =>
      obtain ⟨first, rest, hsplit⟩ :=
        List.exists_cons_of_ne_nil (List.splitOnP_ne_nil (· == '/') path)
      rw [hsplit, List.modifyHead_cons, List.mem_cons] at h
      have hfirst : '/' ∉ first := ih (by rw [List.splitOn, hsplit]; exact List.mem_cons_self)
      rcases h with rfl | h
      · simp only [List.mem_cons, not_or]
        exact ⟨fun h => hc (by simp [← h]), hfirst⟩
      · exact ih (by rw [List.splitOn, hsplit]; exact List.mem_cons_of_mem _ h)

theorem slash_notMem_of_mem_splitPath {path part : List Char} (h : part ∈ splitPath path) :
    '/' ∉ part := by
  rw [splitPath] at h
  split at h
  next parts hsplit =>
    exact slash_notMem_of_mem_splitOn (hsplit ▸ List.mem_cons_of_mem _ h)
  next => exact slash_notMem_of_mem_splitOn h

/-- The path with the parts. -/
def requestPath (parts : List (List Char)) : List Char := '/' :: List.intercalate ['/'] parts

theorem splitPath_requestPath {parts : List (List Char)} (hne : parts ≠ [])
    (hslash : ∀ part ∈ parts, '/' ∉ part) : splitPath (requestPath parts) = parts := by
  rw [requestPath, splitPath_cons]
  exact List.splitOn_intercalate '/' hslash hne

theorem readSegment_literal {text part : List Char}
    (h : readSegment part = some (.literal text)) : part = text := by
  unfold readSegment at h
  split at h
  · split at h <;> simp at h
  · split at h <;> simp_all

theorem RouteFacts.forall₂_pattern {pattern : List (Segment (List Char) Char)}
    (h : facts.pattern = some pattern) :
    List.Forall₂ (fun part segment => readSegment part = some segment) (splitPath facts.path)
      pattern := by
  unfold RouteFacts.pattern at h
  generalize splitPath facts.path = parts at h
  induction parts generalizing pattern with
  | nil => simpa using h.symm
  | cons part parts ih =>
    rw [List.mapM_cons, Option.bind_eq_bind, Option.bind_eq_some_iff] at h
    obtain ⟨segment, hsegment, h⟩ := h
    rw [Option.bind_eq_bind, Option.bind_eq_some_iff] at h
    obtain ⟨rest, hrest, h⟩ := h
    rw [← Option.some.inj h]
    exact List.Forall₂.cons hsegment (ih hrest)

/-- The literals of a route are parts of its path. -/
theorem RouteFacts.mem_splitPath_of_literal {pattern : List (Segment (List Char) Char)}
    (h : facts.pattern = some pattern) {text : List Char} (htext : .literal text ∈ pattern) :
    text ∈ splitPath facts.path := by
  have hparts := facts.forall₂_pattern h
  generalize splitPath facts.path = parts at hparts
  clear h
  induction hparts with
  | nil => simp at htext
  | cons hsegment _ ih =>
    rcases List.mem_cons.1 htext with rfl | htext
    · exact readSegment_literal hsegment ▸ List.mem_cons_self
    · exact List.mem_cons_of_mem _ (ih htext)

/-- A route without parameters matches its own path. -/
theorem RouteFacts.capture_self (h : facts.parameters = some []) :
    facts.pattern.bind (fun pattern => PathPattern.capture pattern (splitPath facts.path)) =
      some [] := by
  obtain ⟨pattern, hpattern, hnames⟩ := Option.map_eq_some_iff.1 h
  rw [hpattern, Option.bind_some]
  have hparts := facts.forall₂_pattern hpattern
  generalize splitPath facts.path = parts at hparts
  clear hpattern
  induction hparts with
  | nil => rfl
  | @cons part segment parts pattern hsegment _ ih =>
    cases segment with
    | parameter name => simp [names] at hnames
    | literal text =>
      rw [PathPattern.capture, Segment.capture, if_pos (readSegment_literal hsegment),
        ih hnames]
      rfl

/-! ### Routes that overlap -/

/-- Some path of one method matches both routes. -/
def RouteFacts.Overlaps (facts other : RouteFacts) : Prop :=
  facts.method = other.method ∧
    ∃ pattern ∈ facts.pattern, ∃ pattern' ∈ other.pattern, PathPattern.Overlap pattern pattern'

theorem RouteFacts.Overlaps.symm {other : RouteFacts} (h : facts.Overlaps other) :
    other.Overlaps facts := by
  obtain ⟨hmethod, pattern, hpattern, pattern', hpattern', hoverlap⟩ := h
  exact ⟨hmethod.symm, pattern', hpattern', pattern, hpattern, hoverlap.symm⟩

theorem RouteFacts.answers_iff {request : RouteRequest} :
    facts.answers request ↔ facts.method.text = request.matchedMethod ∧
      ∃ pattern ∈ facts.pattern, Matches pattern (splitPath request.path) := by
  rw [answers, capture]
  split
  next hmethod =>
    cases hpattern : facts.pattern with
    | none => simp
    | some pattern => simp [hmethod, Matches]
  next hmethod => simp [hmethod]

/-- Routes that answer the same request overlap. -/
theorem RouteFacts.overlaps_of_answers {other : RouteFacts} {request : RouteRequest}
    (hfacts : facts.answers request) (hother : other.answers request) : facts.Overlaps other := by
  obtain ⟨hmethod, pattern, hpattern, hmatches⟩ := answers_iff.1 hfacts
  obtain ⟨hmethod', pattern', hpattern', hmatches'⟩ := answers_iff.1 hother
  exact ⟨HttpMethod.text_injective (hmethod.trans hmethod'.symm), pattern, hpattern, pattern',
    hpattern', overlap_of_matches hmatches hmatches'⟩

/-- A request of the method of a route is matched by that method, unless it is `HEAD`. -/
theorem matchedMethod_of_ne_head {method : HttpMethod} (h : method ≠ .head) (path : List Char) :
    RouteRequest.matchedMethod ⟨method.text, path⟩ = method.text :=
  if_neg fun htext => h (HttpMethod.text_injective htext)

/-- No route for `HEAD` answers. -/
theorem RouteFacts.method_ne_head_of_answers {request : RouteRequest} (h : facts.answers request) :
    facts.method ≠ .head := by
  intro hhead
  have hmethod := (answers_iff.1 h).1
  rw [hhead, RouteRequest.matchedMethod] at hmethod
  split at hmethod
  · simp [HttpMethod.text] at hmethod
  next hne => exact hne hmethod.symm

/-- **Routes that overlap answer a common request**, unless they are for `HEAD`. -/
theorem RouteFacts.Overlaps.exists_answers {other : RouteFacts} (h : facts.Overlaps other)
    (hhead : facts.method ≠ .head) (hslash : facts.path.head? = some '/') :
    ∃ path, facts.answers ⟨facts.method.text, path⟩ ∧ other.answers ⟨facts.method.text, path⟩ := by
  obtain ⟨hmethod, pattern, hpattern, pattern', hpattern', hoverlap⟩ := h
  have hne : common pattern pattern' ≠ [] := by
    intro hnil
    have hmatches := (matches_common hoverlap).1
    rw [hnil] at hmatches
    have hnilPattern : pattern = [] := by
      cases pattern with
      | nil => rfl
      | cons segment pattern => simp at hmatches
    have hparts := (facts.forall₂_pattern hpattern).length_eq
    obtain ⟨rest, hrest⟩ := List.head?_eq_some_iff.1 hslash
    rw [hnilPattern, hrest, splitPath_cons] at hparts
    exact List.splitOnP_ne_nil _ _ (List.length_eq_zero_iff.1 hparts)
  have hparts : ∀ part ∈ common pattern pattern', '/' ∉ part := by
    intro part hpart
    rcases of_mem_common hpart with rfl | hliteral | hliteral
    · decide
    · exact slash_notMem_of_mem_splitPath (facts.mem_splitPath_of_literal hpattern hliteral)
    · exact slash_notMem_of_mem_splitPath (other.mem_splitPath_of_literal hpattern' hliteral)
  refine ⟨requestPath (common pattern pattern'), answers_iff.2 ?_, answers_iff.2 ?_⟩
  · rw [matchedMethod_of_ne_head hhead, splitPath_requestPath hne hparts]
    exact ⟨rfl, pattern, hpattern, (matches_common hoverlap).1⟩
  · rw [matchedMethod_of_ne_head hhead, splitPath_requestPath hne hparts, hmethod]
    exact ⟨rfl, pattern', hpattern', (matches_common hoverlap).2⟩

/-! ### The route that answers -/

theorem get_routesById {routes : List RouteManifestEntry}
    (hnodup : (routes.map fun route => route.id).Nodup) {route : RouteManifestEntry}
    (hroute : route ∈ routes) : (routesById routes).get route.id = some route := by
  refine OrderedMap.get_setAll_of_mem (by simpa [Function.comp_def] using hnodup) _ ?_
  exact List.mem_map_of_mem hroute

/-- The handlers are asked in order. -/
theorem matchRoute_eq (request : RouteRequest) :
    matchRoute routes request = (routes.find? fun route => route.answers request).bind fun route =>
      (route.capture request).map fun params => (route.id, params) := by
  rw [matchRoute]
  induction routes with
  | nil => rfl
  | cons route routes ih =>
    rw [List.findSome?_cons, List.find?_cons, answers]
    cases hcapture : route.capture request with
    | none => simpa using ih
    | some params => simp [hcapture]

theorem fetchRoute_eq {routes : List RouteManifestEntry}
    (hnodup : (routes.map fun route => route.id).Nodup) (request : RouteRequest) :
    fetchRoute routes request = (routes.find? fun route => route.answers request).bind fun route =>
      (route.capture request).map fun params => (route, params) := by
  rw [fetchRoute, matchRoute_eq]
  cases hfind : routes.find? fun route => route.answers request with
  | none => rfl
  | some route =>
    rw [Option.bind_some, Option.bind_some]
    cases route.capture request with
    | none => rfl
    | some params =>
      rw [Option.map_some, Option.bind_some,
        get_routesById hnodup (List.mem_of_find?_eq_some hfind)]
      rfl

/-- **The class that answers** is the first one that matches. -/
theorem facts_fetchRoute {routes : List RouteManifestEntry}
    (hnodup : (routes.map fun route => route.id).Nodup) (request : RouteRequest) :
    (fetchRoute routes request).map (fun found => found.1.toRouteFacts) =
      (routes.map RouteManifestEntry.toRouteFacts).find? fun facts => facts.answers request := by
  rw [fetchRoute_eq hnodup, List.find?_map]
  change _ = (routes.find? fun route => route.answers request).map _
  cases hfind : routes.find? fun route => route.answers request with
  | none => rfl
  | some route =>
    have hanswers := List.find?_some hfind
    change (route.capture request).isSome at hanswers
    obtain ⟨params, hparams⟩ := Option.isSome_iff_exists.1 hanswers
    rw [Option.bind_some, hparams]
    rfl

/-! ### What the routes of an application should satisfy -/

/-- For each route there is a request that is dispatched to it, with the parameters it declares. -/
def EveryRouteReachable : Prop :=
  ∀ route ∈ routes, ∃ request params, fetchRoute routes request = some (route, params) ∧
    route.parameters = some (params.map Prod.fst)

/-- The path of a route without parameters, taken literally, is dispatched to that route. -/
def LiteralPathsDispatched : Prop :=
  ∀ route ∈ routes, route.parameters = some [] →
    fetchRoute routes ⟨route.method.text, route.path⟩ = some (route, [])

/-- The same classes, given any owners and ids, answer the same requests. -/
def IndependentOfIds (compiler : RouteCompiler) (roots : List RouteRoot)
    (routes : List RouteManifestEntry) : Prop :=
  ∀ roots' routes',
    (roots'.map RouteRoot.declaration).Perm (roots.map RouteRoot.declaration) →
    compiler.compileRoutes roots' = .ok routes' →
    ∀ request, (fetchRoute routes' request).map (fun found => found.1.toRouteFacts) =
      (fetchRoute routes request).map fun found => found.1.toRouteFacts

/-- No route is for `HEAD`, and no two routes of one method overlap. -/
structure UnambiguousRoutes (routes : List RouteManifestEntry) : Prop where
  not_head : ∀ route ∈ routes, route.method ≠ .head
  disjoint : routes.Pairwise fun route other => ¬ route.Overlaps other.toRouteFacts

/-! ### Sets of routes that are accepted -/

section Accepted

variable {compiler : RouteCompiler} {roots : List RouteRoot} {routes : List RouteManifestEntry}

theorem forall₂_facts {entries : List RouteManifestEntry}
    (h : roots.mapM compiler.registerRoute = .ok entries) :
    List.Forall₂ (fun root entry =>
      compiler.readRoute root.declaration = .ok entry.toRouteFacts) roots entries := by
  refine (Except.mapM_eq_ok_iff.1 h).imp fun root entry hentry => ?_
  obtain ⟨facts, id, hfacts, -, -, rfl⟩ := RouteCompiler.registerRoute_eq_ok_iff.1 hentry
  simpa using hfacts

/-- The classes of the manifest are the classes of the application. -/
theorem perm_facts_of_compileRoutes (h : compiler.compileRoutes roots = .ok routes) :
    ((routes.map RouteManifestEntry.toRouteFacts).map (.ok (ε := String))).Perm
      (roots.map fun root => compiler.readRoute root.declaration) := by
  obtain ⟨entries, hentries, -, -, rfl⟩ := RouteCompiler.compileRoutes_eq_ok_iff.1 h
  refine ((List.mergeSort_perm entries _).map _ |>.map _).trans (List.Perm.of_eq ?_)
  have hfacts := forall₂_facts hentries
  clear h hentries
  induction hfacts with
  | nil => rfl
  | cons hroot _ ih => rw [List.map_cons, List.map_cons, List.map_cons, hroot, ih]

theorem nodup_ids_of_compileRoutes (h : compiler.compileRoutes roots = .ok routes) :
    (routes.map fun route => route.id).Nodup := by
  obtain ⟨entries, -, hids, -, rfl⟩ := RouteCompiler.compileRoutes_eq_ok_iff.1 h
  exact (((List.mergeSort_perm entries _).map _).nodup_iff).2 hids

/-- No two classes have one method and path, so no two are alike. -/
theorem nodup_facts_of_compileRoutes (h : compiler.compileRoutes roots = .ok routes) :
    (routes.map RouteManifestEntry.toRouteFacts).Nodup := by
  obtain ⟨entries, -, -, htexts, rfl⟩ := RouteCompiler.compileRoutes_eq_ok_iff.1 h
  refine (((List.mergeSort_perm entries _).map _).nodup_iff).2 ?_
  refine List.Nodup.of_map methodAndPath ?_
  simpa [Function.comp_def] using htexts

/-- What each class of the manifest was read from. -/
theorem exists_declaration (h : compiler.compileRoutes roots = .ok routes)
    {facts : RouteFacts} (hfacts : facts ∈ routes.map RouteManifestEntry.toRouteFacts) :
    ∃ root ∈ roots, compiler.readRoute root.declaration = .ok facts := by
  have hmem := (perm_facts_of_compileRoutes h).mem_iff.1 (List.mem_map_of_mem hfacts)
  simpa using hmem

theorem slash_of_compileRoutes (h : compiler.compileRoutes roots = .ok routes)
    {facts : RouteFacts} (hfacts : facts ∈ routes.map RouteManifestEntry.toRouteFacts) :
    facts.path.head? = some '/' := by
  obtain ⟨root, -, hroot⟩ := exists_declaration h hfacts
  exact RouteCompiler.slash_of_readRoute hroot

/-! ### Ids exchanged -/

/-- The entry of another class, with the same owner and id. -/
def RouteManifestEntry.withFacts (entry : RouteManifestEntry) (facts : RouteFacts) :
    RouteManifestEntry :=
  { facts with id := entry.id, ownerId := entry.ownerId }

/-- **Two classes may exchange their owners and ids**: the compiler accepts the routes as before,
and puts each class where the other one was. -/
theorem exists_compileRoutes_swap (h : compiler.compileRoutes roots = .ok routes)
    {facts other : RouteFacts} (hfacts : facts ∈ routes.map RouteManifestEntry.toRouteFacts)
    (hother : other ∈ routes.map RouteManifestEntry.toRouteFacts) :
    ∃ roots', (roots'.map RouteRoot.declaration).Perm (roots.map RouteRoot.declaration) ∧
      compiler.compileRoutes roots' = .ok (routes.map fun route =>
        route.withFacts (Equiv.swap facts other route.toRouteFacts)) := by
  obtain ⟨first, hfirst, hreadFirst⟩ := exists_declaration h hfacts
  obtain ⟨second, hsecond, hreadSecond⟩ := exists_declaration h hother
  have hnodup : (roots.map fun root => compiler.readRoute root.declaration).Nodup := by
    refine (perm_facts_of_compileRoutes h).nodup_iff.1 ?_
    exact (nodup_facts_of_compileRoutes h).map fun _ _ => Except.ok.inj
  have hdeclarations : (roots.map RouteRoot.declaration).Nodup :=
    List.Nodup.of_map compiler.readRoute (by simpa [Function.comp_def] using hnodup)
  let exchange : RouteRoot → RouteRoot := fun root =>
    { root with declaration := Equiv.swap first.declaration second.declaration root.declaration }
  refine ⟨roots.map exchange, ?_, ?_⟩
  · have hswap := List.perm_map_swap hdeclarations (List.mem_map_of_mem hfirst)
      (List.mem_map_of_mem hsecond)
    simpa [Function.comp_def, exchange] using hswap
  · have hroutes := nodup_facts_of_compileRoutes h
    obtain ⟨entries, hentries, hids, htexts, rfl⟩ := RouteCompiler.compileRoutes_eq_ok_iff.1 h
    have hnodupEntries : (entries.map RouteManifestEntry.toRouteFacts).Nodup :=
      (((List.mergeSort_perm entries _).map _).nodup_iff).1 hroutes
    have hmem : ∀ facts, facts ∈ (entries.mergeSort compiler.byId).map
        RouteManifestEntry.toRouteFacts → facts ∈ entries.map RouteManifestEntry.toRouteFacts :=
      fun facts => (((List.mergeSort_perm entries _).map _).mem_iff).1
    -- A class is read as the facts of the class it changes places with.
    have hread : ∀ root ∈ roots, ∀ found, compiler.readRoute root.declaration = .ok found →
        compiler.readRoute (exchange root).declaration =
          .ok (Equiv.swap facts other found) := by
      intro root hroot found hfound
      have hsame : ∀ root' ∈ roots, compiler.readRoute root'.declaration = .ok found →
          root.declaration = root'.declaration := by
        intro root' hroot' hfound'
        have heq := List.inj_on_of_nodup_map hnodup hroot hroot' (hfound.trans hfound'.symm)
        rw [heq]
      simp only [exchange]
      by_cases hfoundFirst : found = facts
      · rw [hsame first hfirst (hfoundFirst ▸ hreadFirst), hfoundFirst, Equiv.swap_apply_left,
          Equiv.swap_apply_left, hreadSecond]
      · by_cases hfoundSecond : found = other
        · rw [hsame second hsecond (hfoundSecond ▸ hreadSecond), hfoundSecond,
            Equiv.swap_apply_right, Equiv.swap_apply_right, hreadFirst]
        · rw [Equiv.swap_apply_of_ne_of_ne hfoundFirst hfoundSecond,
            Equiv.swap_apply_of_ne_of_ne, hfound]
          · intro heq
            rw [heq, hreadFirst] at hfound
            exact hfoundFirst (Except.ok.inj hfound).symm
          · intro heq
            rw [heq, hreadSecond] at hfound
            exact hfoundSecond (Except.ok.inj hfound).symm
    refine RouteCompiler.compileRoutes_eq_ok_iff.2 ⟨entries.map fun entry =>
      entry.withFacts (Equiv.swap facts other entry.toRouteFacts), ?_, ?_, ?_, ?_⟩
    · rw [Except.mapM_eq_ok_iff, List.forall₂_map_left_iff, List.forall₂_map_right_iff]
      have hmembers := (List.forall₂_and_left _ _).2
        ⟨fun root hroot => hroot, Except.mapM_eq_ok_iff.1 hentries⟩
      refine hmembers.imp fun root entry hentry => ?_
      obtain ⟨found, id, hfound, hid, hne, rfl⟩ :=
        RouteCompiler.registerRoute_eq_ok_iff.1 hentry.2
      exact RouteCompiler.registerRoute_eq_ok_iff.2
        ⟨_, id, hread root hentry.1 found hfound, hid, hne, rfl⟩
    · simpa [Function.comp_def, RouteManifestEntry.withFacts] using hids
    · have hperm := List.perm_map_swap hnodupEntries (hmem _ hfacts) (hmem _ hother)
      have hmapped := (hperm.map methodAndPath).nodup_iff.2
        (by simpa [Function.comp_def] using htexts)
      simpa [Function.comp_def, RouteManifestEntry.withFacts] using hmapped
    · refine (List.map_mergeSort ?_).symm
      intro entry _ entry' _
      rfl

end Accepted

open RouteManifestEntry

/-! ### When every route is reachable -/

section Reachable

variable {compiler : RouteCompiler} {roots : List RouteRoot} {routes : List RouteManifestEntry}

variable {request : RouteRequest}

/-- At most one of unambiguous routes answers a request. -/
theorem UnambiguousRoutes.eq_of_answers (h : UnambiguousRoutes routes) {facts other : RouteFacts}
    (hfacts : facts ∈ routes.map toRouteFacts) (hother : other ∈ routes.map toRouteFacts)
    (hanswers : facts.answers request) (hanswers' : other.answers request) : facts = other := by
  obtain ⟨route, hroute, rfl⟩ := List.mem_map.1 hfacts
  obtain ⟨route', hroute', rfl⟩ := List.mem_map.1 hother
  by_contra hne
  have hsymm : Std.Symm fun route other : RouteManifestEntry =>
      ¬ route.Overlaps other.toRouteFacts := ⟨fun _ _ hnot hoverlap => hnot hoverlap.symm⟩
  have hdisjoint := h.disjoint.forall hroute hroute' fun heq => hne (congrArg _ heq)
  exact hdisjoint (overlaps_of_answers hanswers hanswers')

variable {params : List (List Char × List Char)}

/-- An unambiguous route gets the requests it matches. -/
theorem UnambiguousRoutes.fetchRoute_eq (h : UnambiguousRoutes routes)
    (hcompiled : compiler.compileRoutes roots = .ok routes) {route : RouteManifestEntry}
    (hroute : route ∈ routes) (hparams : route.capture request = some params) :
    fetchRoute routes request = some (route, params) := by
  have hanswers : route.answers request := by
    rw [answers, hparams]
    rfl
  have hfind : (routes.find? fun route => route.answers request) = some route := by
    refine List.find?_eq_some_of_forall hroute hanswers fun other hother hanswers' => ?_
    refine List.inj_on_of_nodup_map (nodup_facts_of_compileRoutes hcompiled) hother hroute ?_
    exact h.eq_of_answers (List.mem_map_of_mem hother) (List.mem_map_of_mem hroute) hanswers'
      hanswers
  rw [Doxa.fetchRoute_eq (nodup_ids_of_compileRoutes hcompiled), hfind, Option.bind_some, hparams]
  rfl

/-- The parameters captured are those the route declares. -/
theorem RouteFacts.parameters_of_capture {facts : RouteFacts}
    (h : facts.capture request = some params) : facts.parameters = some (params.map Prod.fst) := by
  rw [capture] at h
  split at h
  · obtain ⟨pattern, hpattern, hcapture⟩ := Option.bind_eq_some_iff.1 h
    rw [parameters, hpattern, Option.map_some, map_fst_capture hcapture]
  · simp at h

/-- What is fetched was matched by the route. -/
theorem answers_of_fetchRoute (hcompiled : compiler.compileRoutes roots = .ok routes)
    {route : RouteManifestEntry} (h : fetchRoute routes request = some (route, params)) :
    route.answers request := by
  rw [fetchRoute_eq (nodup_ids_of_compileRoutes hcompiled), Option.bind_eq_some_iff] at h
  obtain ⟨found, hfound, h⟩ := h
  obtain ⟨_, _, hpair⟩ := Option.map_eq_some_iff.1 h
  have hanswers := List.find?_some hfound
  rw [(Prod.mk.inj hpair).1] at hanswers
  exact hanswers

theorem UnambiguousRoutes.everyRouteReachable (h : UnambiguousRoutes routes)
    (hcompiled : compiler.compileRoutes roots = .ok routes)
    (hplain : ∀ route ∈ routes, route.pattern.isSome) : EveryRouteReachable routes := by
  intro route hroute
  obtain ⟨pattern, hpattern⟩ := Option.isSome_iff_exists.1 (hplain route hroute)
  have hself : route.Overlaps route.toRouteFacts :=
    ⟨rfl, pattern, hpattern, pattern, hpattern, overlap_self pattern⟩
  obtain ⟨path, hanswers, -⟩ := hself.exists_answers (h.not_head route hroute)
    (slash_of_compileRoutes hcompiled (List.mem_map_of_mem hroute))
  obtain ⟨params, hparams⟩ := Option.isSome_iff_exists.1 hanswers
  exact ⟨_, params, h.fetchRoute_eq hcompiled hroute hparams,
    parameters_of_capture hparams⟩

theorem UnambiguousRoutes.literalPathsDispatched (h : UnambiguousRoutes routes)
    (hcompiled : compiler.compileRoutes roots = .ok routes) :
    LiteralPathsDispatched routes := by
  intro route hroute hparameters
  refine h.fetchRoute_eq hcompiled hroute ?_
  rw [RouteFacts.capture, matchedMethod_of_ne_head (h.not_head route hroute), if_pos rfl]
  exact capture_self hparameters

theorem UnambiguousRoutes.independentOfIds (h : UnambiguousRoutes routes)
    (hcompiled : compiler.compileRoutes roots = .ok routes) :
    IndependentOfIds compiler roots routes := by
  intro roots' routes' hperm hcompiled' request
  rw [facts_fetchRoute (nodup_ids_of_compileRoutes hcompiled),
    facts_fetchRoute (nodup_ids_of_compileRoutes hcompiled')]
  have hfacts : (routes.map toRouteFacts).Perm
      (routes'.map toRouteFacts) := by
    refine (List.map_perm_map_iff (f := Except.ok (ε := String)) fun _ _ => Except.ok.inj).1 ?_
    refine (perm_facts_of_compileRoutes hcompiled).trans ?_
    refine List.Perm.trans ?_ (perm_facts_of_compileRoutes hcompiled').symm
    simpa [Function.comp_def] using (hperm.map compiler.readRoute).symm
  refine (List.find?_perm hfacts ?_).symm
  intro facts hmem other hmem' hanswers hanswers'
  exact h.eq_of_answers hmem hmem' hanswers hanswers'

theorem EveryRouteReachable.ne_head (h : EveryRouteReachable routes)
    (hcompiled : compiler.compileRoutes roots = .ok routes) :
    ∀ route ∈ routes, route.method ≠ .head := by
  intro route hroute
  obtain ⟨request, params, hfetch, -⟩ := h route hroute
  exact method_ne_head_of_answers (answers_of_fetchRoute hcompiled hfetch)

/-- **Where the ids do not matter, no two routes overlap**: of two that do, the one the ids put in
front answers. -/
theorem UnambiguousRoutes.of_independent
    (hcompiled : compiler.compileRoutes roots = .ok routes)
    (hhead : ∀ route ∈ routes, route.method ≠ .head)
    (h : IndependentOfIds compiler roots routes) : UnambiguousRoutes routes := by
  refine ⟨hhead, ?_⟩
  have hnodup := nodup_facts_of_compileRoutes hcompiled
  refine List.Nodup.pairwise_of_forall_ne (List.Nodup.of_map _ hnodup) ?_
  intro route hroute other hother hne hoverlap
  have hfacts := List.mem_map_of_mem (f := toRouteFacts) hroute
  have hfacts' := List.mem_map_of_mem (f := toRouteFacts) hother
  have hneFacts : route.toRouteFacts ≠ other.toRouteFacts :=
    fun heq => hne (List.inj_on_of_nodup_map hnodup hroute hother heq)
  obtain ⟨path, hanswers, hanswers'⟩ := hoverlap.exists_answers (hhead route hroute)
    (slash_of_compileRoutes hcompiled hfacts)
  -- The class in front answers, and some other class would.
  obtain ⟨front, hfront⟩ : ∃ front, (routes.map toRouteFacts).find?
      (fun facts => facts.answers ⟨route.method.text, path⟩) = some front := by
    rw [← Option.isSome_iff_exists, List.find?_isSome]
    exact ⟨_, hfacts, hanswers⟩
  obtain ⟨behind, hbehind, hanswersBehind, hneBehind⟩ :
      ∃ behind ∈ routes.map toRouteFacts,
        behind.answers ⟨route.method.text, path⟩ ∧ behind ≠ front := by
    by_cases heq : route.toRouteFacts = front
    · exact ⟨_, hfacts', hanswers', fun heq' => hneFacts (heq.trans heq'.symm)⟩
    · exact ⟨_, hfacts, hanswers, heq⟩
  obtain ⟨roots', hperm, hcompiled'⟩ :=
    exists_compileRoutes_swap hcompiled (List.mem_of_find?_eq_some hfront) hbehind
  have hsame := h roots' _ hperm hcompiled' ⟨route.method.text, path⟩
  rw [facts_fetchRoute (nodup_ids_of_compileRoutes hcompiled),
    facts_fetchRoute (nodup_ids_of_compileRoutes hcompiled'), hfront, List.map_map] at hsame
  have hswapped := List.find?_map_swap hfront hanswersBehind
  rw [List.map_map] at hswapped
  exact hneBehind (Option.some.inj (hswapped.symm.trans hsame))

end Reachable

/-! ### Routes for `HEAD`, and routes that overlap -/

/-- A platform on which texts compare as they read. -/
def plainRouteCompiler : RouteCompiler where
  toUpperCase text := text
  localeCompare left right := if left < right then -1 else if left = right then 0 else 1

/-- A public route class of a feature, under an id. -/
def publicRoute (name id : String) (method : HttpMethod) (path : List Char) : RouteRoot where
  declaration :=
    { name := name
      source := "src/app/http.ts:1:1"
      isAbstract := false
      extendsRoute := true
      method := some method.text
      path := some ('/' :: path)
      handle := some 1
      lifecycle := ⟨false, false, false, false⟩
      access := some "public" }
  ownerId := "feature:app"
  id := some id

/-- The entry of the class. -/
def publicEntry (name id : String) (method : HttpMethod) (path : List Char) :
    RouteManifestEntry where
  name := name
  exportName := name
  method := method
  path := '/' :: path
  access := "public"
  lifecycle := ⟨false, false, false, false⟩
  source := "src/app/http.ts:1:1"
  id := "route:feature:app/" ++ id
  ownerId := "feature:app"

theorem registerRoute_publicRoute (name : String) {id : String} (method : HttpMethod)
    (path : List Char) (hid : id.isEmpty = false) :
    plainRouteCompiler.registerRoute (publicRoute name id method path) =
      .ok (publicEntry name id method path) := by
  cases method <;>
    simp [RouteCompiler.registerRoute, RouteCompiler.readRoute, publicRoute, publicEntry,
      plainRouteCompiler, assertConcreteClass, RouteDeclaration.require,
      RouteDeclaration.readRequiredInstanceString, RouteDeclaration.readRequired,
      RouteDeclaration.readRequiredStaticString, HttpMethod.supported, HttpMethod.text, bind,
      Except.bind, hid, pure, Except.pure]

theorem compileRoutes_publicRoutes {name id name' id' : String} {method method' : HttpMethod}
    {path path' : List Char} (hid : id.isEmpty = false) (hid' : id'.isEmpty = false)
    (hlt : "route:feature:app/" ++ id < "route:feature:app/" ++ id')
    (hmethod : method.text ++ " " ++ String.ofList ('/' :: path) ≠
      method'.text ++ " " ++ String.ofList ('/' :: path')) :
    plainRouteCompiler.compileRoutes
        [publicRoute name id method path, publicRoute name' id' method' path'] =
      .ok [publicEntry name id method path, publicEntry name' id' method' path'] := by
  refine RouteCompiler.compileRoutes_eq_ok_iff.2
    ⟨[publicEntry name id method path, publicEntry name' id' method' path'], ?_, ?_, ?_, ?_⟩
  · rw [List.mapM_cons, registerRoute_publicRoute name method path hid, List.mapM_cons,
      registerRoute_publicRoute name' method' path' hid']
    rfl
  · have hne : id ≠ id' := by
      rintro rfl
      exact lt_irrefl _ hlt
    simpa [publicEntry] using hne
  · simpa [publicEntry, methodAndPath] using hmethod
  · refine List.mergeSort_of_pairwise ?_
    have hle : plainRouteCompiler.byId (publicEntry name id method path)
        (publicEntry name' id' method' path') = true := by
      rw [RouteCompiler.byId, plainRouteCompiler]
      exact decide_eq_true ((if_pos hlt).trans_le (by omega))
    simpa using hle

end Doxa
