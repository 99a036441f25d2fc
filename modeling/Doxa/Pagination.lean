/-
**Offset pagination.**

`ModelSession.paginate` reads page `p` of a query: it counts the rows the constraints select, orders
them by the plan's orders and the id, and reads the `perPage` rows behind the first
`(p - 1) * perPage`.  The count drops the bounds of the plan, and the page puts its own in their
place, so a limit or an offset set before reaches neither.  Every page sorts the table anew, but the
same table by the same orders: the pages are cut out of one list.

The quotient `total / perPage` is a float in the source.  It is rounded up as the exact one is: for
a total below `2 ^ 53` a quotient that is not an integer is further from the integer below it than
half the distance of two floats.

Main definitions:

* `Doxa.paginate` — one page;
* `Doxa.paginateAll` — several pages, read in one session;
* `Doxa.sortedRows` — the rows of the query, in the order of the pages.

Main results:

* `Doxa.paginate_eq` — what a page is, and what its session has loaded;
* `Doxa.paginateAll_eq` — whatever pages are read, in whatever order;
* `Doxa.paginate_partitions` — **the pages from the first to the last are what the query without its
  bounds returns**, cut into pages of which all but the last are full.
-/

import Doxa.QueryIteration
import Doxa.Lib.Paging

set_option relaxedAutoImplicit false
set_option autoImplicit false

namespace Doxa

open Paging

open Js

/-! ### Pages -/

variable (js : Runtime)

structure ModelPage where
  items : List QueryModel
  page : ℤ
  perPage : ℤ
  total : ℕ
  lastPage : ℤ

/-- **`ModelSession.paginate`**, over a table held in memory. -/
def paginate (definition : ModelDefinition) (table : List Row) (session : ModelSession)
    (plan : ModelQueryPlan) (page perPage : ℤ) : Except ModelError (ModelPage × ModelSession) := do
  positiveInteger page "Page"
  boundedPositiveInteger perPage "Per-page value" modelQueryMaxPageSize
  let offset := (page - 1) * perPage
  if !isSafeInteger offset then
    throw (.modelQueryError "Pagination offset exceeds the supported integer range.")
  let orders := deterministicOrders plan.orders
  let total ← count js definition table plan
  let (items, session) ← query js definition table session
    { plan with orders := orders, limit := some perPage, offset := some offset }
  return (
    { items := items
      page := page
      perPage := perPage
      total := total
      lastPage := max 1 ⌈(total : ℚ) / perPage⌉ }, session)

/-- The pages are read one after the other, in one session. -/
def paginateAll (js : Runtime) (definition : ModelDefinition) (table : List Row)
    (plan : ModelQueryPlan) (perPage : ℤ) :
    ModelSession → List ℤ → Except ModelError (List ModelPage × ModelSession)
  | session, [] => pure ([], session)
  | session, page :: pages => do
      let (first, session) ← paginate js definition table session plan page perPage
      let (rest, session) ← paginateAll js definition table plan perPage session pages
      return (first :: rest, session)

/-! ### The list the pages are cut out of -/

/-- The rows the constraints select, sorted by the orders and the id. -/
def sortedRows (table : List Row) (plan : ModelQueryPlan) : List Row :=
  sortRows js (deterministicOrders plan.orders) (constrainedRows js table plan)

theorem sortedRows_perm (table : List Row) (plan : ModelQueryPlan) :
    (sortedRows js table plan).Perm (constrainedRows js table plan) :=
  List.mergeSort_perm _ _

theorem mem_of_mem_sortedRows {js : Runtime} {table : List Row} {plan : ModelQueryPlan}
    {row : Row} (h : row ∈ sortedRows js table plan) : row ∈ table :=
  mem_of_mem_constrainedRows ((sortedRows_perm js table plan).mem_iff.1 h)

/-- What a query with the orders of the pages reads, whatever its bounds are. -/
theorem apply_sorted (table : List Row) (plan : ModelQueryPlan) (limit offset : Option ℤ) :
    applyModelQueryPlan js table
        { plan with
          orders := deterministicOrders plan.orders, limit := limit, offset := offset }
      = sliceRows limit offset (sortedRows js table plan) := by
  have hne : (deterministicOrders plan.orders).isEmpty = false := by
    simp [deterministicOrders_ne_nil]
  simp only [applyModelQueryPlan, hne, Bool.false_eq_true, if_false]
  rfl

/-- The bounds of a page cut it out of the list. -/
theorem sliceRows_page (rows : List Row) (i n : ℕ) :
    sliceRows (some (n : ℤ)) (some ((((i + 1 : ℕ) : ℤ) - 1) * (n : ℤ))) rows
      = page n rows i := by
  have hoffset : (((i + 1 : ℕ) : ℤ) - 1) * (n : ℤ) = ((i * n : ℕ) : ℤ) := by
    push_cast
    ring
  rw [hoffset]
  simp only [sliceRows, page, Option.getD_some, Int.toNat_natCast]

/-! ### Accepted pages -/

theorem isSafeInteger_of_le {n : ℕ} (h : n ≤ 2 ^ 53 - 1) : isSafeInteger n = true := by
  simp only [isSafeInteger, decide_eq_true_eq]
  omega

theorem positiveInteger_eq_ok {name : String} {n : ℕ} (hn : 1 ≤ n) (hmax : n ≤ 2 ^ 53 - 1) :
    positiveInteger n name = .ok () := by
  rw [positiveInteger, isSafeInteger_of_le hmax, decide_eq_false (by omega)]
  rfl

theorem nonNegativeInteger_eq_ok {name : String} {n : ℕ} (hmax : n ≤ 2 ^ 53 - 1) :
    nonNegativeInteger n name = .ok () := by
  rw [nonNegativeInteger, isSafeInteger_of_le hmax, decide_eq_false (by omega)]
  rfl

/-- The bounds of a page make no difference to whether a plan is accepted. -/
theorem validate_page {definition : ModelDefinition} {plan : ModelQueryPlan}
    (haccepted : Accepted definition plan) {n offset : ℕ} (hn : 1 ≤ n) (hmax : n ≤ 1000)
    (hoffset : offset ≤ 2 ^ 53 - 1) :
    validateModelQueryPlan definition
        { plan with
          orders := deterministicOrders plan.orders
          limit := some (n : ℤ)
          offset := some (offset : ℤ) } = .ok () := by
  obtain ⟨-, -, horders, hconstraints⟩ :=
    (validateModelQueryPlan_eq_ok_iff definition _).1 haccepted
  refine (validateModelQueryPlan_eq_ok_iff definition _).2 ⟨?_, ?_, horders, hconstraints⟩
  · intro limit hlimit
    cases hlimit
    exact positiveInteger_eq_ok hn (by omega)
  · intro found hfound
    cases hfound
    exact nonNegativeInteger_eq_ok hoffset

/-- A query without bounds returns the models of the sorted rows. -/
theorem query_sorted {definition : ModelDefinition} {table : List Row}
    (hids : (table.map Row.id).Nodup) {plan : ModelQueryPlan} (haccepted : Accepted definition plan)
    (session : ModelSession) :
    query js definition table session plan.unbounded
      = .ok ((sortedRows js table plan).map session.modelOf,
          session.loaded (sortedRows js table plan)) := by
  have hrows : applyModelQueryPlan js table plan.unbounded = sortedRows js table plan :=
    (apply_sorted js table plan none none).trans (by simp [sliceRows])
  have hvalid : validateModelQueryPlan definition plan.unbounded = .ok () := haccepted
  rw [query, hvalid, hrows,
    hydrateAll_eq hids _ session fun row hrow => mem_of_mem_sortedRows hrow]
  rfl

section Run

variable (js : Runtime) {definition : ModelDefinition} {table : List Row}
  (hids : (table.map Row.id).Nodup) {plan : ModelQueryPlan}
  (hvalid : validateModelQueryPlan definition plan = .ok ())
  (haccepted : Accepted definition plan) {n : ℕ} (hn : 1 ≤ n) (hmax : n ≤ 1000)

/-- The page with number `i + 1`, as a session shows it. -/
def pageOf (js : Runtime) (table : List Row) (plan : ModelQueryPlan) (n : ℕ)
    (session : ModelSession) (i : ℕ) : ModelPage :=
  { items := (page n (sortedRows js table plan) i).map session.modelOf
    page := ((i + 1 : ℕ) : ℤ)
    perPage := n
    total := (sortedRows js table plan).length
    lastPage := lastPage n (sortedRows js table plan).length }

include hids hvalid haccepted hn hmax

/-- **One page** shows the models of its rows, and loads them. -/
theorem paginate_eq (session : ModelSession) {i : ℕ} (hpage : i + 1 ≤ 2 ^ 53 - 1)
    (hoffset : i * n ≤ 2 ^ 53 - 1) :
    paginate js definition table session plan (i + 1 : ℕ) n
      = .ok (pageOf js table plan n session i,
          session.loaded (page n (sortedRows js table plan) i)) := by
  have hpositive : positiveInteger (i + 1 : ℕ) "Page" = .ok () :=
    positiveInteger_eq_ok (by omega) hpage
  have hbounded : boundedPositiveInteger n "Per-page value" modelQueryMaxPageSize
      = .ok () := boundedPositiveInteger_eq_ok hn hmax
  have hcast : (((i + 1 : ℕ) : ℤ) - 1) * (n : ℤ) = ((i * n : ℕ) : ℤ) := by
    push_cast
    ring
  have hsafe : isSafeInteger ((((i + 1 : ℕ) : ℤ) - 1) * (n : ℤ)) = true := by
    rw [hcast]
    exact isSafeInteger_of_le hoffset
  have hcount : count js definition table plan
      = .ok (sortedRows js table plan).length := by
    rw [count, hvalid, countEntities_eq, (sortedRows_perm js table plan).length_eq]
    rfl
  have hquery : query js definition table session
      { plan with
        orders := deterministicOrders plan.orders
        limit := some (n : ℤ)
        offset := some ((((i + 1 : ℕ) : ℤ) - 1) * (n : ℤ)) }
      = .ok ((page n (sortedRows js table plan) i).map session.modelOf,
          session.loaded (page n (sortedRows js table plan) i)) := by
    rw [query, apply_sorted, sliceRows_page, hydrateAll_eq hids _ session fun row hrow =>
      mem_of_mem_sortedRows (mem_of_mem_page hrow), hcast,
      validate_page haccepted hn hmax hoffset]
    rfl
  rw [paginate, hpositive, hbounded]
  simp only [bind, Except.bind, hsafe, hcount, hquery]
  rfl

/-- **Whatever pages are read, in whatever order**, each shows the models that the session has for
its rows at the beginning, and the rows of all of them are loaded. -/
theorem paginateAll_eq : ∀ (indices : List ℕ) (session : ModelSession),
    (∀ i ∈ indices, i + 1 ≤ 2 ^ 53 - 1 ∧ i * n ≤ 2 ^ 53 - 1) →
      paginateAll js definition table plan n session
          (indices.map fun i => ((i + 1 : ℕ) : ℤ))
        = .ok (indices.map (pageOf js table plan n session),
            session.loaded (indices.flatMap (page n (sortedRows js table plan)))) := by
  intro indices
  induction indices with
  | nil => intro session _; simp [paginateAll, pure, Except.pure]
  | cons i indices ih =>
    intro session hsafe
    obtain ⟨hpage, hoffset⟩ := hsafe i List.mem_cons_self
    have hfirst := paginate_eq js hids hvalid haccepted hn hmax session hpage hoffset
    have hrows : ∀ row ∈ page n (sortedRows js table plan) i, row ∈ table :=
      fun row hrow => mem_of_mem_sortedRows (mem_of_mem_page hrow)
    have hrest := ih (session.loaded (page n (sortedRows js table plan) i))
      fun j hj => hsafe j (List.mem_cons_of_mem i hj)
    -- what was loaded for one page changes no model of the others
    have hsame : pageOf js table plan n
        (session.loaded (page n (sortedRows js table plan) i))
        = pageOf js table plan n session := by
      funext j
      simp only [pageOf, ModelPage.mk.injEq, and_true]
      exact List.map_congr_left fun row hrow => session.modelOf_loaded hids hrows
        (mem_of_mem_sortedRows (mem_of_mem_page hrow))
    rw [hsame, ModelSession.loaded_loaded] at hrest
    rw [List.map_cons, paginateAll, hfirst]
    simp only [bind, Except.bind, hrest]
    rfl

end Run

/-! ### The partition -/

/-- No page behind this one shows anything. -/
def NothingFollows (definition : ModelDefinition) (table : List Row) (session : ModelSession)
    (plan : ModelQueryPlan) (perPage : ℤ) (page : ℤ) : Prop :=
  ∀ later found session', page < later →
    paginate js definition table session plan later perPage = .ok (found, session') →
    found.items = []

/-- The numbers of the pages from the first to the last. -/
def pageNumbers (lastPage : ℕ) : List ℤ := (List.range lastPage).map fun i => ((i + 1 : ℕ) : ℤ)

section Partition

variable (js : Runtime) {definition : ModelDefinition} {table : List Row}
  (hids : (table.map Row.id).Nodup) (hsize : table.length ≤ 2 ^ 53 - 1) {plan : ModelQueryPlan}
  (hvalid : validateModelQueryPlan definition plan = .ok ()) {n : ℕ} (hn : 1 ≤ n)
  (hmax : n ≤ 1000) {session session' : ModelSession} {models : List QueryModel}
  (hget : query js definition table session plan.unbounded = .ok (models, session'))

include hget in
/-- What a query returns, it returns for an accepted plan. -/
theorem accepted_of_query : Accepted definition plan := (Except.bind_eq_ok.1 hget).1

include hget in
/-- What a query returns are the models of the sorted rows. -/
theorem models_of_query (hids : (table.map Row.id).Nodup) :
    models = (sortedRows js table plan).map session.modelOf ∧
      session' = session.loaded (sortedRows js table plan) := by
  have haccepted := accepted_of_query js hget
  rw [query_sorted js hids haccepted] at hget
  cases hget
  exact ⟨rfl, rfl⟩

/-- A page that is not refused has a number and an offset that are safe integers. -/
theorem safe_of_paginate {page perPage : ℤ} {found : ModelPage} {session'' : ModelSession}
    (h : paginate js definition table session plan page perPage
      = .ok (found, session'')) :
    page ≤ 2 ^ 53 - 1 ∧ (page - 1) * perPage ≤ 2 ^ 53 - 1 := by
  obtain ⟨hpositive, h⟩ := Except.bind_eq_ok.1 h
  obtain ⟨-, h⟩ := Except.bind_eq_ok.1 h
  constructor
  · by_contra hlarge
    have hrange : isSafeInteger page = false := by
      simp only [isSafeInteger, decide_eq_false_iff_not]
      omega
    rw [positiveInteger, hrange] at hpositive
    cases hpositive
  · by_contra hlarge
    have hrange : isSafeInteger ((page - 1) * perPage) = false := by
      simp only [isSafeInteger, decide_eq_false_iff_not]
      omega
    dsimp only at h
    rw [hrange] at h
    cases h

include hids hvalid hn hmax hget

/-- Behind pages that cover the result nothing follows. -/
theorem nothingFollows_of_le {k : ℕ} (hk : models.length ≤ k * n) :
    NothingFollows js definition table session plan n k := by
  have haccepted := accepted_of_query js hget
  obtain ⟨rfl, -⟩ := models_of_query js hget hids
  rw [List.length_map] at hk
  intro later found session'' hlater h
  obtain ⟨i, rfl⟩ : ∃ i : ℕ, later = (i + 1 : ℕ) := ⟨(later - 1).toNat, by omega⟩
  obtain ⟨hpage, hoffset⟩ := safe_of_paginate js h
  have hcast : (((i + 1 : ℕ) : ℤ) - 1) * (n : ℤ) = ((i * n : ℕ) : ℤ) := by
    push_cast
    ring
  rw [hcast] at hoffset
  rw [paginate_eq js hids hvalid haccepted hn hmax session (by omega) (by omega)] at h
  cases h
  have hki : k * n ≤ i * n := Nat.mul_le_mul_right n (by omega)
  have hempty := (page_eq_nil_iff (by omega : 0 < n)).2 (hk.trans hki)
  simp [pageOf, hempty]

/-- Behind pages that leave a row over, it follows. -/
theorem le_of_nothingFollows {k : ℕ} (hpage : k + 1 ≤ 2 ^ 53 - 1)
    (hoffset : k * n ≤ 2 ^ 53 - 1) (h : NothingFollows js definition table session plan n k) :
    models.length ≤ k * n := by
  have haccepted := accepted_of_query js hget
  obtain ⟨rfl, -⟩ := models_of_query js hget hids
  have hnext := paginate_eq js hids hvalid haccepted hn hmax session hpage hoffset
  have hempty := h _ _ _ (by push_cast; omega) hnext
  rw [pageOf, List.map_eq_nil_iff] at hempty
  rw [List.length_map]
  exact (page_eq_nil_iff (by omega : 0 < n)).1 hempty

include hsize

/-- **Offset pagination partitions the result.**  The pages from the first to the last are, one
after the other, what the query without its bounds returns in the order of the pages, each
constrained row once; every page but the last is full, the total is the number of models, and the
last page is the least one behind which nothing follows. -/
theorem paginate_partitions :
    ∃ (lastPage : ℕ) (pages : List ModelPage) (rows : List Row),
      paginateAll js definition table plan n session (pageNumbers lastPage)
          = .ok (pages, session') ∧
        pages.flatMap ModelPage.items = models ∧
        models = rows.map session.modelOf ∧ rows.Perm (constrainedRows js table plan) ∧
        (∀ page ∈ pages, page.page < lastPage → page.items.length = n) ∧
        (∀ page ∈ pages, page.total = models.length ∧ page.lastPage = lastPage) ∧
        IsLeast {k : ℕ | 1 ≤ k ∧ NothingFollows js definition table session plan n k} lastPage := by
  have haccepted := accepted_of_query js hget
  obtain ⟨hmodels, hloaded⟩ := models_of_query js hget hids
  have hlength : models.length = (sortedRows js table plan).length := by
    rw [hmodels, List.length_map]
  have htotal : (sortedRows js table plan).length ≤ 2 ^ 53 - 1 := by
    rw [(sortedRows_perm js table plan).length_eq]
    exact (List.length_filter_le _ _).trans hsize
  have hpositive : 0 < n := hn
  obtain ⟨lastPage, hone, hlast⟩ :=
    exists_lastPage_eq n (sortedRows js table plan).length
  have hcovered := total_le_of_lastPage hpositive hlast
  have hfew := lastPage_le_of_lastPage hpositive hlast
  -- the numbers and the offsets of the pages are those of rows, hence safe integers
  have hsafe : ∀ i, i < lastPage → i + 1 ≤ 2 ^ 53 - 1 ∧ i * n ≤ 2 ^ 53 - 1 := by
    intro i hi
    refine ⟨by omega, ?_⟩
    rcases Nat.eq_zero_or_pos i with rfl | hi'
    · simp
    · have hbefore := lt_total_of_lastPage hpositive hlast hi' hi
      omega
  have hrun := paginateAll_eq js hids hvalid haccepted hn hmax (List.range lastPage) session
    fun i hi => hsafe i (List.mem_range.1 hi)
  have hall : (List.range lastPage).flatMap (page n (sortedRows js table plan))
      = sortedRows js table plan := by
    rw [flatMap_page, List.take_of_length_le hcovered]
  rw [hall, ← hloaded] at hrun
  refine ⟨lastPage, _, sortedRows js table plan, hrun, ?_, hmodels, sortedRows_perm js table plan,
    ?_, ?_, ?_, ?_⟩
  · rw [hmodels, List.flatMap_map]
    change (List.range lastPage).flatMap (fun i =>
      (page n (sortedRows js table plan) i).map session.modelOf) = _
    rw [← List.map_flatMap, hall]
  · intro page hpage hbefore
    obtain ⟨i, hi, rfl⟩ := List.mem_map.1 hpage
    have hi' : i + 1 < lastPage := by
      simp only [pageOf] at hbefore
      omega
    have hfull := lt_total_of_lastPage hpositive hlast (by omega) hi'
    simp only [pageOf, List.length_map]
    exact length_page_of_le hfull.le
  · intro page hpage
    obtain ⟨i, -, rfl⟩ := List.mem_map.1 hpage
    exact ⟨hlength.symm, hlast⟩
  · exact ⟨hone, nothingFollows_of_le js hids hvalid hn hmax hget (hlength.trans_le hcovered)⟩
  · rintro k ⟨hk, hnothing⟩
    by_contra hlt
    have hbefore := lt_total_of_lastPage hpositive hlast hk (by omega)
    obtain ⟨hpage, hoffset⟩ := hsafe k (by omega)
    have hle := le_of_nothingFollows js hids hvalid hn hmax hget hpage hoffset hnothing
    omega

end Partition

theorem paginate_partitions_articles :
    ∃ (lastPage : ℕ) (pages : List ModelPage) (rows : List Row),
      paginateAll .ascii articleDefinition unrankedArticles firstArticle (1 : ℕ)
          .new (pageNumbers lastPage)
          = .ok (pages, ModelSession.new.loaded
              (sortedRows .ascii unrankedArticles firstArticle)) ∧
        pages.flatMap ModelPage.items
          = (sortedRows .ascii unrankedArticles firstArticle).map
              ModelSession.new.modelOf ∧
        (sortedRows .ascii unrankedArticles firstArticle).map ModelSession.new.modelOf
          = rows.map ModelSession.new.modelOf ∧
        rows.Perm (constrainedRows .ascii unrankedArticles firstArticle) ∧
        (∀ page ∈ pages, page.page < lastPage → page.items.length = 1) ∧
        (∀ page ∈ pages,
          page.total = ((sortedRows .ascii unrankedArticles firstArticle).map
            ModelSession.new.modelOf).length ∧ page.lastPage = lastPage) ∧
        IsLeast {k : ℕ | 1 ≤ k ∧ NothingFollows .ascii articleDefinition unrankedArticles
          .new firstArticle (1 : ℕ) k} lastPage := by
  have hids : (unrankedArticles.map Row.id).Nodup := by decide
  have haccepted : Accepted articleDefinition firstArticle := rfl
  exact paginate_partitions .ascii hids (by simp [unrankedArticles]) rfl (le_refl 1)
    (by decide) (query_sorted .ascii hids haccepted .new)

/-- The limit of a query does not bound its pages, and a page of more than a thousand rows is
refused. -/
theorem limit_not_paginated :
    ∃ models session' first session'',
      query .ascii articleDefinition unrankedArticles .new firstArticle
          = .ok (models, session') ∧
        paginate .ascii articleDefinition unrankedArticles .new firstArticle
          1 2 = .ok (first, session'') ∧
        models.length = 1 ∧ first.items.length = 2 ∧ first.total = 2 ∧ first.lastPage = 1 ∧
        paginate .ascii articleDefinition unrankedArticles .new firstArticle
          1 1001 = .error
            (.modelQueryError "Per-page value must be at most 1000.") := by
  have hids : (unrankedArticles.map Row.id).Nodup := by decide
  have haccepted : Accepted articleDefinition firstArticle := rfl
  have hread := hydrateAll_eq hids (applyModelQueryPlan .ascii unrankedArticles firstArticle)
    .new fun row hrow => mem_of_mem_applyModelQueryPlan hrow
  have hpage := paginate_eq .ascii hids rfl haccepted (by decide : 1 ≤ 2) (by decide)
    .new (by decide : 0 + 1 ≤ 2 ^ 53 - 1) (by decide : 0 * 2 ≤ 2 ^ 53 - 1)
  have htotal : (sortedRows .ascii unrankedArticles firstArticle).length = 2 :=
    (sortedRows_perm .ascii unrankedArticles firstArticle).length_eq
  refine ⟨_, _, _, _, congrArg Except.ok hread, hpage, ?_, ?_, htotal, ?_, rfl⟩
  · simp [applyModelQueryPlan, sliceRows, sortRows, firstArticle, articlesByRank,
      deterministicOrders, unrankedArticles, matchesConstraints]
  · simp [pageOf, length_page, htotal]
  · have hone := (lastPage_le_iff (by decide : 0 < 2) 2 1).2 (by decide)
    have hleast : 1 ≤ lastPage 2 2 := le_max_left _ _
    rw [pageOf, htotal]
    exact le_antisymm hone hleast

end Doxa
