/-
**How the compiler registers HTTP routes.**

A feature lists its route classes.  The compiler reads the method, the path, the access and the id
of each (`registerRoute`), refuses two routes of one id or of one method and path (`assertUnique`),
and writes them to the manifest in the order of their ids (`compiler/src/compiler.ts`).  Method and
path are compared as texts: what a path means to a router is no concern of the compiler.

A class with its owner and its id is a `RouteRoot`; the part of a manifest entry that comes from the
class alone is `RouteFacts`.  The dependencies of a route are left out.  How the platform
upper-cases a text and compares two ids is a parameter.

Main definitions:

* `Doxa.RouteDeclaration`, `Doxa.RouteRoot` — a route class, and what it is registered with;
* `Doxa.RouteManifestEntry` — an entry of the manifest;
* `Doxa.RouteCompiler.registerRoute`, `Doxa.RouteCompiler.compileRoutes` — the compiler.

Main results:

* `Doxa.assertUnique_eq_ok_iff` — what the check of uniqueness establishes;
* `Doxa.RouteCompiler.compileRoutes_eq_ok_iff` — **what a set of routes that the compiler accepts
  looks like**.
-/

import Doxa.Lib.Except
import Mathlib.Data.Int.Notation
import Mathlib.Data.List.Nodup

set_option relaxedAutoImplicit false
set_option autoImplicit false

namespace Doxa

/-! ### Routes -/

inductive HttpMethod
  | delete
  | get
  | head
  | options
  | patch
  | post
  | put
deriving DecidableEq

/-- The text of a method. -/
def HttpMethod.text : HttpMethod → String
  | delete => "DELETE"
  | get => "GET"
  | head => "HEAD"
  | options => "OPTIONS"
  | patch => "PATCH"
  | post => "POST"
  | put => "PUT"

/-- The methods the compiler supports. -/
def HttpMethod.supported : List HttpMethod := [delete, get, head, options, patch, post, put]

theorem HttpMethod.text_injective : Function.Injective HttpMethod.text := by
  intro method other h
  cases method <;> cases other <;> simp_all [HttpMethod.text]

/-- Which phases of the application's life a class takes part in. -/
structure RouteLifecycle where
  start : Bool
  drain : Bool
  stop : Bool
  dispose : Bool
deriving DecidableEq

/-- A route class, as its declaration reads.  A property that is missing, or is no string literal,
is `none`. -/
structure RouteDeclaration where
  name : String
  source : String
  isAbstract : Bool
  extendsRoute : Bool
  method : Option String
  path : Option (List Char)
  /-- How many parameters `handle` has, when it is defined. -/
  handle : Option ℕ
  lifecycle : RouteLifecycle
  access : Option String
deriving DecidableEq

/-- A route class with the owner and the id it is registered under. -/
structure RouteRoot where
  declaration : RouteDeclaration
  ownerId : String
  id : Option String

/-- What a manifest entry says of the class of a route. -/
structure RouteFacts where
  name : String
  exportName : String
  method : HttpMethod
  path : List Char
  access : String
  lifecycle : RouteLifecycle
  source : String
deriving DecidableEq

structure RouteManifestEntry extends RouteFacts where
  id : String
  ownerId : String
deriving DecidableEq

/-! ### The compiler -/

variable (declaration : RouteDeclaration)

/-- A compilation error at a declaration. -/
def RouteDeclaration.fail {τ : Type} (message : String) : Except String τ :=
  .error (declaration.source ++ " " ++ message)

/-- A property that has to be a string literal with a character in it. -/
def RouteDeclaration.readRequired {τ : Type} (value : Option τ) (isEmpty : τ → Bool)
    (message : String) : Except String τ :=
  match value with
  | none => declaration.fail message
  | some text => if isEmpty text then declaration.fail message else .ok text

def RouteDeclaration.readRequiredInstanceString {τ : Type} (value : Option τ) (isEmpty : τ → Bool)
    (name : String) : Except String τ :=
  declaration.readRequired value isEmpty
    (declaration.name ++ "." ++ name ++ " must be a non-empty string literal.")

def RouteDeclaration.readRequiredStaticString (value : Option String) (name : String) :
    Except String String :=
  declaration.readRequired value String.isEmpty
    (declaration.name ++ " must declare static " ++ name ++ " as a non-empty string literal.")

/-- `/^[a-z][a-z0-9._:-]{1,127}$/` -/
def isAbilityName (text : String) : Bool :=
  match text.toList with
  | [] => false
  | first :: rest =>
    ('a' ≤ first && first ≤ 'z') && 1 ≤ rest.length && rest.length ≤ 127 &&
      rest.all fun c =>
        ('a' ≤ c && c ≤ 'z') || ('0' ≤ c && c ≤ '9') || ['.', '_', ':', '-'].contains c

/-- What the compiler takes from the platform. -/
structure RouteCompiler where
  /-- `String.prototype.toUpperCase` -/
  toUpperCase : String → String
  /-- `String.prototype.localeCompare` -/
  localeCompare : String → String → ℤ

/-- A check of the compiler. -/
def RouteDeclaration.require (condition : Bool) (message : String) : Except String Unit :=
  if condition then .ok () else declaration.fail message

def assertConcreteClass : Except String Unit :=
  declaration.require (!declaration.isAbstract)
    (declaration.name ++ " must be concrete before it can be registered.")

variable (compiler : RouteCompiler)

/-- What `registerRoute` reads from the class, with its checks in order. -/
def RouteCompiler.readRoute : Except String RouteFacts := do
  assertConcreteClass declaration
  declaration.require declaration.extendsRoute (declaration.name ++ " must extend Route.")
  let text ← declaration.readRequiredInstanceString declaration.method String.isEmpty "method"
  match HttpMethod.supported.find? fun method => method.text = compiler.toUpperCase text with
  | none => declaration.fail (declaration.name ++ ".method is not a supported HTTP method.")
  | some method => do
      let path ← declaration.readRequiredInstanceString declaration.path List.isEmpty "path"
      declaration.require (path.head? = some '/') (declaration.name ++ ".path must begin with /.")
      declaration.require (declaration.handle = some 1)
        (declaration.name ++ " must define handle(request).")
      declaration.require
        (!(declaration.lifecycle.start || declaration.lifecycle.drain ||
          declaration.lifecycle.stop))
        ("[DOXA-COMPILER-LIFECYCLE-001] " ++ declaration.name ++
          " may define dispose(), but routes cannot own application lifecycle phases. " ++
          "See Gnosis guide role.route.")
      let access ← declaration.readRequiredStaticString declaration.access "access"
      declaration.require (access = "public" || isAbilityName access)
        (declaration.name ++ ".access must be \"public\" or a stable ability name.")
      return { name := declaration.name, exportName := declaration.name, method, path, access,
               lifecycle := declaration.lifecycle, source := declaration.source }

def RouteCompiler.registerRoute (root : RouteRoot) : Except String RouteManifestEntry := do
  let facts ← compiler.readRoute root.declaration
  let id ← root.declaration.readRequiredStaticString root.id "id"
  return { facts with id := "route:" ++ root.ownerId ++ "/" ++ id, ownerId := root.ownerId }

/-- `assertUnique` over the identities of the items, with those seen so far. -/
def assertUniqueFrom {κ : Type} [DecidableEq κ] (label : κ → String) :
    List κ → List κ → Except String Unit
  | _, [] => .ok ()
  | seen, id :: ids =>
    if id ∈ seen then .error (label id) else assertUniqueFrom label (id :: seen) ids

def assertUnique {τ : Type} (items : List τ) (identity : τ → String) (label : String) :
    Except String Unit :=
  assertUniqueFrom (fun id => "Duplicate " ++ label ++ ": " ++ id) [] (items.map identity)

/-- `${route.method} ${route.path}` -/
def RouteFacts.methodAndPath (facts : RouteFacts) : String :=
  facts.method.text ++ " " ++ String.ofList facts.path

/-- `byId` -/
def RouteCompiler.byId (left right : RouteManifestEntry) : Bool :=
  compiler.localeCompare left.id right.id ≤ 0

/-- The routes of the manifest. -/
def RouteCompiler.compileRoutes (roots : List RouteRoot) :
    Except String (List RouteManifestEntry) := do
  let routes ← roots.mapM compiler.registerRoute
  assertUnique routes (fun route => route.id) "route ID"
  assertUnique routes (fun route => route.methodAndPath) "HTTP route"
  return routes.mergeSort compiler.byId

/-! ### What the checks establish -/

theorem assertUniqueFrom_eq_ok_iff {κ : Type} [DecidableEq κ] (label : κ → String)
    (seen ids : List κ) :
    assertUniqueFrom label seen ids = .ok () ↔ ids.Nodup ∧ ∀ id ∈ ids, id ∉ seen := by
  induction ids generalizing seen with
  | nil => simp [assertUniqueFrom]
  | cons id ids ih =>
    rw [assertUniqueFrom]
    split
    next hseen => simp [hseen]
    next hseen =>
      rw [ih, List.nodup_cons, List.forall_mem_cons]
      constructor
      · rintro ⟨hnodup, hnot⟩
        have hid : id ∉ ids := fun hmem => hnot id hmem List.mem_cons_self
        exact ⟨⟨hid, hnodup⟩, hseen, fun other hother hmem =>
          hnot other hother (List.mem_cons_of_mem _ hmem)⟩
      · rintro ⟨⟨hid, hnodup⟩, -, hnot⟩
        refine ⟨hnodup, fun other hother hmem => ?_⟩
        rcases List.mem_cons.1 hmem with rfl | hmem
        · exact hid hother
        · exact hnot other hother hmem

/-- What the check of uniqueness establishes. -/
theorem assertUnique_eq_ok_iff {τ : Type} (items : List τ) (identity : τ → String)
    (label : String) :
    assertUnique items identity label = .ok () ↔ (items.map identity).Nodup := by
  simp [assertUnique, assertUniqueFrom_eq_ok_iff]

/-- The entry of a route, under an owner and an id. -/
def RouteFacts.entry (facts : RouteFacts) (ownerId id : String) : RouteManifestEntry :=
  { facts with id := "route:" ++ ownerId ++ "/" ++ id, ownerId := ownerId }

@[simp] theorem RouteFacts.entry_facts (facts : RouteFacts) (ownerId id : String) :
    (facts.entry ownerId id).toRouteFacts = facts := rfl

theorem RouteDeclaration.readRequired_eq_ok_iff {τ : Type} {value : Option τ} {isEmpty : τ → Bool}
    {message : String} {text : τ} :
    declaration.readRequired value isEmpty message = .ok text ↔
      value = some text ∧ isEmpty text = false := by
  cases value with
  | none => simp [readRequired, fail]
  | some found =>
    rw [readRequired]
    by_cases hempty : isEmpty found
    · simp only [hempty, if_true, fail, reduceCtorEq, false_iff, not_and, Option.some.injEq]
      rintro rfl
      simp [hempty]
    · simp only [hempty, Bool.false_eq_true, if_false, Except.ok.injEq, Option.some.injEq]
      exact ⟨fun h => ⟨h, by simpa [← h] using hempty⟩, fun h => h.1⟩

theorem RouteDeclaration.require_eq_ok_iff {condition : Bool} {message : String} :
    declaration.require condition message = .ok () ↔ condition := by
  cases condition <;> simp [require, fail]

variable {compiler}

/-- A path that is accepted begins with a slash. -/
theorem RouteCompiler.slash_of_readRoute {declaration : RouteDeclaration} {facts : RouteFacts}
    (h : compiler.readRoute declaration = .ok facts) : facts.path.head? = some '/' := by
  rw [readRoute, Except.bind_eq_ok, Except.bind_eq_ok, Except.bind_eq_ok_iff] at h
  obtain ⟨-, -, text, -, h⟩ := h
  split at h
  · simp [RouteDeclaration.fail] at h
  · rw [Except.bind_eq_ok_iff] at h
    obtain ⟨path, -, h⟩ := h
    rw [Except.bind_eq_ok, Except.bind_eq_ok, Except.bind_eq_ok, Except.bind_eq_ok_iff,
      RouteDeclaration.require_eq_ok_iff] at h
    obtain ⟨hslash, -, -, access, -, h⟩ := h
    rw [Except.bind_eq_ok] at h
    rw [← Except.ok.inj h.2]
    simpa using hslash

/-- An entry has what the class says, and the id and the owner it was given. -/
theorem RouteCompiler.registerRoute_eq_ok_iff {root : RouteRoot} {entry : RouteManifestEntry} :
    compiler.registerRoute root = .ok entry ↔
      ∃ facts id, compiler.readRoute root.declaration = .ok facts ∧
        root.id = some id ∧ id.isEmpty = false ∧ entry = facts.entry root.ownerId id := by
  rw [registerRoute, Except.bind_eq_ok_iff]
  refine exists_congr fun facts => ?_
  rw [Except.bind_eq_ok_iff, ← exists_and_left]
  refine exists_congr fun id => ?_
  rw [RouteDeclaration.readRequiredStaticString, RouteDeclaration.readRequired_eq_ok_iff]
  constructor
  · rintro ⟨hfacts, ⟨hid, hne⟩, hentry⟩
    exact ⟨hfacts, hid, hne, (Except.ok.inj hentry).symm⟩
  · rintro ⟨hfacts, hid, hne, rfl⟩
    exact ⟨hfacts, ⟨hid, hne⟩, rfl⟩

/-- **A set of routes that the compiler accepts**: each is registered, and no two have one id, or
one method and path. -/
theorem RouteCompiler.compileRoutes_eq_ok_iff {roots : List RouteRoot}
    {routes : List RouteManifestEntry} :
    compiler.compileRoutes roots = .ok routes ↔
      ∃ entries, roots.mapM compiler.registerRoute = .ok entries ∧
        (entries.map fun entry => entry.id).Nodup ∧
        (entries.map fun entry => entry.methodAndPath).Nodup ∧
        entries.mergeSort compiler.byId = routes := by
  rw [compileRoutes, Except.bind_eq_ok_iff]
  refine exists_congr fun entries => and_congr_right fun _ => ?_
  rw [Except.bind_eq_ok, Except.bind_eq_ok, assertUnique_eq_ok_iff, assertUnique_eq_ok_iff]
  exact and_congr_right fun _ => and_congr_right fun _ => ⟨Except.ok.inj, congrArg _⟩

end Doxa
