/-
**The plan of an upgrade.**

An upgrade (`praxis/src/upgrade.ts`) says what it is going to change in `package.json`
(`plannedChanges`), changes it (`applyTarget`), and goes on in the new release, which refuses a file
that is not aligned at its version (`currentFrameworkVersion`).

Packages of the framework are set to the range of the target first, and tools to their versions
afterwards: a tool that is a package of the framework is planned twice.  A package of the framework
that the target does not list keeps its range, and the file that was written is refused.  A tool is
there when reading its name from the section gives something: what every object inherits is there
too.

Main definitions:

* `Doxa.plannedChanges`, `Doxa.applyTarget`, `Doxa.currentFrameworkVersion` — the three functions;
* `Doxa.UpgradeExact` — the plan is what is applied;
* `Doxa.ConsistentTarget` — what the target says does not contradict itself.

Main results:

* `Doxa.get_applyTools` — what the tools make of a section;
* `Doxa.upgrade_exact_iff` — **the plan is what is applied if the target is consistent**.
-/

import Doxa.Lib.Except
import Doxa.Lib.Json
import Doxa.Lib.OrderedMap
import Doxa.VersionOrder

set_option relaxedAutoImplicit false
set_option autoImplicit false

namespace Doxa

/-! ### Files and targets -/

/-- A record of texts. -/
abbrev TextRecord := OrderedMap String String

inductive DependencySection
  | dependencies
  | devDependencies
  | optionalDependencies
deriving DecidableEq

def DependencySection.text : DependencySection → String
  | dependencies => "dependencies"
  | devDependencies => "devDependencies"
  | optionalDependencies => "optionalDependencies"

/-- The sections, in the order in which they are read. -/
def dependencySections : List DependencySection :=
  [.dependencies, .devDependencies,
    .optionalDependencies]

/-- `package.json`. -/
@[ext]
structure PackageJson where
  packageManager : Option String
  engines : Option TextRecord
  sections : DependencySection → Option TextRecord
  /-- Its other fields. -/
  others : List (String × Json)

structure Toolchain where
  node : String
  packageManager : String
  devDependencies : TextRecord

/-- `doxaCompatibility`, as far as a plan reads it. -/
structure DoxaCompatibility where
  frameworkPackages : List String
  toolchain : Toolchain

structure UpgradeTarget where
  version : String
  compatibility : DoxaCompatibility

/-- The range of the target. -/
def UpgradeTarget.range (target : UpgradeTarget) : String := "^" ++ target.version

/-- The target lists the package. -/
def UpgradeTarget.lists (target : UpgradeTarget) (name : String) : Bool :=
  name ∈ target.compatibility.frameworkPackages

/-- The tools of the target. -/
def UpgradeTarget.tools (target : UpgradeTarget) : TextRecord :=
  target.compatibility.toolchain.devDependencies

/-! ### The version of a file -/

/-- `name.startsWith('@doxajs/')`. -/
def isFrameworkName (name : String) : Bool := "@doxajs/".toList.isPrefixOf name.toList

/-- A text without the mark of a range. -/
def withoutMark : List Char → List Char
  | '~' :: rest => rest
  | '^' :: rest => rest
  | text => text

/-- `versionFromRange`. -/
def versionFromRange (range : String) : Except String String :=
  let version := withoutMark range.toList
  if versionPattern version then .ok (String.ofList version)
  else .error ("Unsupported Doxa dependency range: " ++ range ++
    ". Use a fixed ^version range.")

/-- The ranges of the packages of the framework. -/
def frameworkRanges (packageJson : PackageJson) : List String :=
  dependencySections.flatMap fun name =>
    match packageJson.sections name with
    | none => []
    | some entries => (entries.entries.filter fun entry => isFrameworkName entry.1).map Prod.snd

/-- The elements of a `Set`, in the order in which they were added. -/
def distinctTexts : List String → List String
  | [] => []
  | text :: rest => text :: (distinctTexts rest).filter fun other => other != text

/-- `currentFrameworkVersion`. -/
def currentFrameworkVersion (packageJson : PackageJson) : Except String String :=
  let ranges := frameworkRanges packageJson
  if ranges.isEmpty then
    .error "This application has no direct @doxajs/* dependencies to upgrade."
  else
    (ranges.mapM versionFromRange).bind fun versions =>
      match distinctTexts versions with
      | [version] => .ok version
      | _ => .error ("Doxa dependencies are not aligned: " ++
          ", ".intercalate (distinctTexts ranges) ++ ". Align them before upgrading.")

/-! ### The plan -/

/-- What every object inherits. -/
def inheritedNames : List String :=
  ["constructor", "__defineGetter__", "__defineSetter__", "hasOwnProperty", "__lookupGetter__",
    "__lookupSetter__", "isPrototypeOf", "propertyIsEnumerable", "toString", "valueOf",
    "__proto__", "toLocaleString"]

/-- What is inherited under a name, as a text. -/
def inheritedText (name : String) : String :=
  if name = "__proto__" then "[object Object]"
  else if name = "constructor" then "function Object() \x7b [native code] \x7d"
  else "function " ++ name ++ "() \x7b [native code] \x7d"

/-- What is planned for the packages of a section. -/
def plannedPackages (target : UpgradeTarget) (name : DependencySection) (entries : TextRecord) :
    List String :=
  (entries.entries.filter fun entry => target.lists entry.1 && entry.2 != target.range).map
    fun entry => name.text ++ "." ++ entry.1 ++ ": " ++ entry.2 ++ " -> " ++ target.range

/-- What is planned for a tool. -/
def plannedTool (entries : TextRecord) (name version : String) : List String :=
  match entries.get name with
  | some current =>
    if current ≠ version then
      ["devDependencies." ++ name ++ ": " ++ current ++ " -> " ++ version]
    else []
  | none =>
    if name ∈ inheritedNames then
      ["devDependencies." ++ name ++ ": " ++ inheritedText name ++ " -> " ++ version]
    else []

/-- `plannedChanges`. -/
def plannedChanges (packageJson : PackageJson) (target : UpgradeTarget) : List String :=
  let tools := target.compatibility.toolchain
  let node := packageJson.engines.bind fun engines => engines.get "node"
  (dependencySections.flatMap fun name =>
      match packageJson.sections name with
      | none => []
      | some entries => plannedPackages target name entries) ++
    (if packageJson.packageManager ≠ some tools.packageManager then
        ["packageManager: " ++ packageJson.packageManager.getD "(missing)" ++ " -> " ++
          tools.packageManager]
      else []) ++
    (if node ≠ some tools.node then
        ["engines.node: " ++ node.getD "(missing)" ++ " -> " ++ tools.node]
      else []) ++
    match packageJson.sections .devDependencies with
    | none => []
    | some entries =>
      tools.devDependencies.entries.flatMap fun tool => plannedTool entries tool.1 tool.2

/-! ### What is applied -/

/-- The packages of a section at the range of the target. -/
def applyPackages (target : UpgradeTarget) (entries : TextRecord) : TextRecord :=
  entries.map fun name range => if target.lists name then target.range else range

/-- A tool at its version.  Setting `__proto__`, when it is not a field, to a text does nothing. -/
def applyTool (entries : TextRecord) (name version : String) : TextRecord :=
  match entries.get name with
  | some _ => entries.set name version
  | none =>
    if name ∈ inheritedNames ∧ name ≠ "__proto__" then entries.set name version else entries

/-- The tools at their versions. -/
def applyTools (tools : List (String × String)) (entries : TextRecord) : TextRecord :=
  tools.foldl (fun entries tool => applyTool entries tool.1 tool.2) entries

/-- `applyTarget`. -/
def applyTarget (packageJson : PackageJson) (target : UpgradeTarget) : PackageJson :=
  let tools := target.compatibility.toolchain
  { packageManager := some tools.packageManager
    engines := some ((packageJson.engines.getD .empty).set "node" tools.node)
    sections := fun name =>
      match name with
      | .devDependencies =>
        (packageJson.sections name).map fun entries =>
          applyTools tools.devDependencies.entries (applyPackages target entries)
      | _ => (packageJson.sections name).map (applyPackages target)
    others := packageJson.others }

/-! ### What is promised -/

/-- Nothing is changed but ranges of listed packages and tools, `packageManager` and
`engines.node`. -/
structure OnlyAligns (before after : PackageJson) (target : UpgradeTarget) : Prop where
  others : after.others = before.others
  engines : ∀ name, name ≠ "node" → (after.engines.bind fun engines => engines.get name) =
    before.engines.bind fun engines => engines.get name
  names : ∀ name, (after.sections name).map OrderedMap.keys =
    (before.sections name).map OrderedMap.keys
  ranges : ∀ name entries entries', before.sections name = some entries →
    after.sections name = some entries' → ∀ package, entries'.get package ≠ entries.get package →
      target.lists package = true ∨
        name = .devDependencies ∧ (target.tools.get package).isSome = true

/-- The plan is what is applied. -/
structure UpgradeExact (packageJson : PackageJson) (target : UpgradeTarget) : Prop where
  planned : plannedChanges packageJson target = [] ↔ applyTarget packageJson target = packageJson
  settled : plannedChanges (applyTarget packageJson target) target = []
  onlyAligns : OnlyAligns packageJson (applyTarget packageJson target) target
  aligned : currentFrameworkVersion (applyTarget packageJson target) = .ok target.version

/-- What the target says of the packages of a file does not contradict itself. -/
structure ConsistentTarget (packageJson : PackageJson) (target : UpgradeTarget) : Prop where
  version : versionPattern target.version.toList = true
  /-- A package of the framework is set to the version, or has it. -/
  packages : ∀ name entries package range, packageJson.sections name = some entries →
    entries.get package = some range → isFrameworkName package = true →
      target.lists package = true ∨
        (name = .devDependencies ∧ (target.tools.get package).isSome = true) ∨
          versionFromRange range = .ok target.version
  /-- A tool that is a package of the framework has the version as well. -/
  tools : ∀ entries tool version range,
    packageJson.sections .devDependencies = some entries →
      target.tools.get tool = some version → entries.get tool = some range →
        (target.lists tool = true → version = target.range) ∧
          (isFrameworkName tool = true → versionFromRange version = .ok target.version)
  /-- A tool that is not there has no inherited name. -/
  absent : ∀ entries tool, packageJson.sections .devDependencies = some entries →
    (target.tools.get tool).isSome = true → entries.get tool = none → tool ∉ inheritedNames

/-! ### The version of a file -/

theorem distinctTexts_eq_singleton_iff {texts : List String} {text : String} :
    distinctTexts texts = [text] ↔ texts ≠ [] ∧ ∀ other ∈ texts, other = text := by
  cases texts with
  | nil => simp [distinctTexts]
  | cons first rest =>
    have hmem : ∀ {rest : List String} {other : String},
        other ∈ distinctTexts rest ↔ other ∈ rest := by
      intro rest other
      induction rest with
      | nil => rfl
      | cons first rest ih =>
        rw [distinctTexts, List.mem_cons, List.mem_cons, List.mem_filter, ih]
        by_cases heq : other = first <;> simp [heq]
    rw [distinctTexts, List.cons.injEq, List.filter_eq_nil_iff, List.forall_mem_cons]
    simp only [hmem, bne_iff_ne, ne_eq, not_not, List.cons_ne_nil, not_false_eq_true, true_and]
    constructor
    · rintro ⟨rfl, hrest⟩
      exact ⟨rfl, hrest⟩
    · rintro ⟨rfl, hrest⟩
      exact ⟨rfl, hrest⟩

/-- **A file has a version** when all its packages of the framework have it. -/
theorem currentFrameworkVersion_eq_ok_iff {packageJson : PackageJson} {version : String} :
    currentFrameworkVersion packageJson = .ok version ↔
      frameworkRanges packageJson ≠ [] ∧
        ∀ range ∈ frameworkRanges packageJson, versionFromRange range = .ok version := by
  rw [currentFrameworkVersion]
  cases hranges : frameworkRanges packageJson with
  | nil => simp
  | cons range ranges =>
    rw [if_neg (by simp)]
    change (List.mapM versionFromRange (range :: ranges) >>= _) = _ ↔ _
    rw [Except.bind_eq_ok_iff]
    constructor
    · rintro ⟨versions, hversions, hdistinct⟩
      have hall := Except.mapM_eq_ok_iff.1 hversions
      have hsame : ∀ other ∈ versions, other = version := by
        split at hdistinct
        · rename_i found hfound
          rw [Except.ok.injEq] at hdistinct
          rw [hdistinct] at hfound
          exact (distinctTexts_eq_singleton_iff.1 hfound).2
        · cases hdistinct
      refine ⟨by simp, fun range' hrange' => ?_⟩
      clear hversions hdistinct
      generalize range :: ranges = ranges at hall hrange'
      induction hall with
      | nil => cases hrange'
      | cons hok _ ih =>
        obtain ⟨hfirst, hsame⟩ := List.forall_mem_cons.1 hsame
        rcases List.mem_cons.1 hrange' with rfl | hrange'
        · rw [hok, hfirst]
        · exact ih hsame hrange'
    · rintro ⟨-, hall⟩
      refine ⟨(range :: ranges).map fun _ => version, ?_, ?_⟩
      · rw [Except.mapM_eq_ok_iff, List.forall₂_map_right_iff, List.forall₂_same]
        exact hall
      · have hdistinct : distinctTexts ((range :: ranges).map fun _ => version) = [version] := by
          rw [distinctTexts_eq_singleton_iff]
          simp
        rw [hdistinct]

theorem mem_frameworkRanges {packageJson : PackageJson} {range : String} :
    range ∈ frameworkRanges packageJson ↔ ∃ name entries package,
      packageJson.sections name = some entries ∧ entries.get package = some range ∧
        isFrameworkName package = true := by
  rw [frameworkRanges, List.mem_flatMap]
  constructor
  · rintro ⟨name, -, hrange⟩
    cases hsection : packageJson.sections name with
    | none => simp [hsection] at hrange
    | some entries =>
      rw [hsection] at hrange
      obtain ⟨⟨package, range'⟩, hentry, rfl⟩ := List.mem_map.1 hrange
      obtain ⟨hmem, hname⟩ := List.mem_filter.1 hentry
      exact ⟨name, entries, package, hsection, OrderedMap.get_eq_some_iff.2 hmem, hname⟩
  · rintro ⟨name, entries, package, hsection, hget, hname⟩
    refine ⟨name, ?_, ?_⟩
    · cases name <;> simp [dependencySections]
    · rw [hsection]
      exact List.mem_map.2 ⟨(package, range),
        List.mem_filter.2 ⟨OrderedMap.get_eq_some_iff.1 hget, hname⟩, rfl⟩

/-! ### What is applied -/

/-- Setting the name makes a field of what was inherited. -/
def IsShadowed (name : String) : Prop := name ∈ inheritedNames ∧ name ≠ "__proto__"

instance (name : String) : Decidable (IsShadowed name) := inferInstanceAs (Decidable (_ ∧ _))

theorem get_applyPackages (target : UpgradeTarget) (entries : TextRecord) (name : String) :
    (applyPackages target entries).get name = (entries.get name).map fun range =>
      if target.lists name then target.range else range := OrderedMap.get_map entries _ name

theorem get_applyTool (entries : TextRecord) (tool version name : String) :
    (applyTool entries tool version).get name =
      if name = tool ∧ ((entries.get tool).isSome ∨ IsShadowed tool) then some version
      else entries.get name := by
  rw [applyTool]
  cases hget : entries.get tool with
  | some range => simp [OrderedMap.get_set]
  | none =>
    by_cases hshadowed : IsShadowed tool
    · have hset : (if tool ∈ inheritedNames ∧ tool ≠ "__proto__" then entries.set tool version
          else entries) = entries.set tool version := if_pos hshadowed
      simp only [hset, OrderedMap.get_set, hshadowed]
      simp
    · have hset : (if tool ∈ inheritedNames ∧ tool ≠ "__proto__" then entries.set tool version
          else entries) = entries := if_neg hshadowed
      simp only [hset, hshadowed]
      simp

theorem get_applyTools_of_not_mem {tools : List (String × String)} {name : String}
    (h : name ∉ tools.map Prod.fst) (entries : TextRecord) :
    (applyTools tools entries).get name = entries.get name := by
  induction tools generalizing entries with
  | nil => rfl
  | cons tool tools ih =>
    rw [List.map_cons, List.mem_cons, not_or] at h
    rw [applyTools, List.foldl_cons, ← applyTools, ih h.2, get_applyTool]
    simp [h.1]

/-- **What the tools make of a section.** -/
theorem get_applyTools (tools entries : TextRecord) (name : String) :
    (applyTools tools.entries entries).get name =
      match tools.get name with
      | some version =>
        if (entries.get name).isSome ∨ IsShadowed name then some version else none
      | none => entries.get name := by
  cases hversion : tools.get name with
  | none => exact get_applyTools_of_not_mem (OrderedMap.get_eq_none_iff.1 hversion) entries
  | some version =>
    -- the tools before this one and those after it leave the name alone
    obtain ⟨before, after, hsplit⟩ := List.append_of_mem (OrderedMap.get_eq_some_iff.1 hversion)
    have hnodup := tools.nodup_keys
    rw [hsplit, List.map_append, List.map_cons, List.nodup_append] at hnodup
    obtain ⟨-, hafter, hdisjoint⟩ := hnodup
    have hbefore : name ∉ before.map Prod.fst := fun hmem =>
      hdisjoint name hmem name List.mem_cons_self rfl
    rw [hsplit, applyTools, List.foldl_append, List.foldl_cons, ← applyTools, ← applyTools,
      get_applyTools_of_not_mem (List.nodup_cons.1 hafter).1, get_applyTool,
      get_applyTools_of_not_mem hbefore]
    by_cases hpresent : (entries.get name).isSome ∨ IsShadowed name
    · simp only [hpresent, and_self, if_true]
    · simp only [hpresent, and_false, if_false]
      rw [not_or] at hpresent
      simpa using hpresent.1

/-- A section as it is written. -/
def applySection (target : UpgradeTarget) (name : DependencySection) (entries : TextRecord) :
    TextRecord :=
  match name with
  | .devDependencies =>
    applyTools target.tools.entries (applyPackages target entries)
  | _ => applyPackages target entries

theorem sections_applyTarget (packageJson : PackageJson) (target : UpgradeTarget)
    (name : DependencySection) : (applyTarget packageJson target).sections name =
      (packageJson.sections name).map (applySection target name) := by
  cases name <;> rfl

/-- The range a package has in the end. -/
def finalRange (target : UpgradeTarget) (name : DependencySection) (package range : String) :
    String :=
  let listed := if target.lists package then target.range else range
  match name with
  | .devDependencies => (target.tools.get package).getD listed
  | _ => listed

/-- **The ranges in the end.** -/
theorem get_applySection {target : UpgradeTarget} {name : DependencySection}
    {entries : TextRecord} {package range : String} (h : entries.get package = some range) :
    (applySection target name entries).get package =
      some (finalRange target name package range) := by
  have hpackages : (applyPackages target entries).get package =
      some (if target.lists package then target.range else range) := by
    rw [get_applyPackages, h, Option.map_some]
  cases name with
  | dependencies => exact hpackages
  | optionalDependencies => exact hpackages
  | devDependencies =>
    rw [applySection, get_applyTools, hpackages, finalRange]
    cases target.tools.get package with
    | none => rfl
    | some version => simp

/-- What was not there is there in the end if it was inherited. -/
theorem get_applySection_of_none {target : UpgradeTarget} {name : DependencySection}
    {entries : TextRecord} {package : String} (h : entries.get package = none) :
    (applySection target name entries).get package =
      if name = .devDependencies ∧ IsShadowed package then
        target.tools.get package
      else none := by
  have hpackages : (applyPackages target entries).get package = none := by
    rw [get_applyPackages, h, Option.map_none]
  cases name with
  | dependencies => simpa [applySection] using hpackages
  | optionalDependencies => simpa [applySection] using hpackages
  | devDependencies =>
    rw [applySection, get_applyTools, hpackages]
    cases target.tools.get package with
    | none => simp
    | some version => simp

theorem keys_applyTools {tools : List (String × String)} {entries : TextRecord}
    (h : ∀ tool ∈ tools, tool.1 ∈ entries.keys ∨ ¬IsShadowed tool.1) :
    (applyTools tools entries).keys = entries.keys := by
  induction tools generalizing entries with
  | nil => rfl
  | cons tool tools ih =>
    obtain ⟨htool, htools⟩ := List.forall_mem_cons.1 h
    have hkeys : (applyTool entries tool.1 tool.2).keys = entries.keys := by
      rw [applyTool]
      cases hget : entries.get tool.1 with
      | some range =>
        refine OrderedMap.keys_set_of_mem ?_ tool.2
        by_contra hnot
        rw [OrderedMap.get_eq_none_iff.2 hnot] at hget
        cases hget
      | none =>
        have hnot : ¬IsShadowed tool.1 :=
          htool.resolve_left (OrderedMap.get_eq_none_iff.1 hget)
        exact congrArg OrderedMap.keys (if_neg hnot)
    rw [applyTools, List.foldl_cons, ← applyTools, ih, hkeys]
    rwa [hkeys]

/-! ### The plan -/

theorem plannedPackages_eq_nil_iff {target : UpgradeTarget} {name : DependencySection}
    {entries : TextRecord} : plannedPackages target name entries = [] ↔
      ∀ package range, entries.get package = some range → target.lists package = true →
        range = target.range := by
  rw [plannedPackages, List.map_eq_nil_iff, List.filter_eq_nil_iff]
  constructor
  · intro h package range hget hlists
    have hentry := h _ (OrderedMap.get_eq_some_iff.1 hget)
    simpa [hlists] using hentry
  · rintro h ⟨package, range⟩ hmem
    have hentry := h package range (OrderedMap.get_eq_some_iff.2 hmem)
    simpa using hentry

theorem plannedTool_eq_nil_iff {entries : TextRecord} {name version : String} :
    plannedTool entries name version = [] ↔
      (∀ range, entries.get name = some range → range = version) ∧
        (entries.get name = none → name ∉ inheritedNames) := by
  rw [plannedTool]
  cases entries.get name with
  | none => simp
  | some range => simp

/-- **Nothing is planned** when everything is as the target wants it. -/
theorem plannedChanges_eq_nil_iff {packageJson : PackageJson} {target : UpgradeTarget} :
    plannedChanges packageJson target = [] ↔
      (∀ name entries, packageJson.sections name = some entries → ∀ package range,
        entries.get package = some range → target.lists package = true →
          range = target.range) ∧
        packageJson.packageManager = some target.compatibility.toolchain.packageManager ∧
        (packageJson.engines.bind fun engines => engines.get "node") =
          some target.compatibility.toolchain.node ∧
        ∀ entries, packageJson.sections .devDependencies = some entries →
          ∀ name version, target.tools.get name = some version →
            (∀ range, entries.get name = some range → range = version) ∧
              (entries.get name = none → name ∉ inheritedNames) := by
  rw [plannedChanges, List.append_eq_nil_iff, List.append_eq_nil_iff, List.append_eq_nil_iff,
    and_assoc, and_assoc]
  refine and_congr ?_ (and_congr ?_ (and_congr ?_ ?_))
  · rw [List.flatMap_eq_nil_iff]
    constructor
    · intro h name entries hsection
      have hmem : name ∈ dependencySections := by cases name <;> simp [dependencySections]
      have hplanned := h name hmem
      rw [hsection] at hplanned
      exact plannedPackages_eq_nil_iff.1 hplanned
    · intro h name _
      cases hsection : packageJson.sections name with
      | none => rfl
      | some entries => exact plannedPackages_eq_nil_iff.2 (h name entries hsection)
  · by_cases hmanager : packageJson.packageManager =
        some target.compatibility.toolchain.packageManager
    · simp [hmanager]
    · simp [hmanager]
  · by_cases hnode : (packageJson.engines.bind fun engines => engines.get "node") =
        some target.compatibility.toolchain.node
    · simp [hnode]
    · simp [hnode]
  · cases packageJson.sections .devDependencies with
    | none => simp
    | some entries =>
      simp only [List.flatMap_eq_nil_iff, Option.some.injEq, forall_eq']
      constructor
      · intro h name version hget
        exact plannedTool_eq_nil_iff.1 (h (name, version) (OrderedMap.get_eq_some_iff.1 hget))
      · rintro h ⟨name, version⟩ hmem
        exact plannedTool_eq_nil_iff.2 (h name version (OrderedMap.get_eq_some_iff.2 hmem))

/-! ### The plan is what is applied -/

variable {packageJson : PackageJson} {target : UpgradeTarget}

/-- The version of the target is read from its range. -/
theorem versionFromRange_range (h : versionPattern target.version.toList = true) :
    versionFromRange target.range = .ok target.version := by
  have hmark : withoutMark target.range.toList = target.version.toList := by
    rw [UpgradeTarget.range, String.toList_append]
    rfl
  rw [versionFromRange, hmark, if_pos h, String.ofList_toList]

/-- A version that was read is one. -/
theorem versionPattern_of_versionFromRange {range version : String}
    (h : versionFromRange range = .ok version) : versionPattern version.toList = true := by
  rw [versionFromRange] at h
  split_ifs at h with hpattern
  rw [← Except.ok.inj h, String.toList_ofList]
  exact hpattern

theorem ConsistentTarget.finalRange_of_lists (h : ConsistentTarget packageJson target)
    {name : DependencySection} {entries : TextRecord} {package range : String}
    (hsection : packageJson.sections name = some entries)
    (hget : entries.get package = some range) (hlists : target.lists package = true) :
    finalRange target name package range = target.range := by
  cases name with
  | dependencies => simp [finalRange, hlists]
  | optionalDependencies => simp [finalRange, hlists]
  | devDependencies =>
    cases htool : target.tools.get package with
    | none => simp [finalRange, hlists, htool]
    | some version =>
      have hversion := (h.tools entries package version range hsection htool hget).1 hlists
      simp [finalRange, htool, hversion]

/-- **Every package of the framework has the version of the target in the end.** -/
theorem ConsistentTarget.versionFromRange_finalRange (h : ConsistentTarget packageJson target)
    {name : DependencySection} {entries : TextRecord} {package range : String}
    (hsection : packageJson.sections name = some entries)
    (hget : entries.get package = some range) (hname : isFrameworkName package = true) :
    versionFromRange (finalRange target name package range) = .ok target.version := by
  by_cases hlists : target.lists package = true
  · rw [h.finalRange_of_lists hsection hget hlists]
    exact versionFromRange_range h.version
  · have hpackage := (h.packages name entries package range hsection hget hname).resolve_left hlists
    have hkept : target.tools.get package = none ∨ name ≠ .devDependencies →
        versionFromRange range = .ok target.version := by
      rintro (hnone | hne)
      · simpa [hnone] using hpackage
      · simpa [hne] using hpackage
    cases name with
    | dependencies => simpa [finalRange, hlists] using hkept (.inr (by simp))
    | optionalDependencies => simpa [finalRange, hlists] using hkept (.inr (by simp))
    | devDependencies =>
      cases htool : target.tools.get package with
      | none => simpa [finalRange, hlists, htool] using hkept (.inl htool)
      | some version =>
        have hversion := (h.tools entries package version range hsection htool hget).2 hname
        simpa [finalRange, htool] using hversion

theorem ConsistentTarget.keys_applySection (h : ConsistentTarget packageJson target)
    {name : DependencySection} {entries : TextRecord}
    (hsection : packageJson.sections name = some entries) :
    (applySection target name entries).keys = entries.keys := by
  have hpackages : (applyPackages target entries).keys = entries.keys :=
    OrderedMap.keys_map entries _
  cases name with
  | dependencies => exact hpackages
  | optionalDependencies => exact hpackages
  | devDependencies =>
    rw [applySection, keys_applyTools, hpackages]
    intro tool htool
    rw [hpackages]
    by_cases hmem : tool.1 ∈ entries.keys
    · exact .inl hmem
    · right
      intro hshadowed
      have hget : target.tools.get tool.1 = some tool.2 := OrderedMap.get_eq_some_iff.2 htool
      exact h.absent entries tool.1 hsection (by simp [hget])
        (OrderedMap.get_eq_none_iff.2 hmem) hshadowed.1

/-- What is there in the end was there before. -/
theorem ConsistentTarget.exists_of_get (h : ConsistentTarget packageJson target)
    {name : DependencySection} {entries' : TextRecord} {package range' : String}
    (hsection : (applyTarget packageJson target).sections name = some entries')
    (hget : entries'.get package = some range') :
    ∃ entries range, packageJson.sections name = some entries ∧
      entries' = applySection target name entries ∧ entries.get package = some range ∧
        range' = finalRange target name package range := by
  rw [sections_applyTarget] at hsection
  obtain ⟨entries, hentries, rfl⟩ := Option.map_eq_some_iff.1 hsection
  cases hrange : entries.get package with
  | none =>
    have hkeys := h.keys_applySection hentries
    have hnot := OrderedMap.get_eq_none_iff.1 hrange
    rw [← hkeys, ← OrderedMap.get_eq_none_iff, hget] at hnot
    cases hnot
  | some range =>
    rw [get_applySection hrange] at hget
    exact ⟨entries, range, hentries, rfl, hrange, (Option.some.inj hget).symm⟩

/-- A second plan is empty. -/
theorem ConsistentTarget.settled (h : ConsistentTarget packageJson target) :
    plannedChanges (applyTarget packageJson target) target = [] := by
  refine plannedChanges_eq_nil_iff.2 ⟨?_, rfl, ?_, ?_⟩
  · intro name entries' hsection package range' hget hlists
    obtain ⟨entries, range, hentries, -, hrange, rfl⟩ := h.exists_of_get hsection hget
    exact h.finalRange_of_lists hentries hrange hlists
  · rw [applyTarget]
    simp [OrderedMap.get_set]
  · intro entries' hsection name version htool
    refine ⟨fun range' hget => ?_, fun hnone => ?_⟩
    · obtain ⟨entries, range, -, -, -, rfl⟩ := h.exists_of_get hsection hget
      simp [finalRange, htool]
    · rw [sections_applyTarget] at hsection
      obtain ⟨entries, hentries, rfl⟩ := Option.map_eq_some_iff.1 hsection
      rw [OrderedMap.get_eq_none_iff, h.keys_applySection hentries] at hnone
      exact h.absent entries name hentries (by simp [htool]) (OrderedMap.get_eq_none_iff.2 hnone)

/-- When nothing is planned nothing is changed. -/
theorem ConsistentTarget.applyTarget_eq (h : ConsistentTarget packageJson target)
    (hplanned : plannedChanges packageJson target = []) :
    applyTarget packageJson target = packageJson := by
  obtain ⟨hpackages, hmanager, hnode, htools⟩ := plannedChanges_eq_nil_iff.1 hplanned
  refine PackageJson.ext hmanager.symm ?_ ?_ rfl
  · cases hengines : packageJson.engines with
    | none => simp [hengines] at hnode
    | some engines =>
      rw [hengines, Option.bind_some] at hnode
      have hmem : "node" ∈ engines.keys := by
        by_contra hnot
        rw [OrderedMap.get_eq_none_iff.2 hnot] at hnode
        cases hnode
      rw [applyTarget, hengines]
      refine congrArg some (OrderedMap.ext_of_get (OrderedMap.keys_set_of_mem hmem _) ?_)
      intro name
      rw [Option.getD_some, OrderedMap.get_set]
      split_ifs with hname
      · rw [hname, hnode]
      · rfl
  · funext name
    rw [sections_applyTarget]
    cases hsection : packageJson.sections name with
    | none => rfl
    | some entries =>
      have hkeys := h.keys_applySection hsection
      refine congrArg some (OrderedMap.ext_of_get hkeys fun package => ?_)
      cases hget : entries.get package with
      | none =>
        rw [OrderedMap.get_eq_none_iff, hkeys]
        exact OrderedMap.get_eq_none_iff.1 hget
      | some range =>
        rw [get_applySection hget]
        have hlisted : (if target.lists package then target.range else range) = range := by
          split_ifs with hlists
          · exact (hpackages name entries hsection package range hget hlists).symm
          · rfl
        cases name with
        | dependencies => simp only [finalRange, hlisted]
        | optionalDependencies => simp only [finalRange, hlisted]
        | devDependencies =>
          simp only [finalRange, hlisted]
          cases htool : target.tools.get package with
          | none => rfl
          | some version =>
            have hrange := (htools entries hsection package version htool).1 range hget
            simp [hrange]

theorem ConsistentTarget.onlyAligns (h : ConsistentTarget packageJson target) :
    OnlyAligns packageJson (applyTarget packageJson target) target := by
  refine ⟨rfl, ?_, ?_, ?_⟩
  · intro name hname
    rw [applyTarget]
    cases packageJson.engines with
    | none => simp [OrderedMap.get_set, hname, OrderedMap.get_empty]
    | some engines => simp [OrderedMap.get_set, hname]
  · intro name
    rw [sections_applyTarget]
    cases hsection : packageJson.sections name with
    | none => rfl
    | some entries => exact congrArg some (h.keys_applySection hsection)
  · intro name entries entries' hsection hsection' package hchanged
    cases hget : entries'.get package with
    | none =>
      rw [sections_applyTarget, hsection] at hsection'
      cases hsection'
      have hbefore : entries.get package = none := by
        rwa [OrderedMap.get_eq_none_iff, ← h.keys_applySection hsection,
          ← OrderedMap.get_eq_none_iff]
      rw [hget, hbefore] at hchanged
      exact absurd rfl hchanged
    | some range' =>
      obtain ⟨entries'', range, hentries, -, hrange, rfl⟩ := h.exists_of_get hsection' hget
      rw [hsection] at hentries
      cases hentries
      rw [hget, hrange, Ne, Option.some.injEq] at hchanged
      by_contra hneither
      rw [not_or, not_and] at hneither
      obtain ⟨hlists, htool⟩ := hneither
      refine hchanged ?_
      cases name with
      | dependencies => simp [finalRange, hlists]
      | optionalDependencies => simp [finalRange, hlists]
      | devDependencies =>
        have hnone : target.tools.get package = none := by simpa using htool rfl
        simp [finalRange, hlists, hnone]

/-- **The plan is what is applied**, and the file that is written is accepted, just when the target
is consistent. -/
theorem upgrade_exact_iff {current : String}
    (haccepted : currentFrameworkVersion packageJson = .ok current) :
    UpgradeExact packageJson target ↔ ConsistentTarget packageJson target := by
  obtain ⟨hne, -⟩ := currentFrameworkVersion_eq_ok_iff.1 haccepted
  obtain ⟨someRange, hsome⟩ := List.exists_mem_of_ne_nil _ hne
  obtain ⟨someName, someEntries, somePackage, hsomeSection, hsomeGet, hsomeName⟩ :=
    mem_frameworkRanges.1 hsome
  constructor
  · intro h
    have haligned : ∀ name entries package range, packageJson.sections name = some entries →
        entries.get package = some range → isFrameworkName package = true →
          versionFromRange (finalRange target name package range) = .ok target.version := by
      intro name entries package range hsection hget hname
      refine (currentFrameworkVersion_eq_ok_iff.1 h.aligned).2 _ (mem_frameworkRanges.2
        ⟨name, applySection target name entries, package, ?_, get_applySection hget, hname⟩)
      rw [sections_applyTarget, hsection, Option.map_some]
    obtain ⟨hpackages, -, -, htools⟩ := plannedChanges_eq_nil_iff.1 h.settled
    refine ⟨versionPattern_of_versionFromRange
      (haligned _ _ _ _ hsomeSection hsomeGet hsomeName), ?_, ?_, ?_⟩
    · intro name entries package range hsection hget hname
      by_contra hneither
      rw [not_or, not_or, not_and] at hneither
      obtain ⟨hlists, htool, hrange⟩ := hneither
      refine hrange ?_
      have hfinal := haligned name entries package range hsection hget hname
      cases name with
      | dependencies => simpa [finalRange, hlists] using hfinal
      | optionalDependencies => simpa [finalRange, hlists] using hfinal
      | devDependencies =>
        have hnone : target.tools.get package = none := by simpa using htool rfl
        simpa [finalRange, hlists, hnone] using hfinal
    · intro entries tool version range hsection htool hget
      have hfinal : finalRange target .devDependencies tool range = version := by
        simp [finalRange, htool]
      refine ⟨fun hlists => ?_, fun hname => ?_⟩
      · refine hpackages .devDependencies
          (applySection target .devDependencies entries) ?_ tool version ?_ hlists
        · rw [sections_applyTarget, hsection, Option.map_some]
        · rw [get_applySection hget, hfinal]
      · have hversion := haligned _ entries tool range hsection hget hname
        rwa [hfinal] at hversion
    · intro entries tool hsection htool hget hinherited
      obtain ⟨version, hversion⟩ := Option.isSome_iff_exists.1 htool
      have hsection' : (applyTarget packageJson target).sections
          .devDependencies =
            some (applySection target .devDependencies entries) := by
        rw [sections_applyTarget, hsection, Option.map_some]
      have hfinal := @get_applySection_of_none target .devDependencies entries
        tool hget
      by_cases hproto : tool = "__proto__"
      · -- the name is planned again and again
        refine (htools _ hsection' tool version hversion).2 ?_ hinherited
        rw [hfinal, if_neg fun hboth => hboth.2.2 hproto]
      · -- the name is added
        have hnames := h.onlyAligns.names .devDependencies
        rw [hsection', hsection, Option.map_some, Option.map_some, Option.some.injEq] at hnames
        rw [OrderedMap.get_eq_none_iff, ← hnames, ← OrderedMap.get_eq_none_iff, hfinal,
          if_pos ⟨rfl, hinherited, hproto⟩, hversion] at hget
        cases hget
  · intro h
    refine ⟨⟨h.applyTarget_eq, fun heq => ?_⟩, h.settled, h.onlyAligns, ?_⟩
    · have hsettled := h.settled
      rwa [heq] at hsettled
    · refine currentFrameworkVersion_eq_ok_iff.2 ⟨?_, ?_⟩
      · refine List.ne_nil_of_mem (mem_frameworkRanges.2
          ⟨someName, applySection target someName someEntries, somePackage, ?_,
            get_applySection hsomeGet, hsomeName⟩)
        rw [sections_applyTarget, hsomeSection, Option.map_some]
      · intro range' hrange'
        obtain ⟨name, entries', package, hsection, hget, hname⟩ := mem_frameworkRanges.1 hrange'
        obtain ⟨entries, range, hentries, -, hrange, rfl⟩ := h.exists_of_get hsection hget
        exact h.versionFromRange_finalRange hentries hrange hname

/-! ### A package that the target does not list -/

/-- A file with packages of the framework, all of one version. -/
def frameworkFile (packages : List String) : PackageJson where
  packageManager := some "pnpm@10.0.0"
  engines := some (OrderedMap.empty.set "node" ">=24")
  sections
    | .dependencies =>
      some (OrderedMap.empty.setAll (packages.map fun package => (package, "^1.0.0")))
    | _ => none
  others := []

/-- A release that lists one package. -/
def coreRelease : UpgradeTarget where
  version := "1.1.0"
  compatibility :=
    { frameworkPackages := ["@doxajs/core"]
      toolchain :=
        { node := ">=24"
          packageManager := "pnpm@10.0.0"
          devDependencies := .empty } }

/-- A package the release does not list keeps its range, and the file that is written is refused. -/
theorem unlisted_package_refused :
    currentFrameworkVersion (frameworkFile ["@doxajs/core", "@doxajs/charts"]) =
        .ok "1.0.0" ∧
      currentFrameworkVersion
          (applyTarget (frameworkFile ["@doxajs/core", "@doxajs/charts"]) coreRelease) =
        .error ("Doxa dependencies are not aligned: ^1.1.0, ^1.0.0. " ++
          "Align them before upgrading.") ∧
      ¬UpgradeExact (frameworkFile ["@doxajs/core", "@doxajs/charts"]) coreRelease := by
  have hrefused : currentFrameworkVersion
      (applyTarget (frameworkFile ["@doxajs/core", "@doxajs/charts"]) coreRelease) =
        .error ("Doxa dependencies are not aligned: ^1.1.0, ^1.0.0. " ++
          "Align them before upgrading.") := by rfl
  refine ⟨by rfl, hrefused, fun h => ?_⟩
  have haligned := h.aligned
  rw [hrefused] at haligned
  cases haligned

theorem upgrade_exact_iff_core : UpgradeExact (frameworkFile ["@doxajs/core"]) coreRelease := by
  refine (upgrade_exact_iff (show currentFrameworkVersion (frameworkFile ["@doxajs/core"]) =
    .ok "1.0.0" by rfl)).2 ⟨by rfl, ?_, ?_, ?_⟩
  · intro name entries package range hsection hget _
    left
    cases name with
    | dependencies =>
      cases hsection
      have hmem := OrderedMap.get_eq_some_iff.1 hget
      have hentry : (package, range) = ("@doxajs/core", "^1.0.0") := List.mem_singleton.1 hmem
      rw [(Prod.mk.inj hentry).1]
      rfl
    | devDependencies => cases hsection
    | optionalDependencies => cases hsection
  · intro entries tool version range hsection
    cases hsection
  · intro entries tool hsection
    cases hsection

end Doxa
