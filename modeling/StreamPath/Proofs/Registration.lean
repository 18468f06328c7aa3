/-
What it takes for a registration to count. Each namespace stands for the functions of at most one
host: those of the class that its spelling names, whether or not there is such a class, and
otherwise those of its script engine. Whatever is done to a registry leaves a namespace alone unless
it registers a class of that name or a script engine there, and so what a namespace stands for is
told by the last registration that could reach it. A script engine that is registered for the
namespace of a class never does, although its registration succeeds.
-/

import StreamPath.Proofs.ExternalFunctions

namespace StreamPath

/-- The functions of a host, by their local names. -/
structure HostFunctions where
  has : String → Bool
  run : String → HostBody

namespace HostFunctions

/-- A host without functions. -/
def none : HostFunctions where
  has _ := false
  run _ _ := .error ""

def ofClass (hostClass : HostClass) : HostFunctions := ⟨hostClass.hasMethod, hostClass.invoke⟩

def ofScript (engine : ScriptEngine) : HostFunctions := ⟨engine.hasFunction, engine.call⟩

end HostFunctions

namespace Registry

variable {registry registered : Registry} {uri : String}

/-! ### What a namespace stands for -/

/-- A namespace is that of a class exactly if the name of the class stands behind the prefix for
classes. -/
theorem className?_eq_some_iff {name : String} :
    className? uri = some name ↔ uri = classNamespace ++ name := by
  unfold className?
  constructor
  · intro found
    obtain ⟨rest, reads, rfl⟩ := Option.map_eq_some_iff.mp found
    rw [← String.toList_inj, String.toList_append, String.toList_ofList]
    exact Text.afterFront_eq_some_iff.mp reads
  · rintro rfl
    rw [String.toList_append, Text.afterFront_eq_some_iff.mpr rfl, Option.map_some,
      String.ofList_toList]

/-- What a namespace stands for. -/
def provided (registry : Registry) (uri : String) : HostFunctions :=
  match className? uri with
  | some className => (registry.classes.get? className).elim .none .ofClass
  | none => (registry.scripts.get? uri).elim .none .ofScript

/-- A function of the host is found exactly if the namespace of its name provides it. -/
theorem external?_eq_some_iff {name : ExpandedName} {function : Function} :
    registry.external? name = some function ↔
      (registry.provided name.uri).has name.localName = true ∧
        .ofHost name ((registry.provided name.uri).run name.localName) = function := by
  unfold external? provided
  cases className? name.uri with
  | some className =>
    dsimp only
    cases registry.classes.get? className with
    | none => simp [HostFunctions.none]
    | some hostClass => simp [HostFunctions.ofClass]
  | none =>
    dsimp only
    cases registry.scripts.get? name.uri with
    | none => simp [HostFunctions.none]
    | some engine => simp [HostFunctions.ofScript]

/-- Whether a namespace stands for the functions of a host: any name in it that is not registered by
itself can be called, with any number of arguments, exactly if the host has the function, and to
call it is to run that function. -/
def Serves (registry : Registry) (uri : String) (host : HostFunctions) : Prop :=
  ∀ localName, registry.get? ⟨uri, localName⟩ = none → ∀ count location,
    ((∃ function, registry.resolve ⟨uri, localName⟩ count location = .ok function) ↔
      host.has localName = true) ∧
    ∀ function, registry.resolve ⟨uri, localName⟩ count location = .ok function →
      ∀ context top arguments, function.call context top arguments =
        (host.run localName arguments).mapError
          (.functionError (ExpandedName.text ⟨uri, localName⟩))

/-- While functions of the host are switched on, calls reach what a namespace stands for. -/
theorem serves_provided (allowed : registry.allowsExternal = true) (uri : String) :
    registry.Serves uri (registry.provided uri) := by
  intro localName absent count location
  have resolves : ∀ function, registry.resolve ⟨uri, localName⟩ count location = .ok function ↔
      (registry.provided uri).has localName = true ∧
        Function.ofHost ⟨uri, localName⟩ ((registry.provided uri).run localName) = function := by
    intro function
    rw [resolve_ok_iff, Offers, absent, allowed, external?_eq_some_iff]
    simp only [reduceCtorEq, false_or, true_and]
    refine and_iff_right_of_imp ?_
    rintro ⟨_, rfl⟩
    rfl
  constructor
  · simp only [resolves, exists_and_left, exists_eq', and_true]
  · intro function found context top arguments
    obtain ⟨_, rfl⟩ := (resolves function).mp found
    rfl

/-! ### What changes it -/

theorem provided_insertClass (registry : Registry) (hostClass : HostClass) (uri : String) :
    provided { registry with classes := registry.classes.insert hostClass.name hostClass } uri =
      if className? uri = some hostClass.name then .ofClass hostClass
        else registry.provided uri := by
  unfold provided
  cases className? uri with
  | none => rw [if_neg nofun]
  | some className =>
    dsimp only
    rw [Table.get?_insert]
    by_cases same : hostClass.name = className
    · rw [if_pos same, if_pos (congrArg some same.symm)]
      rfl
    · rw [if_neg same, if_neg fun equal => same (Option.some.inj equal).symm]

theorem provided_insertScript (registry : Registry) (engine : ScriptEngine) (taken uri : String) :
    ({ registry with scripts := registry.scripts.insert taken engine } : Registry).provided uri =
      if taken = uri ∧ className? uri = none then .ofScript engine else registry.provided uri := by
  unfold provided
  cases className? uri with
  | some className => rw [if_neg fun both => nomatch both.2]
  | none =>
    dsimp only
    rw [Table.get?_insert]
    by_cases same : taken = uri
    · rw [if_pos same, if_pos ⟨same, rfl⟩]
      rfl
    · rw [if_neg same, if_neg fun both => same both.1]

/-- A class can be registered exactly while functions of the host are switched on. -/
theorem registerClass_ok_iff {hostClass : HostClass} :
    registry.registerClass hostClass = .ok registered ↔ registry.allowsExternal = true ∧
      { registry with classes := registry.classes.insert hostClass.name hostClass } =
        registered := by
  unfold registerClass
  split <;> simp [*]

/-- A script engine can be registered exactly while functions of the host are switched on. -/
theorem registerScript_ok_iff {engine : ScriptEngine} :
    registry.registerScript uri engine = .ok registered ↔ registry.allowsExternal = true ∧
      { registry with scripts := registry.scripts.insert uri engine } = registered := by
  unfold registerScript
  split <;> simp [*]

/-- Whether an operation is for the class or the script engine that a namespace can stand for. -/
def Operation.Reaches (uri : String) : Operation → Prop
  | registerClass hostClass => className? uri = some hostClass.name
  | registerScript taken _ => taken = uri ∧ className? uri = none
  | register _ | allowExternal _ => False

/-- An operation that is for none of them leaves a namespace alone, whether it is refused or not. -/
theorem provided_perform {operation : Operation} (other : ¬operation.Reaches uri) :
    (registry.perform operation).provided uri = registry.provided uri := by
  cases operation with
  | register | allowExternal => rfl
  | registerClass hostClass =>
    rw [perform, attempt, registerClass]
    split
    · exact (provided_insertClass registry hostClass uri).trans (if_neg other)
    · rfl
  | registerScript taken engine =>
    rw [perform, attempt, registerScript]
    split
    · exact (provided_insertScript registry engine taken uri).trans (if_neg other)
    · rfl

/-- Operations that do not reach a namespace leave what it stands for. -/
theorem provided_foldl_perform {later : List Operation}
    (others : ∀ operation ∈ later, ¬operation.Reaches uri) :
    (later.foldl perform registry).provided uri = registry.provided uri := by
  induction later generalizing registry with
  | nil => rfl
  | cons operation later inductionHypothesis =>
    obtain ⟨other, others⟩ := List.forall_mem_cons.mp others
    rw [List.foldl_cons, inductionHypothesis others, provided_perform other]

theorem not_reaches_of_class {name : String} {later : List Operation}
    (others : ∀ other, .registerClass other ∈ later → other.name ≠ name) :
    ∀ operation ∈ later, ¬operation.Reaches (classNamespace ++ name) := by
  have named : className? (classNamespace ++ name) = some name := className?_eq_some_iff.mpr rfl
  intro operation listed reaches
  cases operation with
  | register | allowExternal => exact reaches
  | registerClass other =>
    exact others other listed (Option.some.inj (reaches.symm.trans named))
  | registerScript taken engine => cases named.symm.trans reaches.2

theorem not_reaches_of_script (plain : className? uri = none) {later : List Operation}
    (others : ∀ other, .registerScript uri other ∉ later) :
    ∀ operation ∈ later, ¬operation.Reaches uri := by
  intro operation listed reaches
  cases operation with
  | register | allowExternal => exact reaches
  | registerClass other => cases plain.symm.trans reaches
  | registerScript taken engine =>
    obtain ⟨rfl, _⟩ := reaches
    exact others engine listed

/-- A registration counts, for as long as functions of the host are switched on, until the same
class or script engine is registered again. A script engine that is registered in the namespace of a
class never counts: the namespace goes on to stand for what it stood for before. That namespace is
only looked up among the classes. -/
theorem registration_counts (registry : Registry) (later : List Operation) :
    (∀ hostClass registered, registry.registerClass hostClass = .ok registered →
      (∀ other, .registerClass other ∈ later → other.name ≠ hostClass.name) →
        let final := later.foldl perform registered
        final.allowsExternal = true →
          final.Serves (classNamespace ++ hostClass.name) (.ofClass hostClass)) ∧
    ∀ uri engine registered, registry.registerScript uri engine = .ok registered →
      let final := later.foldl perform registered
      final.allowsExternal = true →
        ((∀ name, uri ≠ classNamespace ++ name) → (∀ other, .registerScript uri other ∉ later) →
          final.Serves uri (.ofScript engine)) ∧
        ∀ name, uri = classNamespace ++ name →
          (∀ other, .registerClass other ∈ later → other.name ≠ name) →
            final.Serves uri (registry.provided uri) := by
  constructor
  · intro hostClass registered registers others final allowed
    obtain ⟨_, rfl⟩ := registerClass_ok_iff.mp registers
    have counts : final.provided (classNamespace ++ hostClass.name) = .ofClass hostClass := by
      rw [provided_foldl_perform (not_reaches_of_class others), provided_insertClass,
        if_pos (className?_eq_some_iff.mpr rfl)]
    exact counts ▸ serves_provided allowed _
  · intro uri engine registered registers final allowed
    obtain ⟨_, rfl⟩ := registerScript_ok_iff.mp registers
    constructor
    · intro plain others
      have unnamed : className? uri = none :=
        Option.eq_none_iff_forall_ne_some.mpr fun name named =>
          plain name (className?_eq_some_iff.mp named)
      have counts : final.provided uri = .ofScript engine := by
        rw [provided_foldl_perform (not_reaches_of_script unnamed others), provided_insertScript,
          if_pos ⟨rfl, unnamed⟩]
      exact counts ▸ serves_provided allowed _
    · rintro name rfl others
      have named := className?_eq_some_iff.mpr (Eq.refl (classNamespace ++ name))
      have stays : final.provided (classNamespace ++ name) =
          registry.provided (classNamespace ++ name) := by
        rw [provided_foldl_perform (not_reaches_of_class others), provided_insertScript,
          if_neg fun both => Option.some_ne_none name (named.symm.trans both.2)]
      exact stays ▸ serves_provided allowed _

/-- A class and a script engine stay callable while others are registered and the functions of the
host are switched off and on again. -/
theorem registration_counts_switchedOn :
    let hostClass :=
      HostClass.ofMethods "Text" (Table.empty.insert "repeat" fun _ => .ok (.ofString "xx"))
    let engine : ScriptEngine := { language := "script", call := fun name _ => .error name }
    let registry : Registry := { withLibrary with allowsExternal := true }
    let later : List Operation := [.registerScript (classNamespace ++ "Text") engine,
      .registerClass (HostClass.ofMethods "Counter" Table.empty), .allowExternal false,
      .allowExternal true]
    (∃ registered, registry.registerClass hostClass = .ok registered ∧ ∃ function,
      (later.foldl perform registered).resolve ⟨classNamespace ++ "Text", "repeat"⟩ 2 {} =
          .ok function ∧
        ∀ context, function.call context 1 [] = .ok (.ofString "xx")) ∧
    ∃ registered, registry.registerScript "urn:s" engine = .ok registered ∧ ∃ function,
      (later.foldl perform registered).resolve ⟨"urn:s", "zip"⟩ 0 {} = .ok function ∧
        ∀ context, function.call context 1 [] =
          .error (.functionError "\x7burn:s\x7dzip" "zip") := by
  intro hostClass engine registry later
  constructor
  · obtain ⟨counts, _⟩ := registration_counts registry later
    refine ⟨_, rfl, ?_⟩
    have others : ∀ other, Operation.registerClass other ∈ later → other.name ≠ hostClass.name := by
      intro other listed
      simp only [later, List.mem_cons, List.not_mem_nil, reduceCtorEq,
        Operation.registerClass.injEq, false_or, or_false] at listed
      obtain rfl := listed
      decide
    obtain ⟨resolves, runs⟩ := counts hostClass _ rfl others rfl "repeat" (by decide +kernel) 2 {}
    obtain ⟨function, found⟩ := resolves.mpr (by decide +kernel)
    exact ⟨function, found, fun context => runs function found context 1 []⟩
  · obtain ⟨_, counts⟩ := registration_counts registry later
    refine ⟨_, rfl, ?_⟩
    have plain : ∀ name, "urn:s" ≠ classNamespace ++ name := by
      intro name same
      have named := className?_eq_some_iff.mpr same
      rw [show className? "urn:s" = none by decide +kernel] at named
      cases named
    have others : ∀ other, Operation.registerScript "urn:s" other ∉ later := by
      intro other listed
      simp [later, classNamespace] at listed
    obtain ⟨resolves, runs⟩ :=
      (counts "urn:s" engine _ rfl rfl).1 plain others "zip" (by decide +kernel) 0 {}
    obtain ⟨function, found⟩ := resolves.mpr rfl
    exact ⟨function, found, fun context => runs function found context 1 []⟩

/-- A script engine whose registration in the namespace of a class succeeds, and has no effect. -/
theorem registration_lost_in_class_namespace :
    let uri := classNamespace ++ "Text"
    let engine : ScriptEngine := { language := "join", call := fun _ _ => .ok .empty }
    let registry : Registry := { withLibrary with allowsExternal := true }
    ∃ registered, registry.registerScript uri engine = .ok registered ∧
      registered.allowsExternal = true ∧ registered.get? ⟨uri, "join"⟩ = none ∧
      engine.hasFunction "join" = true ∧
      (¬∃ function, registered.resolve ⟨uri, "join"⟩ 1 {} = .ok function) ∧
      ¬registered.Serves uri (.ofScript engine) := by
  intro uri engine registry
  let registered : Registry := { registry with scripts := registry.scripts.insert uri engine }
  have absent : registered.get? ⟨uri, "join"⟩ = none := by decide +kernel
  have refused : (registered.resolve ⟨uri, "join"⟩ 1 {}).toOption.isSome = false := by
    decide +kernel
  have lost : ¬∃ function, registered.resolve ⟨uri, "join"⟩ 1 {} = .ok function := by
    rintro ⟨function, found⟩
    rw [found] at refused
    cases refused
  exact ⟨registered, registerScript_ok_iff.mpr ⟨rfl, rfl⟩, rfl, absent, rfl, lost,
    fun serves => lost ((serves "join" absent 1 {}).1.mpr rfl)⟩

end Registry

end StreamPath
