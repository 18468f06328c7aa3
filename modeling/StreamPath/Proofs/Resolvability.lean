/-
Which expressions can be compiled. Compiling needs a namespace for every prefix, a function for
every call and, along the attribute, self and parent axes, a test that the axis allows; these are
conditions on single places of an expression, and they can fail nowhere else. An expression that
comes from a text can be compiled exactly if they hold everywhere in it. What compiling reports
otherwise is never an error after which evaluation might go on, and never that a path leads nowhere.
-/

import StreamPath.Compile
import StreamPath.Proofs.Formation

namespace StreamPath

/-! ### Results that a condition decides -/

/-- Whether an error is one that refuses a text. That a path leads nowhere is not among them. -/
def ExprError.isRefusal : ExprError → Bool
  | malformed _ .emptyPath _ => false
  | malformed _ _ _ | undeclaredPrefix _ _ | unknownFunction _ _ | wrongArity _ _ _ _
  | externalFunctionsDisabled _ => true
  | _ => false

/-- No error that refuses a text is one after which evaluation goes on. -/
theorem ExprError.isRecoverable_of_isRefusal {error : ExprError}
    (refuses : error.isRefusal = true) :
    error.isRecoverable = false := by
  cases error <;> first | rfl | cases refuses

/-- A path that leads nowhere does not refuse a text. -/
theorem ExprError.ne_emptyPath_of_isRefusal {error : ExprError} (refuses : error.isRefusal = true)
    (text : String) (location : Location) : error ≠ .malformed text .emptyPath location := by
  rintro rfl
  cases refuses

/-- Whether a result is a value exactly under a condition, and otherwise an error that refuses the
text. -/
structure Decides {α : Type} (condition : Prop) (result : Except ExprError α) : Prop where
  ok_iff : (∃ value, result = .ok value) ↔ condition
  refuses : ∀ error, result = .error error → error.isRefusal = true

/-- Two parts fail with refusals only if each of them does. -/
theorem ExprError.isRefusal_of_bind {α β : Type} {result : Except ExprError α}
    {next : α → Except ExprError β} {error : ExprError}
    (first : ∀ error, result = .error error → error.isRefusal = true)
    (each : ∀ value, result = .ok value → ∀ error, next value = .error error →
      error.isRefusal = true)
    (fails : (result >>= next) = .error error) : error.isRefusal = true := by
  cases result with
  | ok value => exact each value rfl error fails
  | error early =>
    obtain rfl := Except.error.inj fails
    exact first _ rfl

namespace Decides

variable {α β : Type} {condition other : Prop} {result : Except ExprError α}

theorem ok (value : α) : Decides True (.ok value) where
  ok_iff := ⟨fun _ => trivial, fun _ => ⟨value, rfl⟩⟩
  refuses _ := nofun

theorem error {error : ExprError} (refuses : error.isRefusal = true) :
    Decides False (.error error : Except ExprError α) where
  ok_iff := ⟨nofun, nofun⟩
  refuses := by
    rintro _ ⟨⟩
    exact refuses

/-- The condition may be put into other words. -/
theorem congr (decides : Decides condition result) (same : condition ↔ other) :
    Decides other result :=
  ⟨decides.ok_iff.trans same, decides.refuses⟩

/-- Two parts together succeed exactly if the first has a value for which the second succeeds. -/
theorem bind {next : α → Except ExprError β} {wanted : α → Prop} (first : Decides condition result)
    (each : ∀ value, result = .ok value → Decides (wanted value) (next value)) :
    Decides (∃ value, result = .ok value ∧ wanted value) (result >>= next) where
  ok_iff := by
    constructor
    · rintro ⟨value, ended⟩
      obtain ⟨middle, found, ended⟩ := ok_bind_iff.mp ended
      exact ⟨middle, found, (each middle found).ok_iff.mp ⟨value, ended⟩⟩
    · rintro ⟨middle, found, holds⟩
      obtain ⟨value, ended⟩ := (each middle found).ok_iff.mpr holds
      exact ⟨value, ok_bind_iff.mpr ⟨middle, found, ended⟩⟩
  refuses _ := ExprError.isRefusal_of_bind first.refuses fun value found =>
    (each value found).refuses

/-- If what comes second is decided by a condition of its own, both conditions count. -/
theorem andThen {next : α → Except ExprError β} (first : Decides condition result)
    (each : ∀ value, result = .ok value → Decides other (next value)) :
    Decides (condition ∧ other) (result >>= next) := by
  refine (first.bind each).congr ?_
  rw [← first.ok_iff]
  constructor
  · rintro ⟨value, found, holds⟩
    exact ⟨⟨value, found⟩, holds⟩
  · rintro ⟨⟨value, found⟩, holds⟩
    exact ⟨value, found, holds⟩

theorem thenOk {f : α → β} (first : Decides condition result) :
    Decides condition (result >>= fun value => .ok (f value)) :=
  (first.andThen fun value _ => .ok (f value)).congr (and_iff_left trivial)

theorem map {f : α → β} (first : Decides condition result) : Decides condition (result.map f) := by
  have same : result.map f = result >>= fun value => .ok (f value) := by cases result <;> rfl
  exact same ▸ first.thenOk

end Decides

/-! ### Conditions on single places -/

/-- Whether a prefix stands for a namespace. That of `xml` always does. -/
def StaticContext.Binds (static : StaticContext) (nsPrefix : String) : Prop :=
  nsPrefix = "xml" ∨ ∃ uri, static.namespaces.get? nsPrefix = some uri

/-- Whether a function of a name can be called with a number of arguments. It is the one that is
registered under the name, or, if there is none and functions of the host are switched on, a method
of a class or a function of a script. -/
def Registry.Offers (registry : Registry) (name : ExpandedName) (count : Nat)
    (function : Function) : Prop :=
  function.accepts count = true ∧ (registry.get? name = some function ∨
    registry.get? name = none ∧ registry.allowsExternal = true ∧
      registry.external? name = some function)

/-- The prefix in a test. -/
def NodeTest.prefix? : NodeTest → Option String
  | .named name => (splitQName name).1
  | .anyWithPrefix nsPrefix => some nsPrefix
  | _ => none

/-- Whether a test is a name, a wildcard or `node()`. -/
def NodeTest.canTestAttributes : NodeTest → Bool
  | .kind test => test == .node
  | _ => true

/-- Whether a step can be resolved, its predicates aside. -/
structure StaticContext.Allows (static : StaticContext) (axis : Axis) (test : NodeTest) : Prop where
  bindsPrefix : ∀ nsPrefix, test.prefix? = some nsPrefix → static.Binds nsPrefix
  ofAttributes : axis = .attribute → test.canTestAttributes = true
  ofBare : axis = .self ∨ axis = .parent → test = .kind .node

namespace Expr

/-- The lexical name in an expression, those in its parts and its steps aside. -/
def name? : Expr → Option String
  | reference name | call name _ => some name
  | _ => none

/-- The steps of a path. -/
def steps : Expr → List (Step Expr)
  | path _ _ steps => steps
  | _ => []

/-- Whether an expression can be resolved, its parts aside. -/
structure FitsHere (static : StaticContext) (expr : Expr) : Prop where
  bindsPrefix : ∀ name, expr.name? = some name →
    ∀ nsPrefix, (splitQName name).1 = some nsPrefix → static.Binds nsPrefix
  hasFunction : ∀ name arguments, expr = call name arguments →
    ∀ expanded, static.expand name Library.uri = .ok expanded →
      ∃ function, static.registry.Offers expanded arguments.length function
  allowsSteps : ∀ step ∈ expr.steps, static.Allows step.axis step.test

/-- Whether an expression can be resolved as far as each place in it is concerned. -/
def Resolvable (static : StaticContext) (expr : Expr) : Prop := expr.Everywhere (FitsHere static)

end Expr

/-! ### Names -/

section Names

variable {static : StaticContext}

/-- A prefix has a namespace exactly if it is bound. -/
theorem StaticContext.decides_namespaceOf (nsPrefix : String) :
    Decides (static.Binds nsPrefix) (static.namespaceOf nsPrefix) := by
  unfold namespaceOf Binds
  split
  · next isXml => exact (Decides.ok _).congr (iff_of_true trivial (.inl (eq_of_beq isXml)))
  · next notXml =>
    have other : nsPrefix ≠ "xml" := fun same => notXml (beq_iff_eq.mpr same)
    split
    · next uri found => exact (Decides.ok _).congr (iff_of_true trivial (.inr ⟨uri, found⟩))
    · next missing =>
      refine (Decides.error rfl).congr (iff_of_false not_false ?_)
      rw [missing]
      rintro (isXml | ⟨uri, found⟩)
      · exact other isXml
      · cases found

/-- A name is expanded exactly if its prefix is bound, if it has one. -/
theorem StaticContext.decides_expand (name unprefixedUri : String) :
    Decides (∀ nsPrefix, (splitQName name).1 = some nsPrefix → static.Binds nsPrefix)
      (static.expand name unprefixedUri) := by
  unfold expand
  split
  · next nsPrefix localName split =>
    rw [split]
    refine (decides_namespaceOf nsPrefix).map.congr ⟨?_, fun all => all nsPrefix rfl⟩
    rintro bound _ ⟨⟩
    exact bound
  · next localName split =>
    rw [split]
    exact (Decides.ok _).congr (iff_of_true trivial nofun)

end Names

/-! ### Functions -/

namespace Registry

variable {registry : Registry} {name : ExpandedName} {count : Nat} {location : Location}

/-- A function of the host is only found in a namespace of the host. -/
theorem isExternal_of_external? {function : Function}
    (found : registry.external? name = some function) : registry.isExternal name.uri = true := by
  unfold external? at found
  unfold isExternal
  split at found
  · next className isClass => rw [isClass]; rfl
  · obtain ⟨engine, script, -⟩ := Option.bind_eq_some_iff.mp found
    rw [Table.contains, script, Option.isSome_some, Bool.or_true]

/-- Functions of the host are found exactly while they are switched on. -/
theorem resolveExternal_ok_iff {function : Function} :
    registry.resolveExternal name location = .ok function ↔
      registry.allowsExternal = true ∧ registry.external? name = some function := by
  constructor
  · intro resolves
    unfold resolveExternal at resolves
    split at resolves
    · cases resolves
    · split at resolves
      · cases resolves
      · next allowed =>
        split at resolves
        · next found =>
          obtain rfl := Except.ok.inj resolves
          exact ⟨by simpa using allowed, found⟩
        · cases resolves
  · rintro ⟨allowed, found⟩
    rw [resolveExternal, isExternal_of_external? found, allowed, found]
    rfl

/-- A function is found first, and then its number of arguments is checked. -/
theorem resolve_eq_bind :
    registry.resolve name count location =
      ((registry.get? name).elim (registry.resolveExternal name location) .ok >>= fun function =>
        if function.accepts count then .ok function
        else .error (.wrongArity name.text function.expectedArity count location)) := by
  unfold resolve
  cases registry.get? name <;> rfl

/-- A function is resolved exactly if the registry offers it for so many arguments. -/
theorem resolve_ok_iff {function : Function} :
    registry.resolve name count location = .ok function ↔ registry.Offers name count function := by
  have accepted : ∀ found : Function, (if found.accepts count then .ok found
        else .error (.wrongArity name.text found.expectedArity count location)) =
        (.ok function : Except ExprError Function) ↔
      function.accepts count = true ∧ found = function := by
    intro found
    split
    · next accepts =>
      constructor
      · rintro ⟨⟩
        exact ⟨accepts, rfl⟩
      · rintro ⟨-, rfl⟩
        rfl
    · next refused =>
      refine iff_of_false nofun ?_
      rintro ⟨accepts, rfl⟩
      exact refused accepts
  rw [resolve_eq_bind, ok_bind_iff]
  simp only [accepted, Offers]
  cases found : registry.get? name with
  | some first => simp [and_comm]
  | none => simp [resolveExternal_ok_iff, and_comm]

/-- Where no function of the host is found the text is refused. -/
theorem isRefusal_of_resolveExternal {error : ExprError}
    (fails : registry.resolveExternal name location = .error error) : error.isRefusal = true := by
  unfold resolveExternal at fails
  split at fails
  · exact Except.error.inj fails ▸ rfl
  · split at fails
    · exact Except.error.inj fails ▸ rfl
    · split at fails
      · cases fails
      · exact Except.error.inj fails ▸ rfl

/-- Where no function is found, or not for so many arguments, the text is refused. -/
theorem isRefusal_of_resolve {error : ExprError}
    (fails : registry.resolve name count location = .error error) : error.isRefusal = true := by
  rw [resolve_eq_bind] at fails
  refine ExprError.isRefusal_of_bind (fun early stopped => ?_)
    (fun found _ late refused => ?_) fails
  · cases found : registry.get? name with
    | some function =>
      rw [found] at stopped
      cases stopped
    | none =>
      rw [found] at stopped
      exact isRefusal_of_resolveExternal stopped
  · split at refused
    · cases refused
    · exact Except.error.inj refused ▸ rfl

theorem decides_resolve (registry : Registry) (name : ExpandedName) (count : Nat)
    (location : Location) :
    Decides (∃ function, registry.Offers name count function)
      (registry.resolve name count location) :=
  ⟨exists_congr fun _ => resolve_ok_iff, fun _ => isRefusal_of_resolve⟩

end Registry

/-! ### Steps -/

namespace Expr

variable {static : StaticContext} {text : String}

/-- A test of elements is resolved exactly if its prefix is bound. -/
theorem decides_elementTest (test : NodeTest) :
    Decides (∀ nsPrefix, test.prefix? = some nsPrefix → static.Binds nsPrefix)
      (elementTest static test) := by
  cases test with
  | named name => exact (static.decides_expand name _).map
  | anyWithPrefix nsPrefix =>
    refine (static.decides_namespaceOf nsPrefix).map.congr ⟨?_, fun all => all nsPrefix rfl⟩
    rintro bound _ ⟨⟩
    exact bound
  | any | anyWithLocal localName => exact (Decides.ok _).congr (iff_of_true trivial nofun)
  | kind test => cases test <;> exact (Decides.ok _).congr (iff_of_true trivial nofun)

/-- A test of attributes needs a name, a wildcard or `node()`, and its prefix bound. -/
theorem decides_attributeTest (test : NodeTest) :
    Decides ((∀ nsPrefix, test.prefix? = some nsPrefix → static.Binds nsPrefix) ∧
      test.canTestAttributes = true) (attributeTest static text test) := by
  cases test with
  | named name => exact (static.decides_expand name _).map.congr (and_iff_left rfl).symm
  | anyWithPrefix nsPrefix =>
    refine (static.decides_namespaceOf nsPrefix).map.congr ⟨?_, fun all => all.1 nsPrefix rfl⟩
    intro bound
    refine ⟨?_, rfl⟩
    rintro _ ⟨⟩
    exact bound
  | any | anyWithLocal localName => exact (Decides.ok _).congr (iff_of_true trivial ⟨nofun, rfl⟩)
  | kind test =>
    cases test with
    | node => exact (Decides.ok _).congr (iff_of_true trivial ⟨nofun, rfl⟩)
    | text | cdata | comment | processingInstruction target =>
      exact (Decides.error rfl).congr (iff_of_false not_false fun both => Bool.false_ne_true both.2)

/-- The steps to the node itself and to its parent have the test `node()` only. -/
theorem decides_bareStep (axis : Axis) (tree : Tree) (test : NodeTest) :
    Decides (test = .kind .node) (bareStep static text axis tree test) := by
  unfold bareStep
  split
  · exact (Decides.ok tree).congr (iff_of_true trivial rfl)
  · next other => exact (Decides.error rfl).congr (iff_of_false not_false other)

/-- A step is resolved exactly if its axis allows its test. -/
theorem decides_stepTree (axis : Axis) (test : NodeTest) :
    Decides (static.Allows axis test) (stepTree static text axis test) := by
  have ofNode : test = .kind .node → ∀ nsPrefix, test.prefix? = some nsPrefix →
      static.Binds nsPrefix := by
    rintro rfl nsPrefix found
    cases found
  unfold stepTree
  split
  · exact (decides_elementTest test).map.congr
      ⟨fun binds => ⟨binds, fun other => absurd other (by decide), by simp⟩,
        fun allows => allows.bindsPrefix⟩
  · exact (decides_attributeTest test).map.congr
      ⟨fun both => ⟨both.1, fun _ => both.2, by simp⟩,
        fun allows => ⟨allows.bindsPrefix, allows.ofAttributes rfl⟩⟩
  · exact (decides_bareStep _ _ test).congr
      ⟨fun isNode => ⟨ofNode isNode, fun other => absurd other (by decide), fun _ => isNode⟩,
        fun allows => allows.ofBare (.inl rfl)⟩
  · exact (decides_bareStep _ _ test).congr
      ⟨fun isNode => ⟨ofNode isNode, fun other => absurd other (by decide), fun _ => isNode⟩,
        fun allows => allows.ofBare (.inr rfl)⟩

/-! ### Expressions -/

/-- Whether compiling an expression succeeds exactly if the expression can be resolved. -/
def IsDecided (static : StaticContext) (text : String) (expr : Expr) : Prop :=
  Decides (expr.Resolvable static) (expr.resolve static text)

/-- Expressions in a row are resolved exactly if each of them can be. -/
theorem decides_resolveAll {exprs : List Expr}
    (each : ∀ expr ∈ exprs, expr.IsDecided static text) :
    Decides (∀ expr ∈ exprs, expr.Resolvable static) (resolveAll static text exprs) := by
  induction exprs with
  | nil => exact (Decides.ok []).congr (iff_of_true trivial (List.forall_mem_nil _))
  | cons first rest inductionHypothesis =>
    obtain ⟨ofFirst, ofRest⟩ := List.forall_mem_cons.mp each
    exact (ofFirst.andThen fun _ _ => (inductionHypothesis ofRest).thenOk).congr
      List.forall_mem_cons.symm

theorem decides_resolvePredicates {predicates : List Expr}
    (each : ∀ expr ∈ predicates, expr.IsDecided static text)
    (tree : Tree) :
    Decides (∀ expr ∈ predicates, expr.Resolvable static)
      (resolvePredicates static text tree predicates) := by
  induction predicates generalizing tree with
  | nil => exact (Decides.ok tree).congr (iff_of_true trivial (List.forall_mem_nil _))
  | cons first rest inductionHypothesis =>
    obtain ⟨ofFirst, ofRest⟩ := List.forall_mem_cons.mp each
    exact (ofFirst.andThen fun condition _ => inductionHypothesis ofRest _).congr
      List.forall_mem_cons.symm

/-- Steps are resolved exactly if their axes allow their tests and their predicates can be resolved.
-/
theorem decides_resolveSteps {steps : List (Step Expr)}
    (each : ∀ expr ∈ steps.flatMap Step.predicates, expr.IsDecided static text)
    (path : Option Tree) :
    Decides ((∀ step ∈ steps, static.Allows step.axis step.test) ∧
        ∀ expr ∈ steps.flatMap Step.predicates, expr.Resolvable static)
      (resolveSteps static text path steps) := by
  induction steps generalizing path with
  | nil =>
    exact (Decides.ok path).congr
      (iff_of_true trivial ⟨List.forall_mem_nil _, List.forall_mem_nil _⟩)
  | cons first rest inductionHypothesis =>
    rw [List.flatMap_cons, List.forall_mem_append] at each
    refine ((decides_stepTree first.axis first.test).andThen fun bare _ =>
      (decides_resolvePredicates each.1 bare).andThen fun step _ =>
        inductionHypothesis each.2 (some (joinStep path first.descendant step))).congr ?_
    rw [List.forall_mem_cons, List.flatMap_cons, List.forall_mem_append,
      and_and_and_comm, and_assoc]

theorem decides_resolveParts {pieces : List (TemplatePart Expr)}
    (each : ∀ expr ∈ pieces.filterMap TemplatePart.expression?, expr.IsDecided static text) :
    Decides (∀ expr ∈ pieces.filterMap TemplatePart.expression?, expr.Resolvable static)
      (resolveParts static text pieces) := by
  induction pieces with
  | nil => exact (Decides.ok []).congr (iff_of_true trivial (List.forall_mem_nil _))
  | cons first rest inductionHypothesis =>
    cases first with
    | text content => exact (inductionHypothesis each).thenOk
    | expression expr =>
      obtain ⟨ofFirst, ofRest⟩ := List.forall_mem_cons.mp each
      exact (ofFirst.andThen fun _ _ => (inductionHypothesis ofRest).thenOk).congr
        List.forall_mem_cons.symm

/-- A path with a step or a tree to start from leads to a tree. -/
theorem isSome_of_resolveSteps {steps : List (Step Expr)} {path whole : Option Tree}
    (some : path.isSome = true ∨ steps ≠ [])
    (resolves : resolveSteps static text path steps = .ok whole) : whole.isSome = true := by
  induction steps generalizing path with
  | nil => exact Except.ok.inj resolves ▸ some.resolve_right fun more => more rfl
  | cons first rest inductionHypothesis =>
    obtain ⟨bare, _, more⟩ := ok_bind_iff.mp resolves
    obtain ⟨step, _, more⟩ := ok_bind_iff.mp more
    exact inductionHypothesis (.inl rfl) more

/-- A path that leads somewhere has a start or a step. -/
theorem isSome_or_ne_nil_of_resolveStart {start : Option Expr} {absolute : Bool}
    {steps : List (Step Expr)} {origin : Option Tree}
    (leads : (path start absolute steps).isEmptyPath = false)
    (resolves : resolveStart static text absolute start = .ok origin) :
    origin.isSome = true ∨ steps ≠ [] := by
  cases start with
  | some start =>
    obtain ⟨tree, _, ended⟩ := ok_bind_iff.mp resolves
    exact .inl (Except.ok.inj ended ▸ rfl)
  | none =>
    cases absolute with
    | true => exact .inl (Except.ok.inj resolves ▸ rfl)
    | false =>
      refine .inr ?_
      rintro rfl
      cases leads

/-- An expression can be resolved exactly if its own place allows it and its parts can be. -/
theorem resolvable_iff {expr : Expr} : expr.Resolvable static ↔
    expr.FitsHere static ∧ ∀ part ∈ expr.parts, part.Resolvable static :=
  everywhere_iff

theorem resolvable_of_fitsHere {expr : Expr} (fits : expr.FitsHere static) :
    (∀ part ∈ expr.parts, part.Resolvable static) ↔ expr.Resolvable static :=
  ⟨fun parts => resolvable_iff.mpr ⟨fits, parts⟩, fun all => (resolvable_iff.mp all).2⟩

/-- An expression without a name and without steps fits wherever its parts do. -/
theorem fitsHere_of_plain {expr : Expr} (unnamed : expr.name? = none) (stepless : expr.steps = []) :
    expr.FitsHere static where
  bindsPrefix name named := by cases unnamed.symm.trans named
  hasFunction := by
    rintro name arguments rfl
    cases unnamed
  allowsSteps step listed := by
    rw [stepless] at listed
    cases listed

/-- A variable fits exactly if the prefix of its name is bound. -/
theorem fitsHere_reference_iff {name : String} : (reference name).FitsHere static ↔
    ∀ nsPrefix, (splitQName name).1 = some nsPrefix → static.Binds nsPrefix := by
  refine ⟨fun fits => fits.bindsPrefix name rfl, fun binds => ⟨?_, nofun, List.forall_mem_nil _⟩⟩
  rintro _ ⟨⟩
  exact binds

/-- A path fits exactly if the axes of its steps allow their tests. -/
theorem fitsHere_path_iff {start : Option Expr} {absolute : Bool} {steps : List (Step Expr)} :
    (path start absolute steps).FitsHere static ↔
      ∀ step ∈ steps, static.Allows step.axis step.test :=
  ⟨fun fits => fits.allowsSteps, fun allows => ⟨nofun, nofun, allows⟩⟩

/-- A call fits if its name can be expanded, to that of a function that takes its arguments. -/
theorem fitsHere_call_iff {name : String} {arguments : List Expr} :
    (call name arguments).FitsHere static ↔
      ∃ expanded, static.expand name Library.uri = .ok expanded ∧
        ∃ function, static.registry.Offers expanded arguments.length function := by
  have expands := (static.decides_expand name Library.uri).ok_iff
  constructor
  · intro fits
    obtain ⟨expanded, found⟩ := expands.mpr (fits.bindsPrefix name rfl)
    exact ⟨expanded, found, fits.hasFunction name arguments rfl expanded found⟩
  · rintro ⟨expanded, found, offered⟩
    refine ⟨?_, ?_, List.forall_mem_nil _⟩
    · rintro _ ⟨⟩
      exact expands.mp ⟨expanded, found⟩
    · rintro _ _ ⟨⟩ other again
      obtain rfl := Except.ok.inj (found.symm.trans again)
      exact offered

/-- Whether a path can be resolved is decided by its parts and its steps, if it leads somewhere. -/
theorem isDecided_path {start : Option Expr} {absolute : Bool} {steps : List (Step Expr)}
    (each : ∀ part ∈ (path start absolute steps).parts, part.IsDecided static text)
    (leads : (path start absolute steps).isEmptyPath = false) :
    (path start absolute steps).IsDecided static text := by
  have each := List.forall_mem_append.mp each
  have origin : Decides (∀ part ∈ start.toList, part.Resolvable static)
      (resolveStart static text absolute start) := by
    cases start with
    | none => exact (Decides.ok _).congr (iff_of_true trivial (List.forall_mem_nil _))
    | some start =>
      exact (each.1 start List.mem_cons_self).thenOk.congr List.forall_mem_singleton.symm
  refine (origin.andThen fun origin starts => @Decides.andThen _ _ _ True _ _
    (decides_resolveSteps each.2 origin) fun whole walked => ?_).congr ?_
  · obtain ⟨tree, rfl⟩ := Option.isSome_iff_exists.mp
      (isSome_of_resolveSteps (isSome_or_ne_nil_of_resolveStart leads starts) walked)
    exact .ok tree
  · rw [resolvable_iff, fitsHere_path_iff, parts, List.forall_mem_append, and_true, and_left_comm]

/-- Whether a call can be resolved is decided by its name, its arguments and their number. -/
theorem isDecided_call {name : String} {arguments : List Expr}
    (each : ∀ part ∈ arguments, part.IsDecided static text) :
    (call name arguments).IsDecided static text := by
  refine ((static.decides_expand name Library.uri).bind fun expanded _ =>
    (decides_resolveAll each).andThen fun trees resolved =>
      (static.registry.decides_resolve expanded trees.length static.location).thenOk.congr
        (by rw [← (resolveAll_ok_iff.mp resolved).length_eq])).congr ?_
  rw [resolvable_iff, fitsHere_call_iff]
  constructor
  · rintro ⟨expanded, found, all, offered⟩
    exact ⟨⟨expanded, found, offered⟩, all⟩
  · rintro ⟨⟨expanded, found, offered⟩, all⟩
    exact ⟨expanded, found, all, offered⟩

/-- An expression of two parts is resolved exactly if both of them can be. -/
theorem decides_both {left right : Expr} {join : Tree → Tree → Tree}
    (each : ∀ part ∈ [left, right], part.IsDecided static text) :
    Decides (∀ part ∈ [left, right], part.Resolvable static)
      (left.resolve static text >>= fun first =>
        right.resolve static text >>= fun second => .ok (join first second)) := by
  obtain ⟨ofLeft, ofRight⟩ := List.forall_mem_cons.mp each
  refine (ofLeft.andThen fun _ _ => (List.forall_mem_singleton.mp ofRight).thenOk).congr ?_
  rw [List.forall_mem_cons, List.forall_mem_singleton]

/-- An expression without paths that lead nowhere can be resolved exactly if every place in it can.
-/
theorem isDecided_of_leadsOn (expr : Expr) (leads : expr.LeadsOn) : expr.IsDecided static text := by
  induction expr using induct with
  | step expr inductionHypothesis =>
    obtain ⟨here, below⟩ := everywhere_iff.mp leads
    have each := fun part listed => inductionHypothesis part listed (below part listed)
    have plain : expr.name? = none → expr.steps = [] →
        ((∀ part ∈ expr.parts, part.Resolvable static) ↔ expr.Resolvable static) :=
      fun unnamed stepless => resolvable_of_fitsHere (fitsHere_of_plain unnamed stepless)
    cases expr with
    | literal | number | empty =>
      exact (Decides.ok _).congr (iff_of_true trivial ((plain rfl rfl).mp (List.forall_mem_nil _)))
    | sequence members => exact (decides_resolveAll each).thenOk.congr (plain rfl rfl)
    | reference name =>
      refine (static.decides_expand name "").thenOk.congr ?_
      rw [resolvable_iff, fitsHere_reference_iff]
      exact (and_iff_left (List.forall_mem_nil _)).symm
    | call name arguments => exact isDecided_call each
    | binary left op right => exact (decides_both each).congr (plain rfl rfl)
    | union left right => exact (decides_both each).congr (plain rfl rfl)
    | signed sign operand =>
      refine (each operand List.mem_cons_self).thenOk.congr ?_
      rw [← plain rfl rfl, parts, List.forall_mem_singleton]
    | path start absolute steps => exact isDecided_path each here
    | filter primary predicates =>
      obtain ⟨ofPrimary, ofPredicates⟩ := List.forall_mem_cons.mp each
      refine (ofPrimary.andThen fun tree _ => decides_resolvePredicates ofPredicates tree).congr ?_
      rw [← plain rfl rfl, parts, List.forall_mem_cons]
    | template pieces => exact (decides_resolveParts each).thenOk.congr (plain rfl rfl)

end Expr

/-! ### Whole texts -/

/-- The tree of a text of a kind. -/
def StaticContext.compile (static : StaticContext) : TextKind → String → Except ExprError Tree
  | .expression => static.compileExpression
  | .pattern => static.compilePattern
  | .template => static.compileTemplate

/-- A text is read first, and what is read is resolved. -/
theorem StaticContext.compile_eq (static : StaticContext) (kind : TextKind) (text : String) :
    static.compile kind text =
      (kind.read text static.location >>= fun expr => expr.resolve static text) := by
  cases kind <;> rfl

/-- Whatever is wrong with the parts of a template, it is not that a path leads nowhere. -/
theorem Expr.ne_emptyPath_of_templateParts {limit : Nat} {gathered text : List Char}
    {fault : SyntaxFault} (fails : templateParts limit gathered text = .error fault) :
    fault ≠ .emptyPath := by
  fun_induction templateParts limit gathered text with
  | case1 => cases fails
  | case2 | case5 | case7 => exact Except.error.inj fails ▸ SyntaxFault.noConfusion
  | case3 _ _ _ inductionHypothesis | case4 _ _ _ inductionHypothesis
  | case8 _ _ _ _ _ _ _ _ inductionHypothesis => exact inductionHypothesis fails
  | case6 limit gathered rest _ expr behind found inductionHypothesis =>
    cases parts : templateParts limit [] behind with
    | ok others =>
      rw [parts] at fails
      cases fails
    | error early =>
      rw [parts] at fails
      exact inductionHypothesis (parts.trans (congrArg _ (Except.error.inj fails)))

theorem ExprError.isRefusal_malformed {text : String} {fault : SyntaxFault} {location : Location}
    (other : fault ≠ .emptyPath) : (malformed text fault location).isRefusal = true := by
  cases fault with
  | emptyPath => exact absurd rfl other
  | _ => rfl

/-- A text that cannot be read as an expression is refused. -/
theorem Expr.isRefusal_of_read {text : String} {location : Location} {error : ExprError}
    (fails : read text location = .error error) : error.isRefusal = true := by
  unfold read at fails
  split at fails
  · cases fails
  · exact Except.error.inj fails ▸ rfl
  · exact Except.error.inj fails ▸ rfl

/-- A text that cannot be read as its kind demands is refused. -/
theorem TextKind.isRefusal_of_read {kind : TextKind} {text : String} {location : Location}
    {error : ExprError} (fails : kind.read text location = .error error) :
    error.isRefusal = true := by
  cases kind with
  | expression => exact Expr.isRefusal_of_read fails
  | pattern =>
    refine ExprError.isRefusal_of_bind (fun _ => Expr.isRefusal_of_read)
      (fun expr _ late refused => ?_) fails
    split at refused
    · cases refused
    · exact Except.error.inj refused ▸ rfl
  | template =>
    simp only [read, Expr.readTemplate] at fails
    split at fails
    · cases fails
    · next fault stopped =>
      exact Except.error.inj fails ▸
        ExprError.isRefusal_malformed (Expr.ne_emptyPath_of_templateParts stopped)

/-- Compiling fails exactly where it has to, and never in a way after which evaluation might go on.
What is read from a text, of whatever kind, can be resolved exactly if each place in it can: every
prefix is bound, every call has a function for its number of arguments, and every test suits the
axis of its step. Where compiling fails the error is no recoverable one, and it is never that a path
leads nowhere. -/
theorem StaticContext.compile_decided (static : StaticContext) (kind : TextKind) (text : String) :
    (∀ location expr, kind.read text location = .ok expr → ∀ source,
      ((∃ tree, expr.resolve static source = .ok tree) ↔ expr.Resolvable static)) ∧
    ∀ error, static.compile kind text = .error error →
      error.isRecoverable = false ∧
        ∀ source location, error ≠ .malformed source .emptyPath location := by
  constructor
  · intro location expr reads source
    exact (Expr.isDecided_of_leadsOn expr (Expr.leadsOn_of_read reads)).ok_iff
  · intro error fails
    rw [compile_eq] at fails
    have refuses : error.isRefusal = true :=
      ExprError.isRefusal_of_bind (fun _ => TextKind.isRefusal_of_read)
        (fun expr reads => (Expr.isDecided_of_leadsOn expr (Expr.leadsOn_of_read reads)).refuses)
          fails
    exact ⟨ExprError.isRecoverable_of_isRefusal refuses,
      ExprError.ne_emptyPath_of_isRefusal refuses⟩

/-- A prefix that is hidden in a predicate, in an argument, in a template: without a namespace it is
why the template cannot be compiled, and with one nothing is left that could fail. -/
theorem StaticContext.compile_decided_hiddenPrefix :
    let text := "\x7bcount(item[p:name])\x7d"
    let binding : StaticContext := { namespaces := Table.empty.insert "p" "urn:p" }
    (∃ expr, TextKind.template.read text {} = .ok expr ∧ ¬expr.Resolvable {} ∧
      expr.Resolvable binding) ∧
    ∃ error, ({} : StaticContext).compile .template text = .error error ∧
      error.isRecoverable = false := by
  intro text binding
  have resolved : ((TextKind.template.read text {}).map fun expr =>
      ((expr.resolve {} text).toOption.isSome,
        (expr.resolve binding text).toOption.isSome)).toOption =
        some (false, true) := by decide +kernel
  obtain ⟨expr, reads, ends⟩ := ok_map_iff.mp (ok_of_toOption resolved)
  obtain ⟨fails, succeeds⟩ := Prod.mk.inj ends
  have decided := (compile_decided {} .template text).1 {} expr reads text
  have decidedBinding := (compile_decided binding .template text).1 {} expr reads text
  refine ⟨⟨expr, reads, fun resolvable => ?_, decidedBinding.mp ?_⟩, ?_⟩
  · obtain ⟨tree, resolves⟩ := decided.mpr resolvable
    rw [resolves] at fails
    cases fails
  · obtain ⟨tree, found⟩ := Option.isSome_iff_exists.mp succeeds
    exact ⟨tree, ok_of_toOption found⟩
  · cases compiled : ({} : StaticContext).compile .template text with
    | error error => exact ⟨error, rfl, ((compile_decided {} .template text).2 error compiled).1⟩
    | ok tree =>
      rw [compile_eq] at compiled
      obtain ⟨again, readsAgain, resolves⟩ := ok_bind_iff.mp compiled
      obtain rfl := Except.ok.inj (reads.symm.trans readsAgain)
      rw [resolves] at fails
      cases fails

end StreamPath
