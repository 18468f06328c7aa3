/-
Other prefixes for the same namespaces. A prefix stands in the name of an element, an attribute, a
variable or a function, or before a wildcard, and it counts for the namespace that it is bound to
and for nothing else. If all prefixes of an expression are replaced, and the new ones are bound as
the old ones were, then either the tree of the expression stays or the expression cannot be compiled
before or after, and for the same reason.
-/

import Mathlib.Data.List.TakeWhile
import StreamPath.Proofs.Resolvability

namespace StreamPath

/-! ### Renaming -/

/-- Other prefixes for prefixes. That of `xml` is reserved, and no prefix has a colon in it. -/
structure PrefixRenaming where
  apply : String → String
  reserved : apply "xml" = "xml"
  plain : ∀ nsPrefix, ':' ∉ nsPrefix.toList → ':' ∉ (apply nsPrefix).toList

namespace PrefixRenaming

/-- A lexical name with its prefix replaced. -/
def qName (prefixes : PrefixRenaming) (name : String) : String :=
  match splitQName name with
  | (some nsPrefix, localName) => prefixes.apply nsPrefix ++ ":" ++ localName
  | (none, _) => name

/-- A test with its prefix replaced. -/
def nodeTest (prefixes : PrefixRenaming) : NodeTest → NodeTest
  | .named name => .named (prefixes.qName name)
  | .anyWithPrefix nsPrefix => .anyWithPrefix (prefixes.apply nsPrefix)
  | test => test

/-- An error with the prefix in it replaced, about another text. -/
def error (prefixes : PrefixRenaming) (text : String) : ExprError → ExprError
  | .malformed _ fault location => .malformed text fault location
  | .undeclaredPrefix nsPrefix location => .undeclaredPrefix (prefixes.apply nsPrefix) location
  | error => error

end PrefixRenaming

/-- The kinds of errors. -/
inductive ExprError.Kind where
  | malformed
  | undeclaredPrefix
  | unknownFunction
  | wrongArity
  | externalFunctionsDisabled
  | undeclaredVariable
  | typeError
  | functionError
  | internal
  | aborted
deriving Repr, DecidableEq

/-- The kind of an error. -/
def ExprError.kind : ExprError → Kind
  | malformed _ _ _ => .malformed
  | undeclaredPrefix _ _ => .undeclaredPrefix
  | unknownFunction _ _ => .unknownFunction
  | wrongArity _ _ _ _ => .wrongArity
  | externalFunctionsDisabled _ => .externalFunctionsDisabled
  | undeclaredVariable _ => .undeclaredVariable
  | typeError _ => .typeError
  | functionError _ _ => .functionError
  | internal _ => .internal
  | aborted _ => .aborted

/-- Other prefixes do not change the kind of an error. -/
theorem PrefixRenaming.kind_error (prefixes : PrefixRenaming) (text : String) (error : ExprError) :
    (prefixes.error text error).kind = error.kind := by
  cases error <;> rfl

namespace Expr

mutual

/-- An expression with every prefix in it replaced. -/
def renamed (prefixes : PrefixRenaming) : Expr → Expr
  | literal content => literal content
  | number value => number value
  | empty => empty
  | sequence members => sequence (renamedAll prefixes members)
  | reference name => reference (prefixes.qName name)
  | call name arguments => call (prefixes.qName name) (renamedAll prefixes arguments)
  | binary left op right => binary (left.renamed prefixes) op (right.renamed prefixes)
  | signed sign operand => signed sign (operand.renamed prefixes)
  | union left right => union (left.renamed prefixes) (right.renamed prefixes)
  | path start absolute steps =>
    path (renamedStart prefixes start) absolute (renamedSteps prefixes steps)
  | filter primary predicates => filter (primary.renamed prefixes) (renamedAll prefixes predicates)
  | template pieces => template (renamedParts prefixes pieces)

/-- Expressions with every prefix in them replaced. -/
def renamedAll (prefixes : PrefixRenaming) : List Expr → List Expr
  | [] => []
  | first :: rest => first.renamed prefixes :: renamedAll prefixes rest

/-- The start of a path with every prefix in it replaced. -/
def renamedStart (prefixes : PrefixRenaming) : Option Expr → Option Expr
  | none => none
  | some start => some (start.renamed prefixes)

/-- Steps with every prefix in them replaced. -/
def renamedSteps (prefixes : PrefixRenaming) : List (Step Expr) → List (Step Expr)
  | [] => []
  | ⟨descendant, axis, test, predicates⟩ :: rest =>
    ⟨descendant, axis, prefixes.nodeTest test, renamedAll prefixes predicates⟩ ::
      renamedSteps prefixes rest

/-- The parts of a template with every prefix in them replaced. -/
def renamedParts (prefixes : PrefixRenaming) : List (TemplatePart Expr) → List (TemplatePart Expr)
  | [] => []
  | .text content :: rest => .text content :: renamedParts prefixes rest
  | .expression expr :: rest => .expression (expr.renamed prefixes) :: renamedParts prefixes rest

end

/-- Whether a prefix is used in an expression, its parts aside. -/
def UsesHere (nsPrefix : String) (expr : Expr) : Prop :=
  (∃ name, expr.name? = some name ∧ (splitQName name).1 = some nsPrefix) ∨
    ∃ step ∈ expr.steps, step.test.prefix? = some nsPrefix

/-- Whether a prefix is used somewhere in an expression. -/
def Uses (expr : Expr) (nsPrefix : String) : Prop :=
  ∃ inner : Expr, inner.Within expr ∧ inner.UsesHere nsPrefix

end Expr

/-! ### Names -/

/-- The prefix of a name ends before the first colon. -/
theorem not_mem_of_splitQName {name nsPrefix : String}
    (found : (splitQName name).1 = some nsPrefix) : ':' ∉ nsPrefix.toList := by
  simp only [splitQName, splitName] at found
  split at found
  · simp only [Option.map_some, Option.some.injEq] at found
    subst found
    rw [String.toList_ofList]
    intro listed
    simpa using List.mem_takeWhile_imp listed
  · cases found

/-- A prefix without a colon is split off again. -/
theorem splitQName_append {nsPrefix : String} (plain : ':' ∉ nsPrefix.toList) (localName : String) :
    splitQName (nsPrefix ++ ":" ++ localName) = (some nsPrefix, localName) := by
  have spelled :
      (nsPrefix ++ ":" ++ localName).toList = nsPrefix.toList ++ ':' :: localName.toList := by
    simp
  rw [splitQName, spelled, splitName_append plain]
  simp

namespace PrefixRenaming

variable {prefixes : PrefixRenaming}

/-- A renamed name has the renamed prefix, and the same local name. -/
theorem splitQName_qName (prefixes : PrefixRenaming) (name : String) :
    splitQName (prefixes.qName name) =
      ((splitQName name).1.map prefixes.apply, (splitQName name).2) := by
  unfold qName
  split
  · next nsPrefix localName split =>
    have plain := not_mem_of_splitQName (congrArg Prod.fst split)
    rw [splitQName_append (prefixes.plain _ plain), split]
    rfl
  · next localName split =>
    rw [split]
    rfl

/-- Whether a prefix stands for the same after it is replaced, or for nothing both before and after.
The reserved one does so by itself, and no other one may become the reserved one. -/
def KeepsBinding (prefixes : PrefixRenaming) (before after : Table String String)
    (nsPrefix : String) : Prop :=
  nsPrefix ≠ "xml" → prefixes.apply nsPrefix ≠ "xml" ∧
    after.get? (prefixes.apply nsPrefix) = before.get? nsPrefix

/-! ### Results with other prefixes -/

/-- Whether two results are the same value, or the same error but for the prefix in it and the text
that it is about. -/
def Renames {α : Type} (prefixes : PrefixRenaming) (text : String)
    (result other : Except ExprError α) :
    Prop :=
  other = result.mapError (prefixes.error text)

namespace Renames

variable {α β : Type} {text : String} {result other : Except ExprError α}

theorem ok (value : α) : prefixes.Renames text (.ok value) (.ok value) := rfl

/-- Two parts that are each the same but for the prefixes are so together. -/
theorem bind {next next' : α → Except ExprError β} (first : prefixes.Renames text result other)
    (each : ∀ value, prefixes.Renames text (next value) (next' value)) :
    prefixes.Renames text (result >>= next) (other >>= next') := by
  obtain rfl := first
  cases result with
  | error error => rfl
  | ok value => exact each value

theorem thenOk (first : prefixes.Renames text result other) (f : α → β) :
    prefixes.Renames text (result >>= fun value => .ok (f value))
      (other >>= fun value => .ok (f value)) :=
  first.bind fun value => ok (f value)

theorem map (first : prefixes.Renames text result other) (f : α → β) :
    prefixes.Renames text (result.map f) (other.map f) := by
  obtain rfl := first
  cases result <;> rfl

end Renames

end PrefixRenaming

/-- The static context with other bindings of prefixes. -/
def StaticContext.withNamespaces (static : StaticContext) (namespaces : Table String String) :
    StaticContext :=
  { static with namespaces }

section Renaming

variable {prefixes : PrefixRenaming} {static : StaticContext} {namespaces : Table String String}
  {source text : String}

/-- A prefix that keeps its binding stands for the same namespace, or fails as before. -/
theorem StaticContext.renames_namespaceOf {nsPrefix : String}
    (keeps : prefixes.KeepsBinding static.namespaces namespaces nsPrefix) :
    prefixes.Renames text (static.namespaceOf nsPrefix)
      ((static.withNamespaces namespaces).namespaceOf (prefixes.apply nsPrefix)) := by
  by_cases isXml : nsPrefix = "xml"
  · subst isXml
    rw [prefixes.reserved]
    rfl
  · obtain ⟨other, bound⟩ := keeps isXml
    change (static.withNamespaces namespaces).namespaces.get? _ = _ at bound
    rw [namespaceOf, namespaceOf, if_neg (by simpa using isXml),
      if_neg (by simpa using other), bound]
    cases static.namespaces.get? nsPrefix <;> rfl

/-- A name whose prefix keeps its binding expands to the same name. -/
theorem StaticContext.renames_expand {name : String}
    (keeps : ∀ nsPrefix, (splitQName name).1 = some nsPrefix →
      prefixes.KeepsBinding static.namespaces namespaces nsPrefix) (unprefixedUri : String) :
    prefixes.Renames text (static.expand name unprefixedUri)
      ((static.withNamespaces namespaces).expand (prefixes.qName name) unprefixedUri) := by
  unfold expand
  rw [prefixes.splitQName_qName]
  rcases split : splitQName name with ⟨_ | nsPrefix, localName⟩
  · exact .ok _
  · exact (renames_namespaceOf (keeps nsPrefix (congrArg Prod.fst split))).map _

/-- What a registry reports is about expanded names. -/
theorem Registry.renames_resolve (registry : Registry) (name : ExpandedName) (count : Nat)
    (location : Location) :
    prefixes.Renames text (registry.resolve name count location)
      (registry.resolve name count location) := by
  have external : prefixes.Renames text (registry.resolveExternal name location)
      (registry.resolveExternal name location) := by
    unfold resolveExternal
    split
    · rfl
    · split
      · rfl
      · split <;> rfl
  rw [resolve_eq_bind]
  refine PrefixRenaming.Renames.bind ?_ fun function => ?_
  · cases registry.get? name with
    | none => exact external
    | some function => exact .ok function
  · split <;> rfl

namespace Expr

/-! ### Steps -/

variable {test : NodeTest}

/-- A test of elements is the same after its prefix is renamed. -/
theorem renames_elementTest
    (keeps : ∀ nsPrefix, test.prefix? = some nsPrefix →
      prefixes.KeepsBinding static.namespaces namespaces nsPrefix) :
    prefixes.Renames text (elementTest static test)
      (elementTest (static.withNamespaces namespaces) (prefixes.nodeTest test)) := by
  cases test with
  | named name => exact (StaticContext.renames_expand keeps _).map _
  | anyWithPrefix nsPrefix => exact (StaticContext.renames_namespaceOf (keeps nsPrefix rfl)).map _
  | any | anyWithLocal => exact .ok _
  | kind test => cases test <;> exact .ok _

/-- A test of attributes is the same after its prefix is renamed, or is refused for the same reason.
-/
theorem renames_attributeTest
    (keeps : ∀ nsPrefix, test.prefix? = some nsPrefix →
      prefixes.KeepsBinding static.namespaces namespaces nsPrefix) :
    prefixes.Renames text (attributeTest static source test)
      (attributeTest (static.withNamespaces namespaces) text (prefixes.nodeTest test)) := by
  cases test with
  | named name => exact (StaticContext.renames_expand keeps _).map _
  | anyWithPrefix nsPrefix => exact (StaticContext.renames_namespaceOf (keeps nsPrefix rfl)).map _
  | any | anyWithLocal => exact .ok _
  | kind test => cases test <;> rfl

theorem renames_bareStep (axis : Axis) (tree : Tree) :
    prefixes.Renames text (bareStep static source axis tree test)
      (bareStep (static.withNamespaces namespaces) text axis tree (prefixes.nodeTest test)) := by
  cases test with
  | kind test => cases test <;> rfl
  | _ => rfl

/-- Steps compile alike with other prefixes. -/
theorem renames_stepTree (axis : Axis)
    (keeps : ∀ nsPrefix, test.prefix? = some nsPrefix →
      prefixes.KeepsBinding static.namespaces namespaces nsPrefix) :
    prefixes.Renames text (stepTree static source axis test)
      (stepTree (static.withNamespaces namespaces) text axis (prefixes.nodeTest test)) := by
  cases axis with
  | child => exact (renames_elementTest keeps).map _
  | «attribute» => exact (renames_attributeTest keeps).map _
  | self => exact renames_bareStep .self .self
  | parent => exact renames_bareStep .parent .parent

/-! ### Expressions -/

/-- Whether an expression compiles as it does with other prefixes, about another text. -/
def IsRenamed (prefixes : PrefixRenaming) (static : StaticContext)
    (namespaces : Table String String) (source text : String) (expr : Expr) : Prop :=
  prefixes.Renames text (expr.resolve static source)
    ((expr.renamed prefixes).resolve (static.withNamespaces namespaces) text)

/-- Expressions in a row compile alike if each of them does. -/
theorem renames_resolveAll {exprs : List Expr}
    (each : ∀ expr ∈ exprs, expr.IsRenamed prefixes static namespaces source text) :
    prefixes.Renames text (resolveAll static source exprs)
      (resolveAll (static.withNamespaces namespaces) text (renamedAll prefixes exprs)) := by
  induction exprs with
  | nil => exact .ok []
  | cons first rest inductionHypothesis =>
    obtain ⟨ofFirst, ofRest⟩ := List.forall_mem_cons.mp each
    exact PrefixRenaming.Renames.bind ofFirst fun tree => (inductionHypothesis ofRest).thenOk _

theorem renames_resolvePredicates {predicates : List Expr}
    (each : ∀ expr ∈ predicates, expr.IsRenamed prefixes static namespaces source text)
    (tree : Tree) :
    prefixes.Renames text (resolvePredicates static source tree predicates)
      (resolvePredicates (static.withNamespaces namespaces) text tree
        (renamedAll prefixes predicates)) := by
  induction predicates generalizing tree with
  | nil => exact .ok tree
  | cons first rest inductionHypothesis =>
    obtain ⟨ofFirst, ofRest⟩ := List.forall_mem_cons.mp each
    exact PrefixRenaming.Renames.bind ofFirst fun condition =>
      inductionHypothesis ofRest (.predicate tree condition)

theorem renames_resolveSteps {steps : List (Step Expr)}
    (keeps : ∀ step ∈ steps, ∀ nsPrefix, step.test.prefix? = some nsPrefix →
      prefixes.KeepsBinding static.namespaces namespaces nsPrefix)
    (each : ∀ expr ∈ steps.flatMap Step.predicates,
      expr.IsRenamed prefixes static namespaces source text) (path : Option Tree) :
    prefixes.Renames text (resolveSteps static source path steps)
      (resolveSteps (static.withNamespaces namespaces) text path
        (renamedSteps prefixes steps)) := by
  induction steps generalizing path with
  | nil => exact .ok path
  | cons first rest inductionHypothesis =>
    obtain ⟨keepsFirst, keepsRest⟩ := List.forall_mem_cons.mp keeps
    rw [List.flatMap_cons, List.forall_mem_append] at each
    exact (renames_stepTree first.axis keepsFirst).bind fun bare =>
      (renames_resolvePredicates each.1 bare).bind fun step =>
        inductionHypothesis keepsRest each.2 (some (joinStep path first.descendant step))

/-- The texts of a template have no prefixes, so it compiles alike if its expressions do. -/
theorem renames_resolveParts {pieces : List (TemplatePart Expr)}
    (each : ∀ expr ∈ pieces.filterMap TemplatePart.expression?,
      expr.IsRenamed prefixes static namespaces source text) :
    prefixes.Renames text (resolveParts static source pieces)
      (resolveParts (static.withNamespaces namespaces) text (renamedParts prefixes pieces)) := by
  induction pieces with
  | nil => exact .ok []
  | cons first rest inductionHypothesis =>
    cases first with
    | text content => exact (inductionHypothesis each).thenOk _
    | expression expr =>
      obtain ⟨ofFirst, ofRest⟩ := List.forall_mem_cons.mp each
      exact PrefixRenaming.Renames.bind ofFirst fun tree => (inductionHypothesis ofRest).thenOk _

/-- The start of a path compiles alike if it is an expression that does. -/
theorem renames_resolveStart {start : Option Expr} (absolute : Bool)
    (each : ∀ expr ∈ start.toList, expr.IsRenamed prefixes static namespaces source text) :
    prefixes.Renames text (resolveStart static source absolute start)
      (resolveStart (static.withNamespaces namespaces) text absolute
        (renamedStart prefixes start)) := by
  cases start with
  | none => exact .ok _
  | some start => exact (each start List.mem_cons_self).thenOk _

/-- An expression of two parts compiles alike if both of them do. -/
theorem renames_both {left right : Expr} (join : Tree → Tree → Tree)
    (each : ∀ part ∈ [left, right], part.IsRenamed prefixes static namespaces source text) :
    prefixes.Renames text
      (left.resolve static source >>= fun first =>
        right.resolve static source >>= fun second => .ok (join first second))
      ((left.renamed prefixes).resolve (static.withNamespaces namespaces) text >>= fun first =>
        (right.renamed prefixes).resolve (static.withNamespaces namespaces) text >>= fun second =>
          .ok (join first second)) := by
  obtain ⟨ofLeft, ofRight⟩ := List.forall_mem_cons.mp each
  exact PrefixRenaming.Renames.bind ofLeft fun first =>
    (List.forall_mem_singleton.mp ofRight).thenOk _

/-- If all prefixes of an expression are bound after they are replaced as they were before, then it
compiles to the same tree, or fails for the same reason. A function is looked up by its expanded
name, which is the same on both sides. -/
theorem isRenamed_of_keepsBinding (expr : Expr)
    (keeps : ∀ nsPrefix, expr.Uses nsPrefix →
      prefixes.KeepsBinding static.namespaces namespaces nsPrefix) :
    expr.IsRenamed prefixes static namespaces source text := by
  induction expr using induct with
  | step expr inductionHypothesis =>
    have each : ∀ part ∈ expr.parts, part.IsRenamed prefixes static namespaces source text :=
      fun part listed => inductionHypothesis part listed fun nsPrefix ⟨inner, within, uses⟩ =>
        keeps nsPrefix ⟨inner, .part listed within, uses⟩
    have here : ∀ nsPrefix, expr.UsesHere nsPrefix →
        prefixes.KeepsBinding static.namespaces namespaces nsPrefix :=
      fun nsPrefix uses => keeps nsPrefix ⟨expr, .refl expr, uses⟩
    have named : ∀ name, expr.name? = some name → ∀ nsPrefix, (splitQName name).1 = some nsPrefix →
        prefixes.KeepsBinding static.namespaces namespaces nsPrefix :=
      fun name named nsPrefix split => here nsPrefix (.inl ⟨name, named, split⟩)
    cases expr with
    | literal | number | empty => exact .ok _
    | sequence members => exact (renames_resolveAll each).thenOk _
    | reference name => exact (StaticContext.renames_expand (named name rfl) _).thenOk _
    | call name arguments =>
      exact (StaticContext.renames_expand (named name rfl) _).bind fun expanded =>
        (renames_resolveAll each).bind fun trees =>
          (static.registry.renames_resolve expanded trees.length static.location).thenOk _
    | binary left op right => exact renames_both (.binary · op ·) each
    | signed sign operand => exact (each operand List.mem_cons_self).thenOk _
    | union left right => exact renames_both .union each
    | path start absolute steps =>
      obtain ⟨ofStart, ofSteps⟩ := List.forall_mem_append.mp each
      have tests : ∀ step ∈ steps, ∀ nsPrefix, step.test.prefix? = some nsPrefix →
          prefixes.KeepsBinding static.namespaces namespaces nsPrefix :=
        fun step listed nsPrefix found => here nsPrefix (.inr ⟨step, listed, found⟩)
      refine (renames_resolveStart absolute ofStart).bind fun origin =>
        (renames_resolveSteps tests ofSteps origin).bind fun whole => ?_
      cases whole <;> rfl
    | filter primary predicates =>
      obtain ⟨ofPrimary, ofPredicates⟩ := List.forall_mem_cons.mp each
      exact PrefixRenaming.Renames.bind ofPrimary (renames_resolvePredicates ofPredicates)
    | template pieces => exact (renames_resolveParts each).thenOk _

/-- Only expanded names matter. If all prefixes of an expression are replaced and are bound
afterwards as they were before, then it compiles to the same tree, or both before and after there is
an error, of the same kind and with nothing else in it than another prefix and another text. -/
theorem resolve_renamed (prefixes : PrefixRenaming) (static : StaticContext)
    (namespaces : Table String String) (expr : Expr)
    (keeps : ∀ nsPrefix, expr.Uses nsPrefix →
      prefixes.KeepsBinding static.namespaces namespaces nsPrefix) (source text : String) :
    (∃ tree, expr.resolve static source = .ok tree ∧
      (expr.renamed prefixes).resolve (static.withNamespaces namespaces) text = .ok tree) ∨
    ∃ error other, expr.resolve static source = .error error ∧
      (expr.renamed prefixes).resolve (static.withNamespaces namespaces) text = .error other ∧
      other.kind = error.kind ∧ other = prefixes.error text error := by
  have same : (expr.renamed prefixes).resolve (static.withNamespaces namespaces) text =
      (expr.resolve static source).mapError (prefixes.error text) :=
    isRenamed_of_keepsBinding expr keeps
  rw [same]
  cases expr.resolve static source with
  | ok tree => exact .inl ⟨tree, rfl, rfl⟩
  | error error => exact .inr ⟨error, _, rfl, rfl, prefixes.kind_error text error, rfl⟩

end Expr

end Renaming

/-- The renaming that exchanges two prefixes. -/
def PrefixRenaming.exchange : PrefixRenaming where
  apply nsPrefix := if nsPrefix = "a" then "b" else if nsPrefix = "b" then "a" else nsPrefix
  reserved := rfl
  plain nsPrefix plain := by
    split_ifs
    · decide
    · decide
    · exact plain

/-- A prefix in a name, in a predicate, before an attribute and in a variable, exchanged for another
one with the same namespace; and a prefix without a namespace, exchanged for another one without. -/
theorem Expr.resolve_renamed_exchange :
    let static : StaticContext := { namespaces := Table.empty.insert "a" "urn:a" }
    let namespaces := Table.empty.insert "b" "urn:a"
    (∃ expr tree, Expr.readTemplate "\x7bcount(a:item[@a:id = $a:x])\x7d" {} = .ok expr ∧
      expr.resolve static "" = .ok tree ∧
      (expr.renamed .exchange).resolve (static.withNamespaces namespaces) "" = .ok tree) ∧
    ∃ expr error other, Expr.read "a:item | b:item" {} = .ok expr ∧
      expr.resolve static "" = .error error ∧
      (expr.renamed .exchange).resolve (static.withNamespaces namespaces) "" = .error other ∧
      error.kind = .undeclaredPrefix ∧ other.kind = .undeclaredPrefix := by
  intro static namespaces
  have keeps : ∀ nsPrefix,
      PrefixRenaming.exchange.KeepsBinding static.namespaces namespaces nsPrefix := by
    intro nsPrefix other
    by_cases first : nsPrefix = "a"
    · subst first
      decide
    · by_cases second : nsPrefix = "b"
      · subst second
        decide
      · have same : PrefixRenaming.exchange.apply nsPrefix = nsPrefix :=
          (if_neg first).trans (if_neg second)
        rw [same]
        refine ⟨other, ?_⟩
        rw [Table.get?_insert, Table.get?_insert, if_neg (Ne.symm first), if_neg (Ne.symm second)]
  have compiled : ((Expr.readTemplate "\x7bcount(a:item[@a:id = $a:x])\x7d" {}).map fun expr =>
      (expr.resolve static "").toOption.isSome).toOption = some true := by decide +kernel
  have refused : ((Expr.read "a:item | b:item" {}).map fun expr =>
      (match expr.resolve static "" with
        | .ok _ => none
        | .error error => some error.kind)).toOption = some (some .undeclaredPrefix) := by
            decide +kernel
  constructor
  · obtain ⟨expr, reads, succeeds⟩ := ok_map_iff.mp (ok_of_toOption compiled)
    rcases resolve_renamed .exchange static namespaces expr
        (fun nsPrefix _ => keeps nsPrefix) "" "" with
      ⟨tree, before, after⟩ | ⟨error, _, fails, _⟩
    · exact ⟨expr, tree, reads, before, after⟩
    · rw [fails] at succeeds
      cases succeeds
  · obtain ⟨expr, reads, fails⟩ := ok_map_iff.mp (ok_of_toOption refused)
    rcases resolve_renamed .exchange static namespaces expr
        (fun nsPrefix _ => keeps nsPrefix) "" "" with
      ⟨tree, before, after⟩ | ⟨error, other, before, after, same, _⟩
    · rw [before] at fails
      cases fails
    · rw [before] at fails
      have kind := Option.some.inj fails
      exact ⟨expr, error, other, reads, before, after, kind, same.trans kind⟩

end StreamPath
