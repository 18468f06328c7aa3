/-
What the grammar makes of expressions. Every level of the grammar reads expressions of the tighter
levels and puts them together, or reads nested expressions behind a parenthesis, a bracket or a
comma. So a property of expressions that passes from the parts to what the grammar puts together of
them holds of everything that is read, whatever the text. The levels are gone through once, for any
such property.
-/

import StreamPath.Expr.Read
import StreamPath.Proofs.Parse

namespace StreamPath

/-! ### What readers answer with -/

namespace Parse

variable {α β : Type} {item : Parse α} {property : α → Prop} {wanted : β → Prop}

/-- Whether everything that a reader answers with has a property. -/
def Gives (item : Parse α) (property : α → Prop) : Prop :=
  ∀ text value rest, item text = some (value, rest) → property value

theorem Gives.pure {value : α} (holds : property value) :
    (Pure.pure value : Parse α).Gives property := by
  intro text other rest reads
  obtain ⟨rfl, -⟩ := Prod.mk.inj (Option.some.inj reads)
  exact holds

/-- The second part only needs to keep the wanted property for what the first one can answer with.
-/
theorem Gives.bind (first : item.Gives property) {next : α → Parse β}
    (each : ∀ value, property value → (next value).Gives wanted) :
    (item >>= next).Gives wanted := by
  intro text value rest reads
  obtain ⟨middle, between, ofFirst, ofNext⟩ := exists_of_bind reads
  exact each middle (first _ _ _ ofFirst) _ _ _ ofNext

/-- What is read first need not matter. -/
theorem Gives.after {next : α → Parse β} (each : ∀ value, (next value).Gives wanted) :
    (item >>= next).Gives wanted := by
  have any : item.Gives fun _ => True := fun _ _ _ _ => trivial
  exact any.bind fun value _ => each value

theorem Gives.map {f : α → β} (each : item.Gives fun value => wanted (f value)) :
    (Parse.map f item).Gives wanted := by
  intro text value rest reads
  obtain ⟨⟨middle, between⟩, ofItem, same⟩ := Option.map_eq_some_iff.mp reads
  obtain ⟨rfl, rfl⟩ := Prod.mk.inj same
  exact each _ _ _ ofItem

/-- Where an item may be missing, the property is that of the item if it is there. -/
theorem Gives.optional (each : item.Gives property) :
    (Parse.optional item).Gives fun answer => ∀ value, answer = some value → property value := by
  intro text answer rest reads
  unfold Parse.optional at reads
  split at reads
  · next value behind found =>
    obtain ⟨rfl, -⟩ := Prod.mk.inj (Option.some.inj reads)
    rintro _ ⟨⟩
    exact each _ _ _ found
  · obtain ⟨rfl, -⟩ := Prod.mk.inj (Option.some.inj reads)
    exact nofun

/-- Either of two readers may have answered. -/
theorem Gives.orElse {other : Parse α} (one : item.Gives property) (two : other.Gives property) :
    (Parse.orElse item other).Gives property := by
  intro text value rest reads
  unfold Parse.orElse at reads
  split at reads
  · next result found => exact one _ _ _ (found.trans reads)
  · exact two _ _ _ reads

theorem Gives.firstOf {choices : List (Parse α)}
    (each : ∀ choice ∈ choices, choice.Gives property) :
    (Parse.firstOf choices).Gives property := by
  intro text value rest reads
  obtain ⟨choice, listed, found⟩ := exists_of_firstOf reads
  exact each choice listed _ _ _ found

theorem Gives.spaced (each : item.Gives property) : (Parse.spaced item).Gives property :=
  .after fun _ => each.bind fun _ holds => .after fun _ => .pure holds

/-- Everything that is read in a row has the property. -/
theorem Gives.many (each : item.Gives property) :
    (Parse.many item).Gives fun values => ∀ value ∈ values, property value := by
  have within : ∀ limit text, ∀ value ∈ (manyWithin item limit text).1, property value := by
    intro limit
    induction limit with
    | zero => exact fun _ => List.forall_mem_nil _
    | succ limit inductionHypothesis =>
      intro text
      rw [manyWithin]
      cases reads : item text with
      | none => exact List.forall_mem_nil _
      | some result =>
        exact List.forall_mem_cons.mpr ⟨each _ _ _ reads, inductionHypothesis result.2⟩
  intro text values rest reads
  have same : (manyWithin item text.length text).1 = values :=
    congrArg Prod.fst (Option.some.inj reads)
  exact same ▸ within text.length text

/-- Everything that is read between separators has the property. -/
theorem Gives.separatedBy {separator : Parse Unit} (each : item.Gives property) :
    (Parse.separatedBy separator item).Gives fun values => ∀ value ∈ values, property value := by
  intro text values rest reads
  unfold Parse.separatedBy at reads
  split at reads
  · obtain ⟨rfl, -⟩ := Prod.mk.inj (Option.some.inj reads)
    exact List.forall_mem_nil _
  · next first between found =>
    obtain ⟨⟨others, last⟩, ofOthers, same⟩ := Option.map_eq_some_iff.mp reads
    obtain ⟨rfl, rfl⟩ := Prod.mk.inj same
    have further : (do separator; item : Parse α).Gives property := .after fun _ => each
    exact List.forall_mem_cons.mpr ⟨each _ _ _ found, further.many _ _ _ ofOthers⟩

end Parse

/-! ### Properties that the grammar keeps -/

namespace Grammar

open Parse (Gives)

/-- Whether the predicates of steps have a property. -/
def OfPredicates (property : Expr → Prop) (steps : List (Step Expr)) : Prop :=
  ∀ step ∈ steps, ∀ predicate ∈ step.predicates, property predicate

/-- Whether a path begins at the document root, or with a step that no double slash precedes. -/
def BeginsPath (absolute : Bool) (steps : List (Step Expr)) : Prop :=
  absolute = true ∨ ∃ first rest, steps = first :: rest ∧ first.descendant = false

/-- Whether a property passes from expressions to those that the grammar makes of them. -/
structure Keeps (property : Expr → Prop) : Prop where
  literal : ∀ content, property (.literal content)
  number : ∀ value, property (.number value)
  reference : ∀ name, property (.reference name)
  empty : property .empty
  sequence : ∀ {members}, (∀ member ∈ members, property member) → property (.sequence members)
  call : ∀ name {arguments}, (∀ argument ∈ arguments, property argument) →
    property (.call name arguments)
  filter : ∀ {primary predicates}, property primary →
    (∀ predicate ∈ predicates, property predicate) → property (.filter primary predicates)
  path : ∀ {absolute steps}, OfPredicates property steps → BeginsPath absolute steps →
    property (.path none absolute steps)
  followedBy : ∀ {start steps}, property start → OfPredicates property steps →
    property (followedBy start steps)
  union : ∀ {left right}, property left → property right → property (.union left right)
  signed : ∀ sign {operand}, property operand → property (.signed sign operand)
  binary : ∀ op {left right}, property left → property right → property (.binary left op right)

variable {property : Expr → Prop} {nested : Parse Expr}

/-! ### Steps -/

theorem OfPredicates.append {before after : List (Step Expr)} (one : OfPredicates property before)
    (two : OfPredicates property after) : OfPredicates property (before ++ after) := by
  intro step listed
  rcases List.mem_append.mp listed with early | late
  · exact one step early
  · exact two step late

theorem gives_predicate (inside : nested.Gives property) : (predicate nested).Gives property :=
  .after fun _ => inside.bind fun _ holds => .after fun _ => .pure holds

/-- A first step has no double slash, and its predicates come from the nested expressions. -/
theorem gives_step (inside : nested.Gives property) :
    (step nested).Gives fun first =>
      first.descendant = false ∧ ∀ predicate ∈ first.predicates, property predicate :=
  .after fun _ => (gives_predicate inside).many.bind fun _ holds => .pure ⟨rfl, holds⟩

theorem gives_furtherStep (inside : nested.Gives property) :
    (furtherStep nested).Gives fun next => ∀ predicate ∈ next.predicates, property predicate :=
  .after fun _ => (gives_step inside).bind fun _ holds => .pure holds.2

theorem gives_furtherSteps (inside : nested.Gives property) :
    (Parse.many (furtherStep nested)).Gives (OfPredicates property) :=
  (gives_furtherStep inside).many

/-- A path begins at the root or with a step that no double slash precedes, and all predicates come
from the nested expressions. -/
theorem gives_pathStart (inside : nested.Gives property) :
    (pathStart nested).Gives fun start =>
      OfPredicates property start.2 ∧ BeginsPath start.1 start.2 := by
  have single : ∀ {first : Step Expr}, (∀ predicate ∈ first.predicates, property predicate) →
      OfPredicates property [first] := fun holds => List.forall_mem_singleton.mpr holds
  intro text value rest reads
  unfold pathStart at reads
  split at reads
  · obtain ⟨⟨first, _⟩, ofStep, same⟩ := Option.map_eq_some_iff.mp reads
    obtain ⟨rfl, -⟩ := Prod.mk.inj same
    exact ⟨single (gives_step inside _ _ _ ofStep).2, .inl rfl⟩
  · obtain ⟨⟨first, _⟩, ofStep, same⟩ := Option.map_eq_some_iff.mp reads
    obtain ⟨rfl, -⟩ := Prod.mk.inj same
    refine ⟨fun step listed => ?_, .inl rfl⟩
    exact ((gives_step inside).optional _ _ _ ofStep step (Option.mem_toList.mp listed)).2
  · obtain ⟨⟨first, _⟩, ofStep, same⟩ := Option.map_eq_some_iff.mp reads
    obtain ⟨rfl, -⟩ := Prod.mk.inj same
    obtain ⟨bare, holds⟩ := gives_step inside _ _ _ ofStep
    exact ⟨single holds, .inr ⟨first, [], rfl, bare⟩⟩

/-- A path has every property that the grammar keeps, if its predicates have. -/
theorem gives_locationPath (keeps : Keeps property) (inside : nested.Gives property) :
    (locationPath nested).Gives property := by
  refine (gives_pathStart inside).bind ?_
  rintro ⟨absolute, steps⟩ ⟨ofSteps, begins⟩
  refine (gives_furtherSteps inside).bind fun further ofFurther =>
    .pure (keeps.path (ofSteps.append ofFurther) ?_)
  rcases begins with root | ⟨first, rest, rfl, bare⟩
  · exact .inl root
  · exact .inr ⟨first, rest ++ further, rfl, bare⟩

/-! ### Primary expressions -/

theorem gives_members (inside : nested.Gives property) :
    (members nested).Gives fun exprs => ∀ expr ∈ exprs, property expr :=
  .after fun _ => inside.separatedBy.bind fun _ holds => .after fun _ => .pure holds

/-- One expression in parentheses stands for itself, and any other number of them is a sequence. -/
theorem gives_parenthesized (keeps : Keeps property) (inside : nested.Gives property) :
    (parenthesized nested).Gives property := by
  refine .map fun text exprs rest reads => ?_
  have holds := gives_members inside _ _ _ reads
  match exprs with
  | [] => exact keeps.empty
  | [single] => exact holds single List.mem_cons_self
  | _ :: _ :: _ => exact keeps.sequence holds

/-- A call has every property that the grammar keeps, if its arguments have. -/
theorem gives_call (keeps : Keeps property) (inside : nested.Gives property) :
    (call nested).Gives property := by
  intro text value rest reads
  obtain ⟨⟨name, between⟩, _, more⟩ := Option.bind_eq_some_iff.mp reads
  obtain ⟨_, _, last⟩ := Option.bind_eq_some_iff.mp more
  split at last
  · cases last
  · have whole : (Parse.map (Expr.call name) (members nested)).Gives property :=
      .map fun _ _ _ found => keeps.call name (gives_members inside _ _ _ found)
    exact whole _ _ _ last

/-- A primary expression has every property that the grammar keeps, if the expressions inside it
have. -/
theorem gives_primary (keeps : Keeps property) (inside : nested.Gives property) :
    (primary nested).Gives property := by
  refine Gives.spaced (.firstOf fun choice listed => ?_)
  simp only [List.mem_cons, List.not_mem_nil, or_false] at listed
  rcases listed with rfl | rfl | rfl | rfl | rfl
  · exact .after fun _ => .after fun _ => .pure (keeps.reference _)
  · exact .map fun _ _ _ _ => keeps.number _
  · exact .map fun _ _ _ _ => keeps.literal _
  · exact gives_call keeps inside
  · exact gives_parenthesized keeps inside

/-- Predicates behind a primary expression keep its property. -/
theorem gives_filtered (keeps : Keeps property) (inside : nested.Gives property) :
    (filtered nested).Gives property := by
  refine (gives_primary keeps inside).bind fun primary holds =>
    (gives_predicate inside).many.bind fun predicates ofPredicates => .pure ?_
  split
  · exact holds
  · exact keeps.filter holds ofPredicates

/-! ### Operators -/

theorem gives_pathLevel (keeps : Keeps property) (inside : nested.Gives property) :
    (pathLevel nested).Gives property :=
  ((gives_filtered keeps inside).orElse (gives_locationPath keeps inside)).bind fun _ holds =>
    (gives_furtherSteps inside).bind fun _ ofSteps => .pure (keeps.followedBy holds ofSteps)

theorem gives_unionLevel (keeps : Keeps property) (inside : nested.Gives property) :
    (unionLevel nested).Gives property := by
  have another : (do Parse.spaced (Parse.char '|'); pathLevel nested : Parse Expr).Gives property :=
    .after fun _ => gives_pathLevel keeps inside
  refine (gives_pathLevel keeps inside).bind fun first holds =>
    another.many.bind fun more others => .pure ?_
  induction more generalizing first with
  | nil => exact holds
  | cons second rest inductionHypothesis =>
    obtain ⟨here, later⟩ := List.forall_mem_cons.mp others
    exact inductionHypothesis (.union first second) (keeps.union holds here) later

theorem gives_signLevel (keeps : Keeps property) (inside : nested.Gives property) :
    (signLevel nested).Gives property := by
  refine .after fun signs => (gives_unionLevel keeps inside).bind fun operand holds => .pure ?_
  induction signs with
  | nil => exact holds
  | cons sign signs inductionHypothesis => exact keeps.signed sign inductionHypothesis

/-- Operators of one level join operands from the left, and every join keeps the property. -/
theorem gives_leftAssociative (keeps : Keeps property) {operand : Parse Expr}
    (operator : Parse BinaryOp) (each : operand.Gives property) :
    (leftAssociative operand operator).Gives property := by
  have another : (do
      let op ← Parse.spaced operator
      let right ← operand
      return (op, right) : Parse (BinaryOp × Expr)).Gives fun more => property more.2 :=
    .after fun _ => each.bind fun _ holds => .pure holds
  refine each.bind fun first holds => another.many.bind fun more others => .pure ?_
  induction more generalizing first with
  | nil => exact holds
  | cons second rest inductionHypothesis =>
    obtain ⟨here, later⟩ := List.forall_mem_cons.mp others
    exact inductionHypothesis (.binary first second.1 second.2) (keeps.binary second.1 holds here)
      later

/-- What is read at most so deep has every property that the grammar keeps, by induction on the
depth. -/
theorem gives_expressionWithin (keeps : Keeps property) (depth : Nat) :
    (expressionWithin depth).Gives property := by
  induction depth with
  | zero => exact nofun
  | succ depth inductionHypothesis =>
    have operand := gives_signLevel keeps inductionHypothesis
    exact gives_leftAssociative keeps _
      (gives_leftAssociative keeps _ (gives_leftAssociative keeps _
      (gives_leftAssociative keeps _ (gives_leftAssociative keeps _
        (gives_leftAssociative keeps _ operand)))))

/-- Every expression that is read has every property that the grammar keeps. -/
theorem gives_expression (keeps : Keeps property) : expression.Gives property :=
  fun text => gives_expressionWithin keeps (text.length + 1) text

end Grammar

/-! ### Whole texts -/

/-- What is read from a text has the properties that the grammar keeps. -/
theorem Expr.of_read {property : Expr → Prop} (keeps : Grammar.Keeps property) {text : String}
    {location : Location} {expr : Expr} (reads : Expr.read text location = .ok expr) :
    property expr := by
  unfold Expr.read at reads
  split at reads
  · next found =>
    obtain rfl := Except.ok.inj reads
    exact Grammar.gives_expression keeps _ _ _ found
  · cases reads
  · cases reads

end StreamPath
