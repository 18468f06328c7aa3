/-
What stands in an expression. Names and calls can be hidden anywhere in it: among the members of a
sequence, in arguments, in the predicates of a filter or of a step, at the start of a path, in the
braces of a template. All of these are parts of the expression in one sense, so that what holds
everywhere in an expression is said once, and an induction over expressions has one case for all
parts.
-/

import Mathlib.Data.List.Basic
import StreamPath.Proofs.Grammar
import StreamPath.Proofs.Yields

namespace StreamPath

/-- The expression of a part of a template, unless it is text. -/
def TemplatePart.expression? {ε : Type} : TemplatePart ε → Option ε
  | .text _ => none
  | .expression expr => some expr

namespace Expr

/-! ### Parts -/

/-- The expressions that stand in an expression and in none of its other parts. -/
def parts : Expr → List Expr
  | sequence members | call _ members => members
  | binary left _ right | union left right => [left, right]
  | signed _ operand => [operand]
  | path start _ steps => start.toList ++ steps.flatMap Step.predicates
  | filter primary predicates => primary :: predicates
  | template pieces => pieces.filterMap TemplatePart.expression?
  | _ => []

/-- Parts are smaller than the whole. -/
theorem sizeOf_lt_of_mem_parts {expr part : Expr} (listed : part ∈ expr.parts) :
    sizeOf part < sizeOf expr := by
  cases expr with
  | literal | number | empty | reference => cases listed
  | sequence members =>
    have less : sizeOf part < sizeOf members := List.sizeOf_lt_of_mem listed
    rw [sequence.sizeOf_spec]
    omega
  | call name arguments =>
    have less : sizeOf part < sizeOf arguments := List.sizeOf_lt_of_mem listed
    rw [call.sizeOf_spec]
    omega
  | binary left op right =>
    rw [binary.sizeOf_spec]
    rcases List.mem_pair.mp listed with rfl | rfl <;> omega
  | union left right =>
    rw [union.sizeOf_spec]
    rcases List.mem_pair.mp listed with rfl | rfl <;> omega
  | signed sign operand =>
    obtain rfl := List.mem_singleton.mp listed
    rw [signed.sizeOf_spec]
    omega
  | path start absolute steps =>
    rw [path.sizeOf_spec]
    rcases List.mem_append.mp listed with starts | inSteps
    · obtain rfl := Option.mem_toList.mp starts
      rw [Option.some.sizeOf_spec]
      omega
    · obtain ⟨⟨descendant, axis, test, predicates⟩, stepListed, listed⟩ :=
        List.mem_flatMap.mp inSteps
      have outer := List.sizeOf_lt_of_mem stepListed
      have inner : sizeOf part < sizeOf predicates := List.sizeOf_lt_of_mem listed
      rw [Step.mk.sizeOf_spec] at outer
      omega
  | filter primary predicates =>
    rw [filter.sizeOf_spec]
    rcases List.mem_cons.mp listed with rfl | listed
    · omega
    · have less := List.sizeOf_lt_of_mem listed
      omega
  | template pieces =>
    obtain ⟨piece, pieceListed, found⟩ := List.mem_filterMap.mp listed
    have less := List.sizeOf_lt_of_mem pieceListed
    rw [template.sizeOf_spec]
    cases piece with
    | text content => cases found
    | expression inner =>
      obtain rfl := Option.some.inj found
      rw [TemplatePart.expression.sizeOf_spec] at less
      omega

/-- What passes from the parts of an expression to the expression holds of all expressions. -/
theorem induct {holds : Expr → Prop}
    (step : ∀ expr, (∀ part ∈ expr.parts, holds part) → holds expr) (expr : Expr) : holds expr :=
  step expr fun part _ => induct step part
termination_by sizeOf expr
decreasing_by exact sizeOf_lt_of_mem_parts ‹_›

/-! ### What holds everywhere -/

/-- Whether an expression is another one or stands somewhere in it. -/
inductive Within : Expr → Expr → Prop
  | refl (expr : Expr) : Within expr expr
  | part {inner part whole : Expr} (listed : part ∈ whole.parts) (within : inner.Within part) :
      Within inner whole

/-- Whether an expression and all that stands in it have a property. -/
def Everywhere (property : Expr → Prop) (expr : Expr) : Prop :=
  ∀ inner, inner.Within expr → property inner

variable {property : Expr → Prop}

/-- What holds everywhere holds of an expression and everywhere in its parts. -/
theorem everywhere_iff {expr : Expr} :
    expr.Everywhere property ↔ property expr ∧ ∀ part ∈ expr.parts, part.Everywhere property := by
  constructor
  · intro all
    exact ⟨all expr (.refl expr), fun part listed inner within => all inner (.part listed within)⟩
  · rintro ⟨here, below⟩ inner within
    cases within with
    | refl => exact here
    | part listed within => exact below _ listed inner within

end Expr

/-! ### Paths that lead somewhere -/

/-- Whether an expression is a path that has neither a start nor a step. -/
def Expr.isEmptyPath : Expr → Bool
  | path none false [] => true
  | _ => false

/-- Whether no path in an expression is without a start and without a step. -/
def Expr.LeadsOn (expr : Expr) : Prop := expr.Everywhere fun inner => inner.isEmptyPath = false

namespace Grammar

variable {start : Expr} {steps : List (Step Expr)}

/-- The parts of a path with further steps are those before the steps and the predicates in them. -/
theorem mem_parts_followedBy {part : Expr} (listed : part ∈ (followedBy start steps).parts) :
    part = start ∨ part ∈ start.parts ∨ part ∈ steps.flatMap Step.predicates := by
  unfold followedBy at listed
  split at listed
  · exact .inr (.inl listed)
  · split at listed
    · rw [Expr.parts, List.flatMap_append, ← List.append_assoc] at listed
      exact .inr (List.mem_append.mp listed)
    · rcases List.mem_append.mp listed with starts | inSteps
      · exact .inl (List.mem_singleton.mp starts)
      · exact .inr (.inr inSteps)

theorem isEmptyPath_followedBy (leads : start.isEmptyPath = false) :
    (followedBy start steps).isEmptyPath = false := by
  unfold followedBy
  split
  · exact leads
  · next some =>
    split
    · next origin absolute before =>
      cases origin with
      | some origin => rfl
      | none =>
        cases absolute with
        | true => rfl
        | false =>
          cases before with
          | nil => cases leads
          | cons first rest => rfl
    · rfl

theorem OfPredicates.of_mem {property : Expr → Prop} (each : OfPredicates property steps)
    {part : Expr} (listed : part ∈ steps.flatMap Step.predicates) : property part := by
  obtain ⟨step, stepListed, listed⟩ := List.mem_flatMap.mp listed
  exact each step stepListed part listed

/-- The grammar reads no path that leads nowhere inside an expression. -/
theorem keeps_leadsOn : Keeps Expr.LeadsOn where
  literal _ := Expr.everywhere_iff.mpr ⟨rfl, List.forall_mem_nil _⟩
  number _ := Expr.everywhere_iff.mpr ⟨rfl, List.forall_mem_nil _⟩
  reference _ := Expr.everywhere_iff.mpr ⟨rfl, List.forall_mem_nil _⟩
  empty := Expr.everywhere_iff.mpr ⟨rfl, List.forall_mem_nil _⟩
  sequence members := Expr.everywhere_iff.mpr ⟨rfl, members⟩
  call _ _ arguments := Expr.everywhere_iff.mpr ⟨rfl, arguments⟩
  filter primary predicates :=
    Expr.everywhere_iff.mpr ⟨rfl, List.forall_mem_cons.mpr ⟨primary, predicates⟩⟩
  path {absolute steps} predicates begins := by
    refine Expr.everywhere_iff.mpr ⟨?_, fun part listed => predicates.of_mem listed⟩
    obtain rfl | ⟨first, rest, rfl, -⟩ := begins
    · rfl
    · cases absolute <;> rfl
  followedBy {start steps} ofStart predicates := by
    obtain ⟨here, below⟩ := Expr.everywhere_iff.mp ofStart
    refine Expr.everywhere_iff.mpr ⟨isEmptyPath_followedBy here, fun part listed => ?_⟩
    rcases mem_parts_followedBy listed with rfl | within | inSteps
    · exact ofStart
    · exact below part within
    · exact predicates.of_mem inSteps
  union left right :=
    Expr.everywhere_iff.mpr ⟨rfl,
      List.forall_mem_cons.mpr ⟨left, List.forall_mem_singleton.mpr right⟩⟩
  signed _ _ operand := Expr.everywhere_iff.mpr ⟨rfl, List.forall_mem_singleton.mpr operand⟩
  binary _ _ _ left right :=
    Expr.everywhere_iff.mpr ⟨rfl,
      List.forall_mem_cons.mpr ⟨left, List.forall_mem_singleton.mpr right⟩⟩

end Grammar

/-! ### Whole texts -/

/-- The kinds of texts with expressions in them. -/
inductive TextKind where
  | expression
  | pattern
  | template
deriving Repr, DecidableEq

/-- Reads a text of a kind. -/
def TextKind.read : TextKind → String → Location → Except ExprError Expr
  | .expression => Expr.read
  | .pattern => Expr.readPattern
  | .template => Expr.readTemplate

namespace Expr

variable {text : String} {location : Location} {expr : Expr}

/-- To drop the double slash at the start of a path leaves its first step. -/
theorem LeadsOn.withoutLeadingDescent :
    {expr : Expr} → expr.LeadsOn → expr.withoutLeadingDescent.LeadsOn
  | union left right, leads => by
    obtain ⟨-, below⟩ := everywhere_iff.mp leads
    obtain ⟨ofLeft, ofRight⟩ := List.forall_mem_cons.mp below
    exact Grammar.keeps_leadsOn.union (withoutLeadingDescent ofLeft)
      (withoutLeadingDescent (List.forall_mem_singleton.mp ofRight))
  | path start true (first :: rest), leads => by
    rw [Expr.withoutLeadingDescent]
    split
    · obtain ⟨-, below⟩ := everywhere_iff.mp leads
      refine everywhere_iff.mpr ⟨?_, below⟩
      cases start <;> rfl
    · exact leads
  | path start true [], leads | path start false steps, leads => leads
  | literal _, leads | number _, leads | empty, leads | sequence _, leads | reference _, leads
  | call _ _, leads | binary _ _ _, leads | signed _ _, leads | filter _ _, leads
  | template _, leads => leads

theorem gives_embedded {property : Expr → Prop} (keeps : Grammar.Keeps property) :
    embedded.Gives property := by
  unfold embedded
  exact (Parse.Gives.spaced (Grammar.gives_expression keeps)).bind fun _ holds =>
    .after fun _ => .pure holds

theorem expressions_textPart (gathered : List Char) :
    (textPart gathered).filterMap TemplatePart.expression? = [] := by
  unfold textPart
  split <;> rfl

/-- The expressions in a template have every property that the grammar keeps. -/
theorem of_templateParts {property : Expr → Prop} (keeps : Grammar.Keeps property)
    {limit : Nat} {gathered text : List Char} {pieces : List (TemplatePart Expr)}
    (reads : templateParts limit gathered text = .ok pieces) :
    ∀ part ∈ pieces.filterMap TemplatePart.expression?, property part := by
  fun_induction templateParts limit gathered text generalizing pieces with
  | case1 =>
    obtain rfl := Except.ok.inj reads
    rw [expressions_textPart]
    exact List.forall_mem_nil _
  | case2 | case5 | case7 => cases reads
  | case3 _ _ _ inductionHypothesis | case4 _ _ _ inductionHypothesis
  | case8 _ _ _ _ _ _ _ _ inductionHypothesis => exact inductionHypothesis reads
  | case6 limit gathered rest _ expr behind found inductionHypothesis =>
    obtain ⟨others, ofOthers, ended⟩ := ok_bind_iff.mp reads
    obtain rfl := Except.ok.inj ended
    rw [List.filterMap_append, expressions_textPart]
    exact List.forall_mem_cons.mpr ⟨gives_embedded keeps _ _ _ found, inductionHypothesis ofOthers⟩

/-- No text has a path in it without a start and without a step. -/
theorem leadsOn_of_read {kind : TextKind} (reads : kind.read text location = .ok expr) :
    expr.LeadsOn := by
  cases kind with
  | expression => exact of_read Grammar.keeps_leadsOn reads
  | pattern =>
    obtain ⟨whole, ofWhole, ended⟩ := ok_bind_iff.mp reads
    split at ended
    · obtain rfl := Except.ok.inj ended
      exact (of_read Grammar.keeps_leadsOn ofWhole).withoutLeadingDescent
    · cases ended
  | template =>
    simp only [TextKind.read, readTemplate] at reads
    split at reads
    · next pieces ofPieces =>
      obtain rfl := Except.ok.inj reads
      exact everywhere_iff.mpr ⟨rfl, of_templateParts Grammar.keeps_leadsOn ofPieces⟩
    · cases reads

end Expr

end StreamPath
