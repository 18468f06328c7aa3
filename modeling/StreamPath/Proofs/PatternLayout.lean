/-
What patterns without predicates mean. Such a pattern lists routes down the chain of ancestors, each
as a row of tests with single and double slashes between them. A node matches exactly if some route
can be laid out on the chain with its last test at the node: a test after a single slash at the
entry directly above that of the test before it, and a test after a double slash anywhere above it.

A match goes the other way, from the node downwards, takes the first ancestor that will do at a
double slash, and gives up early near the bottom of the chain. One law for each form of pattern says
what its matches are in terms of those of its parts; along a route these laws add one stride after
the other, and none of the early ends cuts off a layout.
-/

import Mathlib.Data.List.Chain
import StreamPath.Proofs.PathStarts
import StreamPath.Proofs.PatternAgreement

namespace StreamPath

/-! ### Routes and their layouts -/

/-- One test of a route, with whether a double slash precedes it. -/
structure Stride where
  descendant : Bool
  test : Test

/-- One alternative of a pattern without predicates. A route that is not absolute starts with a test
that no slash precedes. -/
structure Route where
  absolute : Bool
  strides : List Stride

/-- Whether a stride can be placed at an index: its node passes the test, and an element or other
child stands above the document root, an attribute above one of those. -/
def Stride.FitsAt (stride : Stride) (context : Context) (index : Nat) : Prop :=
  (if stride.test.isForAttributes then 3 else 2) ≤ index ∧
    ∃ node, context.node? index = some node ∧ stride.test.accepts node = true

/-- Whether a placed stride can come after another one. -/
def Stride.Follows (earlier later : Stride × Nat) : Prop :=
  if later.1.descendant = true then earlier.2 < later.2 else later.2 = earlier.2 + 1

/-- A stride after another one is placed above it. -/
theorem Stride.Follows.lt {earlier later : Stride × Nat} (follows : Stride.Follows earlier later) :
    earlier.2 < later.2 := by
  unfold Stride.Follows at follows
  split at follows
  · exact follows
  · omega

theorem Stride.FitsAt.congr {stride : Stride} {context other : Context} {top index : Nat}
    (same : ∀ index, 1 ≤ index → index ≤ top → other.node? index = context.node? index)
    (fits : stride.FitsAt context index) (inside : index ≤ top) : stride.FitsAt other index := by
  obtain ⟨least, node, stands, passes⟩ := fits
  have positive : 1 ≤ index := by
    split at least <;> omega
  exact ⟨least, node, (same index positive inside).trans stands, passes⟩

namespace Route

/-- A layout of a route up to an index: the strides of the route, each with the index that it is
placed at. -/
structure LaidOut (route : Route) (context : Context) (top : Nat) (layout : List (Stride × Nat)) :
    Prop where
  strides : layout.map Prod.fst = route.strides
  ends : layout.getLast?.map Prod.snd = some top
  follows : layout.IsChain Stride.Follows
  /-- After a single slash at its start a route begins directly above the document root. -/
  starts : ∀ first ∈ layout.head?, route.absolute = true → first.1.descendant = false → first.2 = 2
  fits : ∀ place ∈ layout, place.1.FitsAt context place.2

/-- Whether a route leads to an index. The route without strides is the document root. -/
def LeadsTo (route : Route) (context : Context) (top : Nat) : Prop :=
  route.strides = [] ∧ top = 1 ∨ ∃ layout, route.LaidOut context top layout

end Route

/-! ### The routes of a pattern -/

namespace Expr

/-- Whether no step of a union of paths has a predicate. -/
def isPredicateFree : Expr → Bool
  | union left right => left.isPredicateFree && right.isPredicateFree
  | path _ _ steps => steps.all fun step => step.predicates.isEmpty
  | _ => true

variable (static : StaticContext) (text : String)

/-- Whether a step, with its names resolved, is a stride. -/
def HasStride (step : Step Expr) (stride : Stride) : Prop :=
  stride.descendant = step.descendant ∧
    stepTree static text step.axis step.test = .ok (.test stride.test)

/-- The routes of a union of paths, with their names resolved. -/
inductive HasRoute : Expr → Route → Prop where
  | left {left : Expr} {route : Route} (has : HasRoute left route) (right : Expr) :
    HasRoute (union left right) route
  | right {right : Expr} {route : Route} (left : Expr) (has : HasRoute right route) :
    HasRoute (union left right) route
  | path (absolute : Bool) {steps : List (Step Expr)} {strides : List Stride}
    (resolved : List.Forall₂ (HasStride static text) steps strides) :
    HasRoute (path none absolute steps) ⟨absolute, strides⟩

end Expr

/-! ### Laying out one stride more -/

namespace Route

variable {context : Context} {absolute : Bool} {strides : List Stride} {stride : Stride} {top : Nat}

theorem LaidOut.ne_nil {route : Route} {layout : List (Stride × Nat)}
    (laid : route.LaidOut context top layout) : layout ≠ [] := by
  rintro rfl
  cases laid.ends

/-- The last stride of a layout is placed at its end. -/
theorem LaidOut.last {route : Route} {layout : List (Stride × Nat)}
    (laid : route.LaidOut context top layout) :
    ∃ before last, layout = before ++ [(last, top)] ∧ last.FitsAt context top := by
  rcases List.eq_nil_or_concat layout with none | ⟨before, ⟨last, index⟩, rfl⟩
  · exact absurd none laid.ne_nil
  · have same := laid.ends
    rw [List.concat_eq_append, List.getLast?_concat] at same
    obtain rfl : index = top := Option.some.inj same
    refine ⟨before, last, List.concat_eq_append, laid.fits (last, index) ?_⟩
    rw [List.concat_eq_append]
    exact List.mem_concat_self

/-- Where a route with strides leads to is above the document root. -/
theorem LeadsTo.two_le {route : Route} (leads : route.LeadsTo context top)
    (some : route.strides ≠ []) : 2 ≤ top := by
  rcases leads with ⟨none, -⟩ | ⟨layout, laid⟩
  · exact absurd none some
  · obtain ⟨_, last, _, least, _⟩ := laid.last
    split at least
    · omega
    · exact least

theorem leadsTo_nil : (Route.mk absolute []).LeadsTo context top ↔ top = 1 := by
  constructor
  · rintro (⟨-, first⟩ | ⟨layout, laid⟩)
    · exact first
    · exact absurd (List.map_eq_nil_iff.mp laid.strides) laid.ne_nil
  · exact fun first => .inl ⟨rfl, first⟩

/-- A single stride can be placed anywhere, or directly above the document root after a single
slash. -/
theorem leadsTo_singleton :
    (Route.mk absolute [stride]).LeadsTo context top ↔ stride.FitsAt context top ∧
      (absolute = true → stride.descendant = false → top = 2) := by
  constructor
  · rintro (⟨none, -⟩ | ⟨layout, laid⟩)
    · cases none
    · obtain ⟨place, rfl, same⟩ := List.map_eq_singleton_iff.mp laid.strides
      obtain rfl : place.2 = top := Option.some.inj laid.ends
      subst same
      exact ⟨laid.fits place List.mem_cons_self, laid.starts place rfl⟩
  · rintro ⟨fits, starts⟩
    refine .inr ⟨[(stride, top)], rfl, rfl, List.isChain_singleton _, ?_, ?_⟩
    · rintro _ ⟨⟩
      exact starts
    · exact List.forall_mem_singleton.mpr fits

/-- A further stride is placed after a layout of the route before it. -/
theorem leadsTo_concat (some : strides ≠ []) :
    (Route.mk absolute (strides ++ [stride])).LeadsTo context top ↔ stride.FitsAt context top ∧
      ∃ below, Stride.Follows (stride, below) (stride, top) ∧
        (Route.mk absolute strides).LeadsTo context below := by
  constructor
  · rintro (⟨none, -⟩ | ⟨layout, laid⟩)
    · exact absurd none (List.append_ne_nil_of_right_ne_nil _ (List.cons_ne_nil _ _))
    · obtain ⟨before, last, rfl, fits⟩ := laid.last
      have same := laid.strides
      rw [List.map_append, List.map_singleton] at same
      obtain ⟨rfl, last⟩ := List.append_inj' same rfl
      obtain rfl := List.singleton_inj.mp last
      obtain ⟨chain, -, joined⟩ := List.isChain_append.mp laid.follows
      have filled : before ≠ [] := fun none => some (congrArg (List.map Prod.fst) none)
      obtain ⟨place, below⟩ : ∃ place, before.getLast? = Option.some place :=
        ⟨_, List.getLast?_eq_some_getLast filled⟩
      refine ⟨fits, place.2, joined place below _ rfl, .inr ⟨before, rfl, ?_, chain, ?_, ?_⟩⟩
      · rw [below, Option.map_some]
      · intro first starts
        refine laid.starts first ?_
        rw [List.head?_append, Option.mem_def.mp starts]
        rfl
      · exact fun place listed => laid.fits place (List.mem_append_left _ listed)
  · rintro ⟨fits, below, follows, ⟨none, -⟩ | ⟨layout, laid⟩⟩
    · exact absurd none some
    · refine .inr ⟨layout ++ [(stride, top)], ?_, ?_, ?_, ?_, ?_⟩
      · rw [List.map_append, laid.strides, List.map_singleton]
      · rw [List.getLast?_concat, Option.map_some]
      · refine List.isChain_append.mpr ⟨laid.follows, List.isChain_singleton _, ?_⟩
        rintro place last _ ⟨⟩
        have same := laid.ends
        rw [Option.mem_def.mp last, Option.map_some] at same
        obtain rfl := Option.some.inj same
        exact follows
      · intro first starts
        refine laid.starts first ?_
        rw [List.head?_append_of_ne_nil _ laid.ne_nil] at starts
        exact starts
      · exact List.forall_mem_append.mpr ⟨laid.fits, List.forall_mem_singleton.mpr fits⟩

/-- Only the entries up to the end of a route count. -/
theorem LeadsTo.congr {route : Route} {other : Context}
    (same : ∀ index, 1 ≤ index → index ≤ top → other.node? index = context.node? index)
    (leads : route.LeadsTo context top) : route.LeadsTo other top := by
  obtain ⟨absolute, strides⟩ := route
  induction strides using List.reverseRecOn generalizing top with
  | nil => exact leadsTo_nil.mpr (leadsTo_nil.mp leads)
  | append_singleton strides stride inductionHypothesis =>
    by_cases none : strides = []
    · subst none
      rw [List.nil_append, leadsTo_singleton] at leads ⊢
      exact ⟨leads.1.congr same (Nat.le_refl top), leads.2⟩
    · rw [leadsTo_concat none] at leads ⊢
      obtain ⟨fits, below, follows, before⟩ := leads
      have under := follows.lt
      refine ⟨fits.congr same (Nat.le_refl top), below, follows, inductionHypothesis ?_ before⟩
      exact fun index least inside => same index least (by omega)

end Route

/-! ### Matches of patterns -/

namespace Tree

open Evaluation (yields_pure yields_ask yields_bind)

/-- Whether every match of a tree ends, and succeeds exactly where something holds. -/
def MatchesWhere (tree : Tree) (holds : Context → Nat → Prop) : Prop :=
  ∀ context top, ∃ rank, (tree.rank top).Yields context rank ∧
    (rank.isSome = true ↔ holds context top)

variable {left right : Tree} {before last : Context → Nat → Prop}

theorem MatchesWhere.congr {tree : Tree} {other : Context → Nat → Prop}
    (matched : tree.MatchesWhere before)
    (same : ∀ context top, before context top ↔ other context top) : tree.MatchesWhere other := by
  intro context top
  obtain ⟨rank, ranked, holds⟩ := matched context top
  exact ⟨rank, ranked, holds.trans (same context top)⟩

/-- A search among entries at which a computation answers. -/
theorem exists_yields_anyOf {computation : Nat → Evaluation Bool} {holds : Nat → Prop}
    {context : Context} (each : ∀ index, ∃ answer, (computation index).Yields context answer ∧
      (answer = true ↔ holds index)) (indices : List Nat) :
    ∃ answer, (Evaluation.anyOf computation indices).Yields context answer ∧
      (answer = true ↔ ∃ index ∈ indices, holds index) := by
  induction indices with
  | nil => exact ⟨false, yields_pure.mpr rfl, nofun, nofun⟩
  | cons first rest inductionHypothesis =>
    obtain ⟨here, answered, holds⟩ := each first
    simp only [List.mem_cons, exists_eq_or_imp]
    cases here with
    | true =>
      exact ⟨true, yields_bind.mpr ⟨true, answered, yields_pure.mpr rfl⟩,
        fun _ => .inl (holds.mp rfl), fun _ => rfl⟩
    | false =>
      obtain ⟨later, searched, found⟩ := inductionHypothesis
      refine ⟨later, yields_bind.mpr ⟨false, answered, searched⟩, found.trans ?_⟩
      exact ⟨.inr, fun either => either.resolve_left fun here =>
        Bool.false_ne_true (holds.mpr here)⟩

theorem matchesWhere_root : root.MatchesWhere fun _ top => top = 1 := by
  intro context top
  refine ⟨_, yields_pure.mpr rfl, ?_⟩
  by_cases first : top = 1 <;> simp [first]

theorem matchesWhere_test (stride : Stride) :
    (Tree.test stride.test).MatchesWhere stride.FitsAt := by
  intro context top
  refine ⟨_, yields_ask.mpr rfl, ?_⟩
  rw [Procedure.testRank_eq]
  unfold Stride.FitsAt
  cases stands : context.node? top with
  | none => simp
  | some node =>
    dsimp only
    cases passes : stride.test.accepts node with
    | false =>
      rw [if_pos (by simp)]
      refine ⟨nofun, ?_⟩
      rintro ⟨_, _, ⟨⟩, again⟩
      cases passes.symm.trans again
    | true =>
      by_cases low : top < if stride.test.isForAttributes then 3 else 2
      · rw [if_pos (by simp [low])]
        refine ⟨nofun, fun fits => ?_⟩
        exact absurd fits.1 (Nat.not_le.mpr low)
      · rw [if_neg (by simp [low])]
        refine ⟨fun _ => ⟨Nat.not_lt.mp low, node, rfl, passes⟩, fun _ => ?_⟩
        exact Procedure.isSome_positionAt _ _ _ _

/-- The test of the last step is tried first, and the path before it at the entry below. -/
theorem MatchesWhere.child (ofLeft : left.MatchesWhere before) (ofRight : right.MatchesWhere last) :
    (Tree.child left right).MatchesWhere fun context top =>
      2 ≤ top ∧ last context top ∧ before context (top - 1) := by
  intro context top
  change ∃ rank, Evaluation.Yields (if top < 2 then _ else _) context rank ∧ _
  by_cases low : top < 2
  · rw [if_pos low]
    exact ⟨none, yields_pure.mpr rfl, nofun, fun inside => absurd inside.1 (Nat.not_le.mpr low)⟩
  · rw [if_neg low]
    have inside := Nat.not_lt.mp low
    obtain ⟨rank, ranked, passes⟩ := ofRight context top
    obtain ⟨lower, lowerRanked, holds⟩ := ofLeft context (top - 1)
    cases rank with
    | none =>
      refine ⟨none, yields_bind.mpr ⟨none, ranked, yields_pure.mpr rfl⟩, nofun, fun goes => ?_⟩
      exact passes.mpr goes.2.1
    | some position =>
      cases lower with
      | none =>
        refine ⟨none, yields_bind.mpr ⟨_, ranked, yields_bind.mpr ⟨_, lowerRanked,
          yields_pure.mpr rfl⟩⟩, nofun, fun goes => ?_⟩
        exact holds.mpr goes.2.2
      | some earlier =>
        refine ⟨some position, yields_bind.mpr ⟨_, ranked, yields_bind.mpr ⟨_, lowerRanked,
          yields_pure.mpr rfl⟩⟩, fun _ => ⟨inside, passes.mp rfl, holds.mp rfl⟩, fun _ => rfl⟩

/-- The test of the last step is tried first, and the path before it at the entries below, one after
the other. -/
theorem MatchesWhere.descendant (ofLeft : left.MatchesWhere before)
    (ofRight : right.MatchesWhere last) :
    (Tree.descendant left right).MatchesWhere fun context top =>
      3 ≤ top ∧ last context top ∧ ∃ index, 1 ≤ index ∧ index < top ∧ before context index := by
  intro context top
  change ∃ rank, Evaluation.Yields (if top < 3 then _ else _) context rank ∧ _
  by_cases low : top < 3
  · rw [if_pos low]
    exact ⟨none, yields_pure.mpr rfl, nofun, fun inside => absurd inside.1 (Nat.not_le.mpr low)⟩
  · rw [if_neg low]
    have inside := Nat.not_lt.mp low
    obtain ⟨rank, ranked, passes⟩ := ofRight context top
    cases rank with
    | none =>
      refine ⟨none, yields_bind.mpr ⟨none, ranked, yields_pure.mpr rfl⟩, nofun, fun goes => ?_⟩
      exact passes.mpr goes.2.1
    | some position =>
      have each : ∀ index, ∃ answer,
          (do return (← left.rank index).isSome : Evaluation Bool).Yields context answer ∧
            (answer = true ↔ before context index) := fun index =>
        let ⟨lower, lowerRanked, holds⟩ := ofLeft context index
        ⟨lower.isSome, yields_bind.mpr ⟨lower, lowerRanked, yields_pure.mpr rfl⟩, holds⟩
      obtain ⟨found, searched, holds⟩ := exists_yields_anyOf each (List.range' 1 (top - 1)).reverse
      refine ⟨if found then some position else none, yields_bind.mpr ⟨_, ranked,
        yields_bind.mpr ⟨found, searched, yields_pure.mpr rfl⟩⟩, ?_⟩
      dsimp only
      have reached : found = true ↔ ∃ index, 1 ≤ index ∧ index < top ∧ before context index := by
        rw [holds]
        refine exists_congr fun index => ?_
        rw [List.mem_reverse, List.mem_range'_1, and_assoc, show 1 + (top - 1) = top by omega]
      rw [← reached]
      cases found with
      | false => exact ⟨nofun, fun goes => absurd goes.2.2 Bool.false_ne_true⟩
      | true => exact ⟨fun _ => ⟨inside, passes.mp rfl, rfl⟩, fun _ => rfl⟩

/-- The alternative on the right is tried where the one on the left fails. -/
theorem MatchesWhere.union (ofLeft : left.MatchesWhere before) (ofRight : right.MatchesWhere last) :
    (Tree.union left right).MatchesWhere fun context top =>
      before context top ∨ last context top := by
  intro context top
  obtain ⟨first, leftRanked, holds⟩ := ofLeft context top
  cases first with
  | some position =>
    exact ⟨some position, yields_bind.mpr ⟨_, leftRanked, yields_pure.mpr rfl⟩,
      fun _ => .inl (holds.mp rfl), fun _ => rfl⟩
  | none =>
    obtain ⟨second, rightRanked, also⟩ := ofRight context top
    refine ⟨second, yields_bind.mpr ⟨_, leftRanked, rightRanked⟩, also.trans ?_⟩
    exact ⟨.inr, fun either => either.resolve_left fun here => Bool.false_ne_true (holds.mpr here)⟩

end Tree

/-! ### Patterns as they are compiled -/

namespace Expr

open StreamPath.Tree (MatchesWhere)

variable {static : StaticContext} {text : String} {absolute : Bool} {strides : List Stride}

theorem rightUnique_strides : Relator.RightUnique (HasStride static text) := by
  rintro step ⟨descendant, test⟩ ⟨other, otherTest⟩ ⟨rfl, resolved⟩ ⟨rfl, again⟩
  obtain rfl := Tree.test.inj (Except.ok.inj (resolved.symm.trans again))
  rfl

/-- A step without predicates resolves to one test. -/
theorem exists_stride {step : Step Expr} {tree : Tree} (down : goesDown step = true)
    (plain : step.predicates.isEmpty = true) (resolves : resolveStep static text step = .ok tree) :
    ∃ stride, HasStride static text step stride ∧ tree = .test stride.test := by
  obtain ⟨descendant, axis, test, predicates⟩ := step
  obtain rfl : predicates = [] := List.isEmpty_iff.mp plain
  obtain ⟨bare, resolved, same⟩ := ok_bind_iff.mp resolves
  obtain rfl := Except.ok.inj same
  have isTest : ∃ found, bare = .test found := by
    cases axis with
    | child | «attribute» =>
      obtain ⟨found, _, rfl⟩ := ok_map_iff.mp resolved
      exact ⟨found, rfl⟩
    | self | parent => cases down
  obtain ⟨found, rfl⟩ := isTest
  exact ⟨⟨descendant, found⟩, ⟨rfl, resolved⟩, rfl⟩

/-- A stride after others: no match ends too early for it, and no ancestor is passed over. -/
theorem matchesWhere_joinStep {path : Tree} (some : strides ≠ [])
    (ofPath : path.MatchesWhere (Route.mk absolute strides).LeadsTo) (stride : Stride) :
    (joinStep (Option.some path) stride.descendant (.test stride.test)).MatchesWhere
      (Route.mk absolute (strides ++ [stride])).LeadsTo := by
  obtain ⟨descendant, test⟩ := stride
  have ofTest := Tree.matchesWhere_test ⟨descendant, test⟩
  have above : ∀ {context : Context} {index : Nat},
      (Route.mk absolute strides).LeadsTo context index → 2 ≤ index :=
        fun leads => leads.two_le some
  cases descendant with
  | true =>
    refine (ofPath.descendant ofTest).congr fun context top => ?_
    rw [Route.leadsTo_concat some]
    constructor
    · rintro ⟨_, fits, below, _, under, leads⟩
      exact ⟨fits, below, under, leads⟩
    · rintro ⟨fits, below, under, leads⟩
      have second := above leads
      have lower : below < top := under
      exact ⟨by omega, fits, below, by omega, lower, leads⟩
  | false =>
    refine (ofPath.child ofTest).congr fun context top => ?_
    rw [Route.leadsTo_concat some]
    constructor
    · rintro ⟨inside, fits, leads⟩
      exact ⟨fits, top - 1, (by omega : top = top - 1 + 1), leads⟩
    · rintro ⟨fits, below, next, leads⟩
      have second := above leads
      obtain rfl : top = below + 1 := next
      exact ⟨by omega, fits, leads⟩

theorem exists_strides {steps : List (Step Expr)} {path whole : Tree} (some : strides ≠ [])
    (ofPath : path.MatchesWhere (Route.mk absolute strides).LeadsTo)
    (down : ∀ step ∈ steps, goesDown step = true)
    (plain : ∀ step ∈ steps, step.predicates.isEmpty = true)
    (resolves : resolveSteps static text (Option.some path) steps = .ok (Option.some whole)) :
    ∃ further, List.Forall₂ (HasStride static text) steps further ∧
      whole.MatchesWhere (Route.mk absolute (strides ++ further)).LeadsTo := by
  induction steps generalizing path strides with
  | nil =>
    obtain rfl := Option.some.inj (Except.ok.inj resolves)
    exact ⟨[], .nil, by rwa [List.append_nil]⟩
  | cons first rest inductionHypothesis =>
    obtain ⟨tree, ofFirst, others⟩ := resolveSteps_cons_ok_iff.mp resolves
    obtain ⟨stride, resolved, rfl⟩ :=
      exists_stride (down first List.mem_cons_self) (plain first List.mem_cons_self) ofFirst
    rw [← resolved.1] at others
    obtain ⟨further, resolvedRest, matched⟩ := inductionHypothesis
      (List.append_ne_nil_of_left_ne_nil some [stride]) (matchesWhere_joinStep some ofPath stride)
      (fun step listed => down step (List.mem_cons_of_mem _ listed))
      (fun step listed => plain step (List.mem_cons_of_mem _ listed)) others
    refine ⟨stride :: further, .cons resolved resolvedRest, ?_⟩
    rwa [List.append_assoc] at matched

/-- The first stride of a route, in front of which only a single slash at the start counts. -/
theorem matchesWhere_first {stride : Stride}
    (anywhere : absolute = true → stride.descendant = true) :
    (Tree.test stride.test).MatchesWhere (Route.mk absolute [stride]).LeadsTo := by
  refine (Tree.matchesWhere_test stride).congr fun context top => ?_
  rw [Route.leadsTo_singleton]
  refine ⟨fun fits => ⟨fits, fun starts single => ?_⟩, And.left⟩
  cases (anywhere starts).symm.trans single

theorem matchesWhere_first_child {stride : Stride} (single : stride.descendant = false) :
    (Tree.child .root (.test stride.test)).MatchesWhere (Route.mk true [stride]).LeadsTo := by
  refine (Tree.matchesWhere_root.child (Tree.matchesWhere_test stride)).congr fun context top => ?_
  rw [Route.leadsTo_singleton]
  constructor
  · rintro ⟨inside, fits, first⟩
    exact ⟨fits, fun _ _ => by omega⟩
  · rintro ⟨fits, starts⟩
    have second := starts rfl single
    exact ⟨by omega, fits, by omega⟩

/-- A path without predicates matches where its route leads to. Whatever the start of the path
becomes, its first step resolves alike, and the others follow it. -/
theorem exists_route_path {steps : List (Step Expr)} {pattern : Tree}
    (bare : (path none absolute steps).startsBare = true)
    (down : ∀ step ∈ steps, goesDown step = true)
    (plain : ∀ step ∈ steps, step.predicates.isEmpty = true)
    (resolves : (path none absolute steps).withoutLeadingDescent.resolve static text =
      .ok pattern) :
    ∃ strides, List.Forall₂ (HasStride static text) steps strides ∧
      pattern.MatchesWhere (Route.mk absolute strides).LeadsTo := by
  cases steps with
  | nil =>
    cases absolute with
    | false => cases bare
    | true =>
      have walked := resolve_path_ok_iff.mp resolves
      obtain rfl := Option.some.inj (Except.ok.inj walked)
      exact ⟨[], .nil, Tree.matchesWhere_root.congr fun _ _ => Route.leadsTo_nil.symm⟩
  | cons first rest =>
    obtain ⟨descendant, axis, test, predicates⟩ := first
    have goesOn : ∀ (origin : Option Tree) (joined : Bool),
        resolveSteps static text origin (⟨joined, axis, test, predicates⟩ :: rest) =
          .ok (some pattern) →
        (∀ stride : Stride, stride.descendant = descendant →
          (joinStep origin joined (.test stride.test)).MatchesWhere
            (Route.mk absolute [stride]).LeadsTo) →
        ∃ strides,
          List.Forall₂ (HasStride static text)
            (⟨descendant, axis, test, predicates⟩ :: rest) strides ∧
          pattern.MatchesWhere (Route.mk absolute strides).LeadsTo := by
      intro origin joined walked first
      obtain ⟨tree, ofFirst, others⟩ := resolveSteps_cons_ok_iff.mp walked
      obtain ⟨stride, resolved, rfl⟩ :=
        exists_stride (down _ List.mem_cons_self) (plain _ List.mem_cons_self) ofFirst
      obtain ⟨further, resolvedRest, matched⟩ := exists_strides (List.cons_ne_nil _ _)
        (first stride resolved.1) (fun step listed => down step (List.mem_cons_of_mem _ listed))
        (fun step listed => plain step (List.mem_cons_of_mem _ listed)) others
      exact ⟨stride :: further, .cons resolved resolvedRest, matched⟩
    cases absolute with
    | false =>
      obtain rfl : descendant = false := by simpa [startsBare] using bare
      exact goesOn none false (resolve_path_ok_iff.mp resolves) fun stride _ =>
        matchesWhere_first nofun
    | true =>
      cases descendant with
      | true =>
        exact goesOn none false (resolve_path_ok_iff.mp resolves) fun stride double =>
          matchesWhere_first fun _ => double
      | false =>
        exact goesOn (some .root) false (resolve_path_ok_iff.mp resolves) fun stride single =>
          matchesWhere_first_child single

/-- A pattern without predicates matches where one of its routes leads to. -/
theorem matchesWhere_resolve {pattern : Tree} : (expr : Expr) → expr.isPattern = true →
    expr.startsBare = true → expr.isPredicateFree = true →
    expr.withoutLeadingDescent.resolve static text = .ok pattern →
      pattern.MatchesWhere fun context top =>
        ∃ route, HasRoute static text expr route ∧ route.LeadsTo context top
  | union left right, shaped, bare, plain, resolves => by
    obtain ⟨leftShaped, rightShaped⟩ := Bool.and_eq_true_iff.mp shaped
    obtain ⟨leftBare, rightBare⟩ := Bool.and_eq_true_iff.mp bare
    obtain ⟨leftPlain, rightPlain⟩ := Bool.and_eq_true_iff.mp plain
    obtain ⟨leftPattern, ofLeft, more⟩ := ok_bind_iff.mp resolves
    obtain ⟨rightPattern, ofRight, joined⟩ := ok_bind_iff.mp more
    obtain rfl := Except.ok.inj joined
    have leftMatches := matchesWhere_resolve left leftShaped leftBare leftPlain ofLeft
    have rightMatches := matchesWhere_resolve right rightShaped rightBare rightPlain ofRight
    refine (leftMatches.union rightMatches).congr fun context top => ?_
    constructor
    · rintro (⟨route, has, leads⟩ | ⟨route, has, leads⟩)
      · exact ⟨route, has.left right, leads⟩
      · exact ⟨route, has.right left, leads⟩
    · rintro ⟨route, has | has, leads⟩
      · exact .inl ⟨route, ‹_›, leads⟩
      · exact .inr ⟨route, ‹_›, leads⟩
  | path none absolute steps, shaped, bare, plain, resolves => by
    obtain ⟨strides, resolved, matched⟩ := exists_route_path bare (List.all_eq_true.mp shaped)
      (List.all_eq_true.mp plain) resolves
    refine matched.congr fun context top => ?_
    constructor
    · intro leads
      exact ⟨_, .path absolute resolved, leads⟩
    · rintro ⟨_, has, leads⟩
      cases has with
      | path _ again =>
        rw [rightUnique_strides.forall₂ resolved again]
        exact leads

end Expr

/-- A pattern without predicates means what its text says. Every match of it ends, and it succeeds
exactly where one of the routes that are written in the text leads to: no layout is missed. So only
the nodes up to the index at which the pattern is matched count, and whether the position is to be
set does not. -/
theorem StaticContext.compilePattern_leadsTo {static : StaticContext} {text : String} {expr : Expr}
    {pattern : Tree} (reads : Expr.read text static.location = .ok expr)
    (plain : expr.isPredicateFree = true) (compiles : static.compilePattern text = .ok pattern)
    (context : Context) (top : Nat) (setPosition : Bool) :
    (∃ answer, (context.matchPattern pattern top setPosition).1 = .ok answer ∧
      (answer = true ↔ ∃ route, expr.HasRoute static text route ∧ route.LeadsTo context top)) ∧
    ∀ (other : Context) (otherSetting : Bool),
      (∀ index, 1 ≤ index → index ≤ top → other.node? index = context.node? index) →
        (other.matchPattern pattern top otherSetting).1 =
          (context.matchPattern pattern top setPosition).1 := by
  obtain ⟨shape, readsPattern, resolves⟩ := ok_bind_iff.mp compiles
  obtain ⟨read, again, ended⟩ := ok_bind_iff.mp readsPattern
  obtain rfl := Except.ok.inj (reads.symm.trans again)
  cases shaped : expr.isPattern with
  | false =>
    rw [shaped] at ended
    cases ended
  | true =>
    rw [shaped] at ended
    obtain rfl := Except.ok.inj ended
    have matched :=
      Expr.matchesWhere_resolve expr shaped (Expr.startsBare_of_read reads) plain resolves
    have answers : ∀ (context : Context) (setPosition : Bool), ∃ answer,
        (context.matchPattern pattern top setPosition).1 = .ok answer ∧
          (answer = true ↔ ∃ route, expr.HasRoute static text route ∧
            route.LeadsTo context top) := by
      intro context setPosition
      obtain ⟨rank, ranked, holds⟩ := matched context top
      exact ⟨rank.isSome, (Context.matchPattern_ok_iff setPosition).mpr ⟨rank, ranked, rfl⟩, holds⟩
    refine ⟨answers context setPosition, fun other otherSetting same => ?_⟩
    obtain ⟨answer, ended, holds⟩ := answers context setPosition
    obtain ⟨otherAnswer, otherEnded, otherHolds⟩ := answers other otherSetting
    have alike : otherAnswer = true ↔ answer = true := by
      rw [otherHolds, holds]
      refine exists_congr fun route => and_congr_right fun _ =>
        ⟨fun leads => leads.congr ?_, fun leads => leads.congr same⟩
      exact fun index least inside => (same index least inside).symm
    rw [ended, otherEnded, Bool.eq_iff_iff.mpr alike]

/-- Of two lists, one inside the other, only the inner one has the item as a child; the outer one is
passed over by the double slash. -/
theorem StaticContext.compilePattern_leadsTo_innerList :
    let context := Context.ofNames 1 ["doc", "list", "list", "item"]
    let text := "/item | /doc//list/item"
    ∃ expr pattern, Expr.read text {} = .ok expr ∧ expr.isPredicateFree = true ∧
      ({} : StaticContext).compilePattern text = .ok pattern ∧
      (context.matchPattern pattern 5 false).1 = .ok true ∧
      (∃ route, expr.HasRoute {} text route ∧ route.LeadsTo context 5) ∧
      ¬∃ route, expr.HasRoute {} text route ∧ route.LeadsTo context 4 := by
  intro context text
  have read : ((Expr.read text {}).map Expr.isPredicateFree).toOption = some true := by
    decide +kernel
  have matched : (({} : StaticContext).compilePattern text >>= fun pattern =>
      (context.matchPattern pattern 5 false).1).toOption = some true := by decide +kernel
  have fails : (({} : StaticContext).compilePattern text >>= fun pattern =>
      (context.matchPattern pattern 4 false).1).toOption = some false := by decide +kernel
  obtain ⟨expr, reads, plain⟩ := ok_map_iff.mp (ok_of_toOption read)
  obtain ⟨pattern, compiles, answers⟩ := ok_bind_iff.mp (ok_of_toOption matched)
  obtain ⟨again, compilesAgain, denies⟩ := ok_bind_iff.mp (ok_of_toOption fails)
  obtain rfl := Except.ok.inj (compiles.symm.trans compilesAgain)
  obtain ⟨⟨answer, ended, leads⟩, -⟩ := compilePattern_leadsTo reads plain compiles context 5 false
  obtain ⟨⟨below, endedBelow, leadsBelow⟩, -⟩ :=
    compilePattern_leadsTo reads plain compiles context 4 false
  obtain rfl := Except.ok.inj (answers.symm.trans ended)
  obtain rfl := Except.ok.inj (denies.symm.trans endedBelow)
  exact ⟨expr, pattern, reads, plain, compiles, answers, leads.mp rfl,
    fun also => Bool.false_ne_true (leadsBelow.mpr also)⟩

end StreamPath
