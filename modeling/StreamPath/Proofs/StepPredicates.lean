/-
Predicates after a path and predicates after its last step. A predicate after a path chooses among
the nodes that the whole path selects, brought together and in order, and one after the last step
among the nodes that this step selects from each entry on its own, before these are brought
together. Both rank a node by the last step and try the condition on the same nodes, and hence a
predicate may be moved from behind a path into its last step: the value stays, and so do the nodes
that match and the position that a match leaves behind.
-/

import StreamPath.Proofs.MatchPosition
import StreamPath.Proofs.PathComposition

namespace StreamPath

open Evaluation
  (yields_pure yields_bind exists_of_yields_forAll exists_yields_forAll mem_of_yields_keep)

variable {context : Context} {top : Nat} {left step condition : Tree}

/-- A choice among elements ends where it is decided for each of them. -/
theorem Evaluation.exists_yields_keep_iff {β : Type} {computation : β → Evaluation Bool}
    {elements : List β} :
    (∃ kept, (keep computation elements).Yields context kept) ↔
      ∀ element ∈ elements, ∃ answer, (computation element).Yields context answer := by
  induction elements with
  | nil => exact ⟨fun _ => List.forall_mem_nil _, fun _ => ⟨[], yields_pure.mpr rfl⟩⟩
  | cons first rest inductionHypothesis =>
    rw [List.forall_mem_cons, ← inductionHypothesis]
    constructor
    · rintro ⟨kept, yields⟩
      obtain ⟨answer, answered, more⟩ := yields_bind.mp yields
      obtain ⟨others, chosen, _⟩ := yields_bind.mp more
      exact ⟨⟨answer, answered⟩, others, chosen⟩
    · rintro ⟨⟨answer, answered⟩, others, chosen⟩
      exact ⟨_, yields_bind.mpr ⟨answer, answered,
        yields_bind.mpr ⟨others, chosen, yields_pure.mpr rfl⟩⟩⟩

/-! ### Choosing among selected nodes -/

/-- The nodes of a selection for which a condition holds, each under its rank by a step. -/
def Meaning.filtered (step condition : Tree) (selection : List Selected) :
    Evaluation (List Selected) := do
  let kept ← Evaluation.keep (holdsFor step condition.meaning) selection
  return Selection.ofList kept

namespace Meaning

variable {selection kept : List Selected}

/-- Choosing among selected nodes ends where the condition is decided for each of them. -/
theorem exists_yields_bind_filtered_iff {selecting : Evaluation (List Selected)} :
    (∃ kept, (selecting >>= filtered step condition).Yields context kept) ↔
      ∃ selection, selecting.Yields context selection ∧ ∀ selected ∈ selection, ∃ answer,
        (holdsFor step condition.meaning selected).Yields context answer := by
  constructor
  · rintro ⟨kept, yields⟩
    obtain ⟨selection, selects, more⟩ := yields_bind.mp yields
    obtain ⟨chosen, answers, _⟩ := yields_bind.mp more
    exact ⟨selection, selects, Evaluation.exists_yields_keep_iff.mp ⟨chosen, answers⟩⟩
  · rintro ⟨selection, selects, decided⟩
    obtain ⟨chosen, answers⟩ := Evaluation.exists_yields_keep_iff.mpr decided
    exact ⟨_, yields_bind.mpr ⟨selection, selects,
      yields_bind.mpr ⟨chosen, answers, yields_pure.mpr rfl⟩⟩⟩

theorem mem_of_yields_filtered (owned : ∀ node ∈ selection, node.Owned context)
    (yields : (filtered step condition selection).Yields context kept) (selected : Selected) :
    selected ∈ kept ↔
      selected ∈ selection ∧ (holdsFor step condition.meaning selected).Yields context true := by
  obtain ⟨chosen, answers, ordered⟩ := yields_bind.mp yields
  obtain rfl := yields_pure.mp ordered
  have among := mem_of_yields_keep answers
  rw [Selection.mem_ofList fun node listed => owned node ((among node).mp listed).1, among]

theorem sorted_of_filtered (yields : (filtered step condition selection).Yields context kept) :
    Selection.Sorted kept := by
  obtain ⟨chosen, _, ordered⟩ := yields_bind.mp yields
  obtain rfl := yields_pure.mp ordered
  exact Selection.sorted_ofList chosen

theorem sorted_of_selectFrom {path : Meaning} {indices : List Nat}
    (yields : (selectFrom path indices).Yields context selection) : Selection.Sorted selection := by
  obtain ⟨selections, _, ordered⟩ := yields_bind.mp yields
  obtain rfl := yields_pure.mp ordered
  exact Selection.sorted_ofList selections.flatten

end Meaning

namespace Tree

theorem select_predicate_eq_filtered (left condition : Tree) (top : Nat) :
    (predicate left condition).select top =
      left.select top >>= Meaning.filtered left.lastStep condition :=
  select_predicate left condition top

theorem exists_yields_selectFrom_iff {tree : Tree} {indices : List Nat} :
    (∃ selection, (Meaning.selectFrom tree.meaning indices).Yields context selection) ↔
      ∀ index ∈ indices, ∃ found, (tree.select index).Yields context found := by
  constructor
  · rintro ⟨_, yields⟩ index listed
    obtain ⟨_, all, _⟩ := yields_bind.mp yields
    exact exists_of_yields_forAll all listed
  · intro each
    obtain ⟨selections, all⟩ := exists_yields_forAll each
    exact ⟨_, yields_bind.mpr ⟨selections, all, yields_pure.mpr rfl⟩⟩

theorem owned_of_selectFrom {indices : List Nat} {selection : List Selected}
    (isStep : step.isStep = true)
    (yields : (Meaning.selectFrom step.meaning indices).Yields context selection) :
    ∀ node ∈ selection, node.Owned context := by
  intro node listed
  obtain ⟨index, _, found, selects, member⟩ := (mem_selectFrom isStep yields).mp listed
  exact step.owned_of_select isStep selects node member

/-- Choosing among all that a step selects from several entries ends where choosing among all that
it selects from each of them does. The condition is tried on a node alike wherever the step has
started. -/
theorem exists_filtered_selectFrom_iff (isStep : step.isStep = true) {indices : List Nat} :
    (∃ kept, (Meaning.selectFrom step.meaning indices >>=
        Meaning.filtered step.lastStep condition).Yields context kept) ↔
      ∃ kept, (Meaning.selectFrom (predicate step condition).meaning indices).Yields
        context kept := by
  rw [Meaning.exists_yields_bind_filtered_iff, exists_yields_selectFrom_iff]
  simp only [select_predicate_eq_filtered, Meaning.exists_yields_bind_filtered_iff]
  constructor
  · rintro ⟨selection, together, decided⟩ index listed
    obtain ⟨found, selects⟩ := exists_yields_selectFrom_iff.mp ⟨selection, together⟩ index listed
    exact ⟨found, selects, fun selected member => decided selected
      ((mem_selectFrom isStep together).mpr ⟨index, listed, found, selects, member⟩)⟩
  · intro parts
    obtain ⟨selection, together⟩ := exists_yields_selectFrom_iff.mpr fun index listed =>
      (parts index listed).imp fun _ part => part.1
    refine ⟨selection, together, fun selected listed => ?_⟩
    obtain ⟨index, start, found, selects, member⟩ := (mem_selectFrom isStep together).mp listed
    obtain ⟨own, also, decided⟩ := parts index start
    exact decided selected (also.unique selects ▸ member)

/-- Choosing among all that a step selects from several entries gives the same nodes as choosing
among all that it selects from each of them. -/
theorem eq_of_filtered_selectFrom (isStep : step.isStep = true) {indices : List Nat}
    {first second : List Selected}
    (after : (Meaning.selectFrom step.meaning indices >>=
      Meaning.filtered step.lastStep condition).Yields context first)
    (within : (Meaning.selectFrom (predicate step condition).meaning indices).Yields
      context second) :
    first = second := by
  obtain ⟨selection, together, chosen⟩ := yields_bind.mp after
  refine (Meaning.sorted_of_filtered chosen).eq_of_mem_iff (Meaning.sorted_of_selectFrom within)
    fun selected => ?_
  have filtered : (predicate step condition).isStep = true := isStep
  rw [Meaning.mem_of_yields_filtered (owned_of_selectFrom isStep together) chosen,
    mem_selectFrom isStep together, mem_selectFrom filtered within]
  simp only [select_predicate_eq_filtered, yields_bind]
  constructor
  · rintro ⟨⟨index, listed, found, selects, member⟩, holds⟩
    have ends := exists_yields_selectFrom_iff.mp ⟨second, within⟩ index listed
    simp only [select_predicate_eq_filtered, yields_bind] at ends
    obtain ⟨own, also, same, ofFound⟩ := ends
    obtain rfl := same.unique selects
    have owned := step.owned_of_select isStep selects
    exact ⟨index, listed, own, ⟨also, selects, ofFound⟩,
      (Meaning.mem_of_yields_filtered owned ofFound selected).mpr ⟨member, holds⟩⟩
  · rintro ⟨index, listed, own, ⟨found, selects, ofFound⟩, member⟩
    have owned := step.owned_of_select isStep selects
    obtain ⟨among, holds⟩ := (Meaning.mem_of_yields_filtered owned ofFound selected).mp member
    exact ⟨⟨index, listed, found, selects, among⟩, holds⟩

theorem yields_filtered_selectFrom_iff (isStep : step.isStep = true) {indices : List Nat}
    {selection : List Selected} :
    (Meaning.selectFrom step.meaning indices >>=
        Meaning.filtered step.lastStep condition).Yields context selection ↔
      (Meaning.selectFrom (predicate step condition).meaning indices).Yields context selection := by
  constructor
  · intro after
    obtain ⟨kept, within⟩ := (exists_filtered_selectFrom_iff isStep).mp ⟨selection, after⟩
    exact eq_of_filtered_selectFrom isStep after within ▸ within
  · intro within
    obtain ⟨kept, after⟩ := (exists_filtered_selectFrom_iff isStep).mpr ⟨selection, within⟩
    exact eq_of_filtered_selectFrom isStep after within ▸ after

/-! ### Paths -/

/-- A predicate of a path with a step is the predicate of its last step. -/
theorem yields_select_predicate_child_iff (isStep : step.isStep = true)
    {selection : List Selected} :
    ((predicate (child left step) condition).select top).Yields context selection ↔
      ((child left (predicate step condition)).select top).Yields context selection := by
  rw [select_predicate_eq_filtered]
  show ((left.select top >>= _) >>= _).Yields context selection ↔
    (left.select top >>= _).Yields context selection
  rw [bind_assoc, yields_bind, yields_bind]
  exact exists_congr fun starts => and_congr_right fun _ => yields_filtered_selectFrom_iff isStep

/-- The same holds of a step behind `//`. -/
theorem yields_select_predicate_descendant_iff (isStep : step.isStep = true)
    {selection : List Selected} :
    ((predicate (descendant left step) condition).select top).Yields context selection ↔
      ((descendant left (predicate step condition)).select top).Yields context selection := by
  rw [select_predicate_eq_filtered]
  show ((left.select top >>= _) >>= _).Yields context selection ↔
    (left.select top >>= _).Yields context selection
  rw [bind_assoc, yields_bind, yields_bind]
  refine exists_congr fun starts => and_congr_right fun _ => ?_
  rw [bind_assoc, yields_bind, yields_bind]
  exact exists_congr fun indices => and_congr_right fun _ => yields_filtered_selectFrom_iff isStep

/-! ### Patterns -/

/-- A path matches with the rank of its last step, where the path before it matches one entry below.
-/
theorem rank_child_iff {right : Tree} {position : Nat} :
    ((child left right).rank top).Yields context (some position) ↔
      2 ≤ top ∧ (right.rank top).Yields context (some position) ∧
        ∃ before, (left.rank (top - 1)).Yields context (some before) := by
  constructor
  · intro matched
    have inside := two_le_of_rank_child matched rfl
    obtain ⟨last, _, succeeds, goesOn⟩ := rank_child_of_yields matched inside
    obtain ⟨before, ofLeft, same⟩ := goesOn (succeeds rfl)
    obtain ⟨earlier, rfl⟩ := Option.isSome_iff_exists.mp same.symm
    exact ⟨inside, rank_of_rank_child matched, earlier, ofLeft⟩
  · rintro ⟨inside, ofRight, before, ofLeft⟩
    change Evaluation.Yields (if top < 2 then _ else _) context _
    rw [if_neg (Nat.not_lt.mpr inside)]
    exact yields_bind.mpr ⟨_, ofRight, yields_bind.mpr ⟨_, ofLeft, yields_pure.mpr rfl⟩⟩

/-- Whether a pattern matches an entry below an index, the nearest tried first. -/
def matchesBelow (pattern : Tree) (top : Nat) : Evaluation Bool :=
  Evaluation.anyOf (fun index => return (← pattern.rank index).isSome)
    (List.range' 1 (top - 1)).reverse

/-- Behind `//` it is enough that the path matches at some entry below. -/
theorem rank_descendant_iff {right : Tree} {position : Nat} :
    ((descendant left right).rank top).Yields context (some position) ↔
      3 ≤ top ∧ (right.rank top).Yields context (some position) ∧
        (left.matchesBelow top).Yields context true := by
  constructor
  · intro matched
    have inside := three_le_of_rank_descendant matched rfl
    have ofRight := rank_of_rank_descendant matched
    change Evaluation.Yields (if top < 3 then _ else _) context _ at matched
    rw [if_neg (Nat.not_lt.mpr inside)] at matched
    obtain ⟨last, also, more⟩ := yields_bind.mp matched
    obtain rfl := also.unique ofRight
    obtain ⟨found, searched, ended⟩ := yields_bind.mp more
    cases found with
    | false => cases yields_pure.mp ended
    | true => exact ⟨inside, ofRight, searched⟩
  · rintro ⟨inside, ofRight, searched⟩
    change Evaluation.Yields (if top < 3 then _ else _) context _
    rw [if_neg (Nat.not_lt.mpr inside)]
    exact yields_bind.mpr ⟨_, ofRight, yields_bind.mpr ⟨true, searched, yields_pure.mpr rfl⟩⟩

/-- A predicate leaves the rank as it is where its condition holds. -/
theorem rank_predicate_iff {position : Nat} :
    ((predicate left condition).rank top).Yields context (some position) ↔
      (left.rank top).Yields context (some position) ∧
        (condition.meaning.holdsAt top position).Yields context true := by
  constructor
  · intro matched
    have ofLeft := rank_of_rank_predicate matched
    obtain ⟨before, ranked, _, filtered⟩ := rank_predicate_of_yields matched
    obtain rfl := ranked.unique ofLeft
    obtain ⟨answer, holds, same⟩ := filtered position rfl
    cases answer with
    | false => cases same
    | true => exact ⟨ofLeft, holds⟩
  · rintro ⟨ofLeft, holds⟩
    rw [rank_predicate]
    exact yields_bind.mpr ⟨_, ofLeft, yields_bind.mpr ⟨true, holds, yields_pure.mpr rfl⟩⟩

theorem rank_predicate_child_iff {position : Nat} :
    ((predicate (child left step) condition).rank top).Yields context (some position) ↔
      ((child left (predicate step condition)).rank top).Yields context (some position) := by
  rw [rank_predicate_iff, rank_child_iff, rank_child_iff, rank_predicate_iff]
  tauto

theorem rank_predicate_descendant_iff {position : Nat} :
    ((predicate (descendant left step) condition).rank top).Yields context (some position) ↔
      ((descendant left (predicate step condition)).rank top).Yields context (some position) := by
  rw [rank_predicate_iff, rank_descendant_iff, rank_descendant_iff, rank_predicate_iff]
  tauto

end Tree

theorem Context.matchPattern_ok_true_iff {pattern : Tree} (setPosition : Bool) :
    (context.matchPattern pattern top setPosition).1 = .ok true ↔
      ∃ position, (pattern.rank top).Yields context (some position) := by
  rw [matchPattern_ok_iff]
  constructor
  · rintro ⟨rank, yields, succeeds⟩
    obtain ⟨position, rfl⟩ := Option.isSome_iff_exists.mp succeeds
    exact ⟨position, yields⟩
  · rintro ⟨position, yields⟩
    exact ⟨some position, yields, rfl⟩

/-- Patterns that give the same ranks match the same nodes and leave the same position behind. -/
theorem Context.matchPattern_of_same_ranks {first second : Tree}
    (same : ∀ position, (first.rank top).Yields context (some position) ↔
      (second.rank top).Yields context (some position)) (setPosition : Bool) :
    let one := context.matchPattern first top setPosition
    let other := context.matchPattern second top setPosition
    (one.1 = .ok true ↔ other.1 = .ok true) ∧ one.2.position = other.2.position := by
  dsimp only
  have succeed : (context.matchPattern first top setPosition).1 = .ok true ↔
      (context.matchPattern second top setPosition).1 = .ok true := by
    simp only [matchPattern_ok_true_iff, same]
  refine ⟨succeed, ?_⟩
  by_cases sets : setPosition = true ∧ (context.matchPattern first top setPosition).1 = .ok true
  · obtain ⟨rfl, matched⟩ := sets
    have ranked := (same _).mp (position_of_matchPattern matched)
    exact Option.some.inj (ranked.unique (position_of_matchPattern (succeed.mp matched)))
  · have keeps : setPosition = false ∨ (context.matchPattern first top setPosition).1 ≠ .ok true :=
      (not_and_or.mp sets).imp_left Bool.eq_false_iff.mpr
    rw [position_of_matchPattern_of_not keeps,
      position_of_matchPattern_of_not (keeps.imp_right (mt succeed.mpr))]

/-- Paths that select the same nodes have the same value. -/
theorem Context.evaluate_of_same_selections {first second : Tree} (path : first.isPath = true)
    (also : second.isPath = true)
    (same : ∀ selection, (first.select top).Yields context selection ↔
      (second.select top).Yields context selection) (value : Value) :
    (context.evaluate first top).1 = .ok value ↔ (context.evaluate second top).1 = .ok value := by
  rw [evaluate_ok_iff, evaluate_ok_iff, Tree.evaluate_of_isPath path, Tree.evaluate_of_isPath also,
    yields_bind, yields_bind]
  exact exists_congr fun selection => and_congr_left' (same selection)

/-- A predicate after a path may be moved into the last step of the path: the value stays, and as
patterns both match the same nodes and leave the same position behind. So two answers of the matches
are the same unless one of them is an error, and where only one is an error the other one is false.
-/
theorem Tree.predicate_moves_into_lastStep (context : Context) (top : Nat) (left condition : Tree)
    {step : Tree} (isStep : step.isStep = true) {join : Tree → Tree → Tree}
    (joins : join = child ∨ join = descendant) :
    (∀ value,
      (context.evaluate (predicate (join left step) condition) top).1 = .ok value ↔
        (context.evaluate (join left (predicate step condition)) top).1 = .ok value) ∧
    ∀ setPosition,
      let after := context.matchPattern (predicate (join left step) condition) top setPosition
      let within := context.matchPattern (join left (predicate step condition)) top setPosition
      (after.1 = .ok true ↔ within.1 = .ok true) ∧ after.2.position = within.2.position := by
  obtain rfl | rfl := joins
  · exact ⟨Context.evaluate_of_same_selections rfl rfl fun _ =>
      yields_select_predicate_child_iff isStep,
      Context.matchPattern_of_same_ranks fun _ => rank_predicate_child_iff⟩
  · exact ⟨Context.evaluate_of_same_selections rfl rfl fun _ =>
        yields_select_predicate_descendant_iff isStep,
      Context.matchPattern_of_same_ranks fun _ => rank_predicate_descendant_iff⟩

/-- The second attribute of the owner is the second of all attributes, and the second of two items
is found at its rank. -/
theorem Tree.predicate_moves_into_lastStep_second :
    let context := ((Context.ofNames 1 ["doc"]).enterSiblings 3 ["item"]).push
      { Node.element 4 "" "item" with attributes := [⟨"", "id", "1"⟩, ⟨"", "n", "2"⟩] }
    ∃ second value,
      ({} : StaticContext).compileExpression "position() = 2" = .ok second ∧
      (test (.element .any)).isStep = true ∧ (test (.attribute .any)).isStep = true ∧
      (context.evaluate (child self (predicate (test (.attribute .any)) second)) 3).1 = .ok value ∧
      value.nodes.map Node.qualifiedName = ["n"] ∧
      (context.evaluate (predicate (child self (test (.attribute .any))) second) 3).1 = .ok value ∧
      (context.matchPattern (descendant root (predicate (test (.element .any)) second)) 3 true).1 =
        .ok true ∧
      (context.matchPattern (predicate (descendant root (test (.element .any))) second) 3 true).1 =
        .ok true ∧
      (context.matchPattern (predicate (descendant root (test (.element .any))) second) 3
        true).2.position = 2 := by
  intro context
  have ran : (({} : StaticContext).compileExpression "position() = 2" >>= fun second =>
      (context.evaluate (child self (predicate (test (.attribute .any)) second)) 3).1 >>=
        fun value =>
        (context.matchPattern
          (descendant root (predicate (test (.element .any)) second)) 3 true).1.map
          fun answer => (value.nodes.map Node.qualifiedName, answer,
            (context.matchPattern (descendant root (predicate (test (.element .any)) second)) 3
              true).2.position)).toOption = some (["n"], true, 2) := by
    decide +kernel
  obtain ⟨second, compiles, runs⟩ := ok_bind_iff.mp (ok_of_toOption ran)
  obtain ⟨value, evaluates, runs⟩ := ok_bind_iff.mp runs
  obtain ⟨answer, matched, shown⟩ := ok_map_iff.mp runs
  simp only [Prod.mk.injEq] at shown
  obtain ⟨names, rfl, position⟩ := shown
  have attributes : (test (.attribute .any)).isStep = true := rfl
  have elements : (test (.element .any)).isStep = true := rfl
  have values := (predicate_moves_into_lastStep context 3 self second attributes (.inl rfl)).1 value
  obtain ⟨succeed, same⟩ :=
    (predicate_moves_into_lastStep context 3 root second elements (.inr rfl)).2 true
  exact ⟨second, value, compiles, attributes, elements, evaluates, names, values.mpr evaluates,
    matched, succeed.mpr matched, same.trans position⟩

end StreamPath
