/-
A handler is given the document as a tree. Text is gathered over several pieces and becomes a node
only when something interrupts it, and every piece that does so puts that node in front of what it
changes itself. So the changes of a walk through content are those of the trees that the content
stands for, and the calls of a handler that keeps the chain go through the tree of the document from
its root downwards.
-/

import StreamPath.Proofs.DocumentTree

namespace StreamPath

open NodeTree (changesOfAll traverseAll traverseAll_append)

/-! ### Steps of a walk -/

namespace Scan

variable {options : WalkOptions} {scan final : Scan} {changes : List Change}

/-- What has succeeded with the same changes and the same scan is the same. -/
theorem eq_of_ok_eq {here there : List Change} {next other : Scan}
    (same : (here, (Except.ok next : Except StreamError Scan)) = (there, .ok other)) :
    here = there ∧ next = other :=
  ⟨congrArg Prod.fst same, Except.ok.inj (congrArg Prod.snd same)⟩

theorem steps_cons_of_ok {position : Nat} {piece : Markup} {rest : List (Nat × Markup)}
    (steps : scan.steps options ((position, piece) :: rest) = (changes, .ok final)) :
    ∃ here next there, scan.step options position piece = (here, .ok next) ∧
      next.steps options rest = (there, .ok final) ∧ changes = here ++ there := by
  rw [Scan.steps] at steps
  split at steps
  · cases steps
  · next here next stepped =>
    obtain ⟨rfl, finished⟩ := Prod.mk.inj steps
    exact ⟨here, next, _, stepped, Prod.ext rfl finished, rfl⟩

theorem steps_singleton_of_ok {position : Nat} {piece : Markup}
    (steps : scan.steps options [(position, piece)] = (changes, .ok final)) :
    scan.step options position piece = (changes, .ok final) := by
  obtain ⟨here, next, there, stepped, ended, rfl⟩ := steps_cons_of_ok steps
  obtain ⟨rfl, rfl⟩ := eq_of_ok_eq ended
  rw [stepped, List.append_nil]

theorem steps_append_of_ok {first second : List (Nat × Markup)}
    (steps : scan.steps options (first ++ second) = (changes, .ok final)) :
    ∃ here middle there, scan.steps options first = (here, .ok middle) ∧
      middle.steps options second = (there, .ok final) ∧ changes = here ++ there := by
  induction first generalizing scan changes with
  | nil => exact ⟨[], scan, changes, rfl, steps, rfl⟩
  | cons entry rest inductionHypothesis =>
    obtain ⟨position, piece⟩ := entry
    obtain ⟨here, next, there, stepped, others, rfl⟩ := steps_cons_of_ok steps
    obtain ⟨front, middle, back, ofRest, ofSecond, rfl⟩ := inductionHypothesis others
    refine ⟨here ++ front, middle, back, ?_, ofSecond, (List.append_assoc _ _ _).symm⟩
    rw [Scan.steps, stepped]
    dsimp only
    rw [ofRest]

theorem step_endTag (options : WalkOptions) (scan : Scan) (position : Nat) (body : List Char) :
    scan.step options position (.endTag body) =
      ((scan.flush options).1 ++ [.leave],
        .ok { (scan.flush options).2 with scopes := (scan.flush options).2.scopes.tail }) := rfl

/-! ### Text -/

theorem gather_nil (scan : Scan) : scan.gather [] = scan := by
  rw [gather, List.append_nil]

/-- A piece that does not interrupt text is gathered. -/
theorem step_of_textual {position : Nat} {piece : Markup} (textual : piece.interrupts = false)
    (steps : scan.step options position piece = (changes, .ok final)) :
    ∃ text, piece.text = .ok text ∧ changes = [] ∧ final = scan.gather text := by
  cases piece with
  | characters content =>
    obtain ⟨rfl, rfl⟩ := eq_of_ok_eq steps
    exact ⟨content, rfl, rfl, rfl⟩
  | reference name =>
    unfold step at steps
    dsimp only at steps
    rw [Markup.text]
    cases resolved : Reference.resolve? name with
    | some c =>
      rw [resolved] at steps
      obtain ⟨rfl, rfl⟩ := eq_of_ok_eq steps
      exact ⟨[c], rfl, rfl, rfl⟩
    | none =>
      rw [resolved] at steps
      cases steps
  | doctype body =>
    obtain ⟨rfl, rfl⟩ := eq_of_ok_eq steps
    exact ⟨[], rfl, rfl, (gather_nil scan).symm⟩
  | instruction content =>
    have declares : Markup.isXmlDeclaration content = true := by
      rw [Markup.interrupts, Bool.not_eq_false'] at textual
      exact textual
    unfold step at steps
    dsimp only at steps
    rw [if_pos declares] at steps
    obtain ⟨rfl, rfl⟩ := eq_of_ok_eq steps
    exact ⟨[], rfl, rfl, (gather_nil scan).symm⟩
  | _ => cases textual

/-- The text of a run is gathered, and nothing changes. -/
theorem steps_run_of_ok {run : TextRun}
    (steps : scan.steps options run.pieces = (changes, .ok final)) :
    ∃ text, run.text = .ok text ∧ changes = [] ∧ final = scan.gather text := by
  induction run generalizing scan changes with
  | nil =>
    obtain ⟨rfl, rfl⟩ := eq_of_ok_eq steps
    exact ⟨[], rfl, rfl, (gather_nil scan).symm⟩
  | cons entry rest inductionHypothesis =>
    obtain ⟨position, piece, textual⟩ := entry
    obtain ⟨here, next, there, stepped, others, rfl⟩ := steps_cons_of_ok steps
    obtain ⟨first, ofFirst, rfl, rfl⟩ := step_of_textual textual stepped
    obtain ⟨text, ofRest, rfl, rfl⟩ := inductionHypothesis others
    refine ⟨first ++ text, ?_, rfl, ?_⟩
    · exact ok_bind_iff.mpr ⟨first, ofFirst, ok_bind_iff.mpr ⟨text, ofRest, rfl⟩⟩
    · rw [gather, gather, gather, List.append_assoc]

theorem keepsText_eq_false_iff (text : List Char) :
    keepsText options text = false ↔
      text = [] ∨ options.dropsBlankText = true ∧ Text.trim text = [] := by
  rw [keepsText, Bool.and_eq_false_iff, Bool.not_eq_false', Bool.not_eq_false', Bool.and_eq_true,
    List.isEmpty_iff, List.isEmpty_iff]

theorem textNodes_eq (serial : Nat) (text : List Char) :
    options.textNodes serial text =
      if keepsText options text then [.mk (Node.text serial (String.ofList text)) []] else [] := by
  have left : keepsText options text = false ↔ _ := keepsText_eq_false_iff text
  unfold WalkOptions.textNodes
  cases keeps : keepsText options text with
  | false => rw [if_pos (left.mp keeps), if_neg Bool.false_ne_true]
  | true =>
    rw [if_pos rfl, if_neg fun omitted => Bool.false_ne_true ((left.mpr omitted).symm.trans keeps)]

/-- What has been gathered becomes the node of the text. -/
theorem changes_flush : (scan.flush options).1 =
    changesOfAll (options.textNodes scan.serial scan.pending) := by
  rw [textNodes_eq]
  unfold flush
  cases keepsText options scan.pending <;> rfl

theorem flush_snd : (scan.flush options).2 =
    { scan with
      pending := []
      serial := scan.serial + (options.textNodes scan.serial scan.pending).length } := by
  rw [textNodes_eq]
  unfold flush
  cases keepsText options scan.pending <;> rfl

/-- A tag is read where the text in front of it has become a node, which changes no scope. -/
theorem elementOf_flush (position : Nat) (body : List Char) :
    (scan.flush options).2.elementOf position body =
      Node.ofTag scan.scope position (scan.flush options).2.serial body := by
  rw [elementOf, flush_snd]
  rfl

/-- Where nothing was pending, only the node of the text comes of it. -/
theorem flush_gather (options : WalkOptions) (cleared : scan.pending = []) (text : List Char) :
    ((scan.gather text).flush options).1 =
        changesOfAll (options.textNodes scan.serial text) ∧
      ((scan.gather text).flush options).2 =
        { scan with serial := scan.serial + (options.textNodes scan.serial text).length } := by
  obtain ⟨scopes, pending, serial⟩ := scan
  obtain rfl : pending = [] := cleared
  exact ⟨changes_flush, flush_snd⟩

end Scan

theorem NodeTree.changesOfAll_singleton (node : Node) (children : List NodeTree) :
    changesOfAll [.mk node children] = .enter node :: (changesOfAll children ++ [.leave]) :=
  List.append_nil _

/-! ### Content -/

section Content

variable {options : WalkOptions}

mutual

/-- The changes of a walk through content, and of the text behind its last entry, are those of its
trees. -/
theorem Content.changes_of_steps :
    (content : Content) → {scan final : Scan} → {changes : List Change} → scan.pending = [] →
      scan.steps options content.pieces = (changes, .ok final) →
      ∃ trees next, content.trees options scan.scope scan.serial = .ok (trees, next) ∧
        changes ++ (final.flush options).1 = changesOfAll trees ∧
        (final.flush options).2 = { scan with serial := next }
  | .last run, scan, final, changes, cleared, steps => by
    obtain ⟨text, ofRun, rfl, rfl⟩ := Scan.steps_run_of_ok steps
    obtain ⟨flushed, after⟩ := Scan.flush_gather options cleared text
    exact ⟨_, _, ok_bind_iff.mpr ⟨text, ofRun, rfl⟩, flushed, after⟩
  | .next run entry rest, scan, final, changes, cleared, steps => by
    obtain ⟨_, _, there, ofRun, others, rfl⟩ := Scan.steps_append_of_ok steps
    obtain ⟨text, read, rfl, rfl⟩ := Scan.steps_run_of_ok ofRun
    obtain ⟨here, middle, behind, ofEntry, ofRest, rfl⟩ := Scan.steps_append_of_ok others
    obtain ⟨flushed, after⟩ := Scan.flush_gather options cleared text
    obtain ⟨own, number, ownTrees, ownChanges, rfl⟩ := entry.changes_of_steps ofEntry
    rw [after] at ownTrees ofRest
    have stillCleared : ({ scan with serial := number } : Scan).pending = [] := cleared
    obtain ⟨others, next, otherTrees, otherChanges, ended⟩ :=
      rest.changes_of_steps stillCleared ofRest
    refine ⟨_, next, ok_bind_iff.mpr ⟨text, read, ok_bind_iff.mpr ⟨_, ownTrees,
      ok_bind_iff.mpr ⟨_, otherTrees, rfl⟩⟩⟩, ?_, ended⟩
    rw [List.nil_append, List.append_assoc, otherChanges, ownChanges, flushed]
    simp only [changesOfAll, traverseAll_append, List.append_assoc]

/-- The changes of a walk through an entry are those of its trees, behind the text in front of it.
-/
theorem Entry.changes_of_steps :
    (entry : Entry) → {scan final : Scan} → {changes : List Change} →
      scan.steps options entry.pieces = (changes, .ok final) →
      ∃ trees next, entry.trees options scan.scope (scan.flush options).2.serial =
          .ok (trees, next) ∧
        changes = (scan.flush options).1 ++ changesOfAll trees ∧
        final = { (scan.flush options).2 with serial := next }
  | .element position body content endPosition endBody, scan, final, changes, steps => by
    obtain ⟨_, inside, _, started, others, rfl⟩ := Scan.steps_cons_of_ok steps
    obtain ⟨within, middle, _, ofContent, ended, rfl⟩ := Scan.steps_append_of_ok others
    have closed := Scan.steps_singleton_of_ok ended
    rw [Scan.step_endTag] at closed
    obtain ⟨rfl, rfl⟩ := Scan.eq_of_ok_eq closed
    unfold Scan.step at started
    dsimp only at started
    split at started
    · cases started
    · next node made =>
      obtain ⟨rfl, rfl⟩ := Scan.eq_of_ok_eq started
      have cleared : ((scan.flush options).2.openElement node).2.pending = [] := by
        rw [Scan.flush_snd]
        rfl
      obtain ⟨children, next, ofChildren, childChanges, flushed⟩ :=
        content.changes_of_steps cleared ofContent
      rw [Scan.elementOf_flush] at made
      refine ⟨[.mk node children], next, ok_bind_iff.mpr ⟨node, made, ok_bind_iff.mpr
        ⟨_, ofChildren, rfl⟩⟩, ?_, ?_⟩
      · simp only [List.append_assoc]
        rw [← List.append_assoc within, childChanges, NodeTree.changesOfAll_singleton]
        rfl
      · rw [flushed]
        rfl
  | .emptyElement position body, scan, final, changes, steps => by
    have stepped := Scan.steps_singleton_of_ok steps
    unfold Scan.step at stepped
    dsimp only at stepped
    split at stepped
    · cases stepped
    · next node made =>
      obtain ⟨rfl, rfl⟩ := Scan.eq_of_ok_eq stepped
      rw [Scan.elementOf_flush] at made
      exact ⟨[.mk node []], _, ok_bind_iff.mpr ⟨node, made, rfl⟩, rfl, rfl⟩
  | .cdata position content, scan, final, changes, steps => by
    obtain ⟨rfl, rfl⟩ := Scan.eq_of_ok_eq (Scan.steps_singleton_of_ok steps)
    exact ⟨_, _, rfl, rfl, rfl⟩
  | .comment position content, scan, final, changes, steps => by
    obtain ⟨rfl, rfl⟩ := Scan.eq_of_ok_eq (Scan.steps_singleton_of_ok steps)
    rw [Entry.trees]
    unfold Scan.andThen
    dsimp only
    split
    · exact ⟨_, _, rfl, rfl, rfl⟩
    · exact ⟨_, _, rfl, rfl, rfl⟩
  | .instruction position content noDeclaration, scan, final, changes, steps => by
    have stepped := Scan.steps_singleton_of_ok steps
    unfold Scan.step at stepped
    dsimp only at stepped
    rw [if_neg (by rw [noDeclaration]; exact Bool.false_ne_true)] at stepped
    obtain ⟨rfl, rfl⟩ := Scan.eq_of_ok_eq stepped
    exact ⟨_, _, rfl, rfl, rfl⟩

end

end Content

/-! ### Trees as changes and as calls -/

namespace NodeTree

open Change (openAfter?)

mutual

/-- Going through a tree leaves open what was open, and its changes make its calls. -/
theorem ofChanges_traverse : (tree : NodeTree) → (opened : List Node) → (rest : List Change) →
    openAfter? opened (tree.traverse .enter (fun _ => .leave) ++ rest) = openAfter? opened rest ∧
      Call.ofChanges opened (tree.traverse .enter (fun _ => .leave) ++ rest) =
        tree.calls ++ Call.ofChanges opened rest
  | mk node children, opened, rest => by
    obtain ⟨leaves, calls⟩ := ofChanges_traverseAll children (node :: opened) (.leave :: rest)
    rw [NodeTree.calls, traverse, traverse, List.cons_append, List.append_assoc,
      List.singleton_append]
    refine ⟨leaves, (congrArg (List.cons _) calls).trans ?_⟩
    rw [List.cons_append, List.append_assoc]
    rfl

theorem ofChanges_traverseAll : (trees : List NodeTree) → (opened : List Node) →
    (rest : List Change) →
    openAfter? opened (changesOfAll trees ++ rest) = openAfter? opened rest ∧
      Call.ofChanges opened (changesOfAll trees ++ rest) =
        traverseAll (fun node => .node (some node)) (fun node => .endNode (some node)) trees ++
          Call.ofChanges opened rest
  | [], _, _ => ⟨rfl, rfl⟩
  | tree :: others, opened, rest => by
    obtain ⟨leaves, calls⟩ := tree.ofChanges_traverse opened (changesOfAll others ++ rest)
    obtain ⟨leavesRest, callsRest⟩ := ofChanges_traverseAll others opened rest
    rw [changesOfAll, traverseAll, List.append_assoc]
    refine ⟨leaves.trans leavesRest, ?_⟩
    rw [traverseAll, List.append_assoc, ← callsRest]
    exact calls

end

end NodeTree

/-! ### Whole documents -/

/-- A handler none of whose calls fails. -/
structure Handler.NeverFails {σ : Type} (handler : Handler σ) : Prop where
  node : ∀ stage, (handler.node stage).1 = .ok ()
  endNode : ∀ stage, (handler.endNode stage).1 = .ok ()

theorem Handler.NeverFails.deliver {σ : Type} {handler : Handler σ} (never : handler.NeverFails)
    (change : Change) (stage : Stage σ) :
    ∃ between, change.deliver handler stage = (.ok (), between) := by
  cases change with
  | enter node => exact ⟨_, Prod.ext (never.node _) rfl⟩
  | leave => exact ⟨_, deliver_leave_of_ok (Prod.ext (never.endNode stage) rfl)⟩

theorem Handler.NeverFails.follow {σ : Type} {handler : Handler σ} (never : handler.NeverFails)
    (changes : List Change) (stage : Stage σ) : (handler.follow changes stage).1 = .ok () := by
  induction changes generalizing stage with
  | nil => rfl
  | cons change rest inductionHypothesis =>
    obtain ⟨between, delivered⟩ := never.deliver change stage
    rw [follow_cons_of_ok delivered]
    exact inductionHypothesis between

/-- The changes of a walk through well-nested pieces are those of the tree of the document. -/
theorem changes_walk {options : WalkOptions} {serial : Nat} {content : Content}
    (whole : (Reading.walk options serial { pieces := content.pieces }).error = none) :
    ∃ trees next, content.trees options Table.empty (serial + 1) = .ok (trees, next) ∧
      (Reading.walk options serial { pieces := content.pieces }).changes =
        changesOfAll [.mk (Node.root serial) trees] := by
  unfold Reading.walk at whole ⊢
  dsimp only at whole ⊢
  split at whole
  · cases whole
  · next changes scan stepped =>
    obtain ⟨trees, next, ofContent, made, _⟩ := content.changes_of_steps rfl stepped
    refine ⟨trees, next, ofContent, ?_⟩
    dsimp only
    rw [List.cons_append, List.cons_append, made, NodeTree.changesOfAll_singleton]

end StreamPath
