/-
Namespaces are scoped by elements. A prefix stands in an element for what the innermost tag declares
it as, of the tag of the element and those of the elements around it; tags of elements that have
ended do not count. A walk keeps a table for each open element in place of its tag, with all that is
bound there. Each piece of markup does to the tables what it does to the open tags, and so the table
on top binds what the open tags bind.

A drive does the same while its handler keeps the chain. Every node that it enters for a tag is
therefore the element of the tag, with what the open tags bind, and a tag whose attributes have no
fault is refused exactly for a prefix that none of them binds. A handler that puts nodes on the
chain can keep a table from being taken away.
-/

import StreamPath.Proofs.Declarations
import StreamPath.Proofs.Delivery

namespace StreamPath

/-! ### Open tags -/

namespace Markup

/-- Whether a piece is a tag. -/
def isTag : Markup → Bool
  | startTag _ | emptyTag _ | endTag _ => true
  | _ => false

/-- The tags of the open elements after a piece of markup, the innermost first. -/
def tagsAfter (tags : List (List Char)) : Markup → List (List Char)
  | startTag body => body :: tags
  | endTag _ => tags.tail
  | _ => tags

/-- The tags of the elements that pieces leave open, the innermost first. -/
def openTags (pieces : List (Nat × Markup)) : List (List Char) :=
  (pieces.map Prod.snd).foldl tagsAfter []

end Markup

/-- Whether tables bind what tags bind, from the innermost one outwards. -/
def Mirrors (scopes : List Namespaces) (tags : List (List Char)) : Prop :=
  ∀ depth front, ((scopes[depth]?).getD Table.empty).get? front =
    Markup.boundIn (tags.drop depth) front

namespace Mirrors

variable {scopes : List Namespaces} {tags : List (List Char)}

theorem start : Mirrors [Table.empty] [] := by
  intro depth front
  rw [List.drop_nil]
  cases depth <;> rfl

theorem push (mirrors : Mirrors scopes tags) {scope : Namespaces} {body : List Char}
    (binds : ∀ front, scope.get? front = Markup.boundIn (body :: tags) front) :
    Mirrors (scope :: scopes) (body :: tags) := by
  intro depth front
  cases depth with
  | zero => exact binds front
  | succ depth => exact mirrors depth front

theorem tail (mirrors : Mirrors scopes tags) : Mirrors scopes.tail tags.tail := by
  intro depth front
  rw [List.getElem?_tail, ← List.drop_one, List.drop_drop, Nat.add_comm 1]
  exact mirrors (depth + 1) front

end Mirrors

/-! ### Steps of a walk -/

namespace Scan

variable {options : WalkOptions} {scan next : Scan} {changes : List Change} {position : Nat}

theorem get?_scope {tags : List (List Char)} (mirrors : Mirrors scan.scopes tags) (front : String) :
    scan.scope.get? front = Markup.boundIn tags front := by
  rw [scope, List.head?_eq_getElem?]
  exact mirrors 0 front

theorem scopes_flush : (scan.flush options).2.scopes = scan.scopes := by rw [flush_snd]

/-- A tag is read behind the text in front of it. If it can be, its element is entered next. -/
theorem step_tag {tag : Markup} {body : List Char}
    (begins : tag = .startTag body ∨ tag = .emptyTag body) :
    let read := Node.ofTag scan.scope position (scan.flush options).2.serial body
    (∀ error, read = .error error →
      scan.step options position tag = ((scan.flush options).1, .error error)) ∧
    ∀ node, read = .ok node → ∃ more next,
      scan.step options position tag =
        ((scan.flush options).1 ++ .enter node :: more, .ok next) := by
  intro read
  have here : (scan.flush options).2.elementOf position body = read := elementOf_flush position body
  rcases begins with rfl | rfl
  all_goals
    unfold step
    dsimp only
    rw [here]
    constructor
    · intro error failed
      rw [failed]
    · intro node made
      rw [made]
      exact ⟨_, _, rfl⟩

/-- A piece that is no tag changes no table. -/
theorem scopes_step {piece : Markup} (noTag : piece.isTag = false)
    (steps : scan.step options position piece = (changes, .ok next)) :
    next.scopes = scan.scopes := by
  cases piece with
  | startTag body | emptyTag body | endTag body => cases noTag
  | characters content | reference content | doctype content =>
    obtain ⟨_, -, -, rfl⟩ := step_of_textual rfl steps
    rfl
  | cdata content =>
    obtain ⟨-, rfl⟩ := eq_of_ok_eq steps
    exact scopes_flush
  | comment content =>
    obtain ⟨-, rfl⟩ := eq_of_ok_eq steps
    unfold andThen
    dsimp only
    split <;> exact scopes_flush
  | instruction content =>
    unfold step at steps
    dsimp only at steps
    split at steps
    · obtain ⟨-, rfl⟩ := eq_of_ok_eq steps
      rfl
    · obtain ⟨-, rfl⟩ := eq_of_ok_eq steps
      exact scopes_flush

/-- A piece of markup does to the tables what it does to the open tags. -/
theorem mirrors_step {piece : Markup} {tags : List (List Char)} (mirrors : Mirrors scan.scopes tags)
    (steps : scan.step options position piece = (changes, .ok next)) :
    Mirrors next.scopes (piece.tagsAfter tags) := by
  cases piece with
  | startTag body =>
    unfold step at steps
    dsimp only at steps
    split at steps
    · cases steps
    · next node made =>
      obtain ⟨-, rfl⟩ := eq_of_ok_eq steps
      rw [elementOf_flush] at made
      have binds := (Node.isElementOf_of_ofTag made (get?_scope mirrors)).namespaces
      show Mirrors (node.namespaces :: (scan.flush options).2.scopes) (body :: tags)
      rw [scopes_flush]
      exact mirrors.push binds
  | emptyTag body =>
    unfold step at steps
    dsimp only at steps
    split at steps
    · cases steps
    · obtain ⟨-, rfl⟩ := eq_of_ok_eq steps
      show Mirrors (scan.flush options).2.scopes tags
      rwa [scopes_flush]
  | endTag body =>
    obtain ⟨-, rfl⟩ := eq_of_ok_eq steps
    show Mirrors (scan.flush options).2.scopes.tail tags.tail
    rw [scopes_flush]
    exact mirrors.tail
  | _ =>
    rw [scopes_step rfl steps]
    exact mirrors

theorem mirrors_steps {pieces : List (Nat × Markup)} {tags : List (List Char)}
    (mirrors : Mirrors scan.scopes tags) (steps : scan.steps options pieces = (changes, .ok next)) :
    Mirrors next.scopes ((pieces.map Prod.snd).foldl Markup.tagsAfter tags) := by
  induction pieces generalizing scan tags changes with
  | nil =>
    obtain ⟨-, rfl⟩ := eq_of_ok_eq steps
    exact mirrors
  | cons entry rest inductionHypothesis =>
    obtain ⟨position, piece⟩ := entry
    obtain ⟨_, between, _, stepped, others, -⟩ := steps_cons_of_ok steps
    exact inductionHypothesis (mirrors_step mirrors stepped) others

theorem steps_append {first : List (Nat × Markup)}
    (ran : scan.steps options first = (changes, .ok next)) (second : List (Nat × Markup)) :
    scan.steps options (first ++ second) =
      (changes ++ (next.steps options second).1, (next.steps options second).2) := by
  induction first generalizing scan changes with
  | nil =>
    obtain ⟨rfl, rfl⟩ := eq_of_ok_eq ran
    rfl
  | cons entry rest inductionHypothesis =>
    obtain ⟨position, piece⟩ := entry
    obtain ⟨here, between, there, stepped, others, rfl⟩ := steps_cons_of_ok ran
    rw [List.cons_append, steps, stepped]
    dsimp only
    rw [inductionHypothesis others, List.append_assoc]

end Scan

/-! ### The way to a tag -/

section Tags

variable {reading : Reading} {before after : List (Nat × Markup)} {position serial : Nat}
  {tag : Markup} {body : List Char} {options : WalkOptions}

/-- The changes of a walk begin with those of its pieces. -/
theorem changes_walk_of_steps {here : List Change} {result : Except StreamError Scan}
    (ran : Scan.steps options { serial := serial + 1 } reading.pieces = (here, result)) :
    ∃ rest, (reading.walk options serial).changes =
      .enter (Node.root serial) :: (here ++ rest) := by
  unfold Reading.walk
  dsimp only
  rw [ran]
  cases result with
  | error error => exact ⟨[], congrArg _ (List.append_nil here).symm⟩
  | ok scan =>
    dsimp only
    split
    · exact ⟨[], congrArg _ (List.append_nil here).symm⟩
    · exact ⟨_, List.append_assoc _ _ _⟩

/-- A walk that gets to a tag reads it where the open tags in front of it bind what is bound. If the
tag cannot be read, the walk ends there; otherwise the element of the tag is entered next. -/
theorem walk_at_tag (split : reading.pieces = before ++ (position, tag) :: after)
    (begins : tag = .startTag body ∨ tag = .emptyTag body) {changes : List Change} {scan : Scan}
    (ran : Scan.steps options { serial := serial + 1 } before = (changes, .ok scan)) :
    let front := .enter (Node.root serial) :: (changes ++ (scan.flush options).1)
    ∃ scope number, (∀ prefixed, scope.get? prefixed =
        Markup.boundIn (Markup.openTags before) prefixed) ∧
      (∀ error, Node.ofTag scope position number body = .error error →
        reading.walk options serial = { changes := front, error := some error }) ∧
      ∀ node, Node.ofTag scope position number body = .ok node → ∃ rest,
        (reading.walk options serial).changes = front ++ .enter node :: rest := by
  intro front
  obtain ⟨failing, entering⟩ := scan.step_tag begins
  have steps := Scan.steps_append ran ((position, tag) :: after)
  rw [← split] at steps
  refine ⟨scan.scope, (scan.flush options).2.serial,
    Scan.get?_scope (Scan.mirrors_steps Mirrors.start ran), ?_, ?_⟩
  · intro error failed
    rw [Scan.steps, failing error failed] at steps
    unfold Reading.walk
    dsimp only
    rw [steps]
  · intro node made
    obtain ⟨more, next, stepped⟩ := entering node made
    rw [Scan.steps, stepped] at steps
    obtain ⟨rest, same⟩ := changes_walk_of_steps steps
    refine ⟨more ++ ((next.steps options after).1 ++ rest), ?_⟩
    rw [same, List.cons_append]
    simp only [List.cons_append, List.append_assoc]

end Tags

/-! ### Driving to a tag -/

section Driving

variable {σ : Type}

/-- Goes from the document root through pieces of markup, up to where the next node begins. -/
def Drive.upTo (listener : Listener σ) (options : WalkOptions) (before : List (Nat × Markup)) :
    Drive σ Unit := do
  front listener options before
  flush listener options

/-- A handler that keeps the chain and gets to some point of a document has followed the walk to
there. -/
theorem exists_steps_of_upTo {handler : Handler σ} (keeps : handler.KeepsChain)
    {options : WalkOptions} {before : List (Nat × Markup)} {depth serial : Nat}
    (closes : Markup.depthAfterAll? 0 before = some depth) {stage : Stage σ} {there : Progress σ}
    (reached : Drive.upTo handler.listener options before { scan := { serial }, stage } =
      (.ok (), there)) :
    ∃ changes scan, Scan.steps options { serial := serial + 1 } before = (changes, .ok scan) ∧
      handler.follow (.enter (Node.root serial) :: (changes ++ (scan.flush options).1)) stage =
        (.ok (), there.stage) := by
  let start : Progress σ := { scan := { serial }, stage }
  let base := stage.context.chain.nodes
  have stands : start.chain.nodes = base ++ [] := (List.append_nil _).symm
  have upholds := keeps.upholds base
  have front : Drive.Realizes handler (Drive.front handler.listener options before) start _ :=
    upholds.realizes_front stands rfl closes
  rw [Drive.upTo, bind_apply] at reached
  rcases ran : Drive.front handler.listener options before start with ⟨error | ⟨⟩, middle⟩
  · rw [show Drive.front handler.listener options before { scan := { serial }, stage } = _ from ran]
      at reached
    cases reached
  · rw [show Drive.front handler.listener options before { scan := { serial }, stage } = _ from ran]
      at reached
    obtain ⟨followed, steps⟩ := front.followed ran
    obtain ⟨_, _, standsThere⟩ := (upholds.goes_front stands rfl closes).reaches ran
    obtain ⟨flushed, -⟩ := (upholds.realizes_flush standsThere).followed reached
    refine ⟨_, middle.scan, Prod.ext rfl steps, ?_⟩
    rw [← List.cons_append, follow_append, Visit.bind_of_ok followed]
    exact flushed

/-! ### What handlers see -/

section Calls

variable {handler : Handler σ}

/-- A watched handler notes a call for each change. -/
theorem exists_call_of_deliver (change : Change) (stage : Stage (σ × List Call)) :
    ∃ call, (change.deliver handler.watched stage).2.state.2 = stage.state.2 ++ [call] := by
  cases change with
  | enter node => exact ⟨_, rfl⟩
  | leave =>
    have noted : (handler.watched.endNode stage).2.state.2 = stage.state.2 ++ [_] := rfl
    refine ⟨.endNode stage.context.chain.current?, ?_⟩
    rcases ran : handler.watched.endNode stage with ⟨error | ⟨⟩, between⟩
    · rw [ran] at noted
      rw [deliver_leave_of_error ran]
      exact noted
    · rw [ran] at noted
      rw [deliver_leave_of_ok ran]
      exact noted

theorem exists_calls_of_follow (changes : List Change) (stage : Stage (σ × List Call)) :
    ∃ calls, (handler.watched.follow changes stage).2.state.2 = stage.state.2 ++ calls := by
  induction changes generalizing stage with
  | nil => exact ⟨[], (List.append_nil _).symm⟩
  | cons change rest inductionHypothesis =>
    obtain ⟨call, noted⟩ := exists_call_of_deliver change stage
    rcases delivered : change.deliver handler.watched stage with ⟨error | ⟨⟩, between⟩
    · rw [delivered] at noted
      rw [follow_cons_of_error delivered]
      exact ⟨[call], noted⟩
    · rw [delivered] at noted
      obtain ⟨calls, later⟩ := inductionHypothesis between
      rw [follow_cons_of_ok delivered]
      exact ⟨call :: calls, by rw [later, noted, List.append_assoc, List.singleton_append]⟩

/-- The first call of what begins with a node is made with this node on top of the chain. -/
theorem calls_of_enter (node : Node) (rest : List Change) (stage : Stage (σ × List Call)) :
    ∃ more, (handler.watched.follow (.enter node :: rest) stage).2.state.2 =
      stage.state.2 ++ .node (some node) :: more := by
  have noted : ((Change.enter node).deliver handler.watched stage).2.state.2 =
      stage.state.2 ++ [.node (some node)] := by
    rw [← Chain.current?_push stage.context.chain node]
    rfl
  rcases delivered : (Change.enter node).deliver handler.watched stage with ⟨error | ⟨⟩, between⟩
  · rw [delivered] at noted
    rw [follow_cons_of_error delivered]
    exact ⟨[], noted⟩
  · rw [delivered] at noted
    obtain ⟨more, later⟩ := exists_calls_of_follow rest between
    rw [follow_cons_of_ok delivered]
    exact ⟨more, by rw [later, noted, List.append_assoc, List.singleton_append]⟩

end Calls

/-- A drive that gets to a tag reads it where the open tags in front of it bind what is bound. If
the tag cannot be read, the drive ends there; otherwise the next call is made with the element of
the tag on top of the chain. -/
theorem drive_at_tag {handler : Handler σ} (keeps : handler.KeepsChain) {reading : Reading}
    {depth : Nat} (closes : reading.LeavesOpen depth) {before after : List (Nat × Markup)}
    {position : Nat} {tag : Markup} {body : List Char}
    (split : reading.pieces = before ++ (position, tag) :: after)
    (begins : tag = .startTag body ∨ tag = .emptyTag body) {options : WalkOptions} {serial : Nat}
    {stage : Stage (σ × List Call)} {there : Progress (σ × List Call)}
    (reached : Drive.upTo handler.watched.listener options before { scan := { serial }, stage } =
      (.ok (), there)) :
    let ran := handler.watched.drive options serial reading stage
    ∃ scope number, (∀ prefixed, scope.get? prefixed =
        Markup.boundIn (Markup.openTags before) prefixed) ∧
      (∀ error, Node.ofTag scope position number body = .error error →
        ran = (.error error, there.stage)) ∧
      ∀ node, Node.ofTag scope position number body = .ok node → ∃ more,
        ran.2.state.2 = there.stage.state.2 ++ .node (some node) :: more := by
  intro ran
  have closesAll := closes
  rw [Reading.LeavesOpen, split, Markup.depthAfterAll?_append] at closesAll
  obtain ⟨between, closesBefore, -⟩ := Option.bind_eq_some_iff.mp closesAll
  obtain ⟨changes, scan, steps, followed⟩ := exists_steps_of_upTo keeps.watched closesBefore reached
  obtain ⟨scope, number, around, failing, entering⟩ := walk_at_tag split begins steps
  have driven : ran = (reading.walk options serial).run handler.watched stage :=
    keeps.watched.drive_eq_run options serial closes stage
  refine ⟨scope, number, around, fun error failed => ?_, fun node made => ?_⟩
  · rw [driven, failing error failed]
    exact Visit.bind_of_ok followed _
  · obtain ⟨rest, enters⟩ := entering node made
    rw [driven, snd_run, enters, follow_append, Visit.bind_of_ok followed]
    exact calls_of_enter node rest there.stage

/-- Namespaces are scoped by elements. Where the drive of a handler that keeps the chain gets to a
tag, the next call is for the element of the tag, with what the tag and the open tags around it
bind, or the tag is refused and the drive ends. A tag whose attributes have no fault is refused
exactly if one of its names has a prefix that is not bound, and then for such a prefix. -/
theorem drive_scopes_namespaces (handler : Handler σ) (keeps : handler.KeepsChain)
    {reading : Reading} {depth : Nat} (closes : reading.LeavesOpen depth)
    {before after : List (Nat × Markup)} {position : Nat} {tag : Markup} {body : List Char}
    (split : reading.pieces = before ++ (position, tag) :: after)
    (begins : tag = .startTag body ∨ tag = .emptyTag body) (options : WalkOptions) (serial : Nat)
    (context : Context) (state : σ) {there : Progress (σ × List Call)}
    (reached : Drive.upTo handler.watched.listener options before
      { scan := { serial }, stage := ⟨context, (state, [])⟩ } = (.ok (), there)) :
    let bound := Markup.boundIn (body :: Markup.openTags before)
    let ran := handler.watched.drive options serial reading ⟨context, (state, [])⟩
    ((∃ node more, node.IsElementOf bound body ∧
        ran.2.state.2 = there.stage.state.2 ++ .node (some node) :: more) ∨
      ∃ error, ran = (.error error, there.stage)) ∧
    (Markup.AttributesAreSound body →
      ((∃ error, ran = (.error error, there.stage)) ↔
        ∃ name ∈ Markup.names body, ∃ unbound, LacksPrefix bound name unbound) ∧
      ∀ error, ran = (.error error, there.stage) → ∃ unbound,
        error = .undeclaredPrefix unbound position ∧
          ∃ name ∈ Markup.names body, LacksPrefix bound name unbound) := by
  intro bound ran
  obtain ⟨scope, number, around, refused, entered⟩ := drive_at_tag keeps closes split begins reached
  have notBoth : ∀ node error, Node.ofTag scope position number body = .ok node →
      ran ≠ (.error error, there.stage) := by
    intro node error made ends
    obtain ⟨more, calls⟩ := entered node made
    rw [show handler.watched.drive _ _ _ _ = _ from ends] at calls
    cases List.self_eq_append_right.mp calls
  refine ⟨?_, fun sound => ?_⟩
  · cases made : Node.ofTag scope position number body with
    | error error => exact .inr ⟨error, refused error made⟩
    | ok node =>
      obtain ⟨more, calls⟩ := entered node made
      exact .inl ⟨node, more, Node.isElementOf_of_ofTag made around, calls⟩
  · rcases Node.ofTag_ok_or_error sound around position number with
      ⟨node, made, isElement⟩ | ⟨unbound, failed, name, listed, lacks⟩
    · refine ⟨iff_of_false ?_ ?_, fun error ends => absurd ends (notBoth node error made)⟩
      · rintro ⟨error, ends⟩
        exact notBoth node error made ends
      · rintro ⟨name, listed, unbound, lacks⟩
        exact isElement.not_lacksPrefix name listed unbound lacks
    · have ends := refused _ failed
      refine ⟨iff_of_true ⟨_, ends⟩ ⟨name, listed, unbound, lacks⟩, fun error ended => ?_⟩
      have same := Except.error.inj (Prod.mk.inj (ends.symm.trans ended)).1
      exact ⟨unbound, same.symm, name, listed, lacks⟩

end Driving

/-- The default namespace comes from the element around, the prefix is declared behind its first
use, and what a sibling has declared before is forgotten. -/
theorem drive_scopes_namespaces_redeclared :
    let reading := Reading.ofText
      "<a xmlns='u' xmlns:p='v'><b xmlns:p='w' xmlns=''/><p:c p:x='1' xmlns:p='z' y='2'/></a>".toList
    let before := reading.pieces.take 2
    let body := "p:c p:x='1' xmlns:p='z' y='2'".toList
    let bound := Markup.boundIn (body :: Markup.openTags before)
    let start : Progress (Unit × List Call) := { scan := { serial := 0 }, stage := ⟨{}, ((), [])⟩ }
    let reached := Drive.upTo silent.watched.listener {} before start
    let ran := silent.watched.drive {} 0 reading start.stage
    reading.LeavesOpen 0 ∧
      reading.pieces = before ++ (50, .emptyTag body) :: reading.pieces.drop 3 ∧
      reached.1 = .ok () ∧ Markup.AttributesAreSound body ∧
      bound "" = some "u" ∧ bound "p" = some "z" ∧ bound "q" = none ∧
      ∃ node more, node.IsElementOf bound body ∧
        ran.2.state.2 = reached.2.stage.state.2 ++ .node (some node) :: more := by
  intro reading before body bound start reached ran
  have closes : reading.LeavesOpen 0 := by decide +kernel
  have split : reading.pieces = before ++ (50, .emptyTag body) :: reading.pieces.drop 3 := by
    decide +kernel
  have arrives : reached.1 = .ok () := ok_of_toOption (by decide +kernel)
  have sound : Markup.AttributesAreSound body := ⟨by decide +kernel, by decide +kernel⟩
  have binds : ∀ name ∈ Markup.names body,
      (splitQName name).1.all (fun front => (bound front).any (· ≠ "")) = true := by decide +kernel
  obtain ⟨arrived, refusal⟩ :=
    drive_scopes_namespaces silent silent_keepsChain closes split (.inr rfl)
    {} 0 {} () (show reached = (.ok (), reached.2) from Prod.ext arrives rfl)
  have bounds : ∀ name ∈ Markup.names body, ∀ unbound, ¬LacksPrefix bound name unbound := by
    rintro name listed unbound ⟨has, -, none | empty⟩
    · simpa [has, none] using binds name listed
    · simpa [has, empty] using binds name listed
  have accepted : ¬∃ error, ran = (.error error, reached.2.stage) := by
    intro refused
    obtain ⟨name, listed, unbound, lacks⟩ := (refusal sound).1.mp refused
    exact bounds name listed unbound lacks
  exact ⟨closes, split, arrives, sound, by decide +kernel, by decide +kernel, by decide +kernel,
    arrived.resolve_right accepted⟩

/-- What is bound in an element is not always what the open elements declare. Where a handler has
put another node on top of an element, that node ends in its place, and the namespaces of the
element stay in scope for the next one, although its tag is open no longer. What an element declares
that was on the chain before the drive is not in scope. -/
theorem scopes_of_changed_chain :
    let reading := Reading.ofText "<a><b xmlns:p='u'/><p:c/></a>".toList
    let bound := Markup.boundIn ("p:c".toList :: Markup.openTags (reading.pieces.take 2))
    let ran := marksElements.watched.drive {} 0 reading ⟨{}, ((), [])⟩
    let outer := { Node.element 0 "" "z" with namespaces := Table.empty.insert "p" "u" }
    let context := Context.push {} outer
    reading.LeavesOpen 0 ∧ bound "p" = none ∧ ran.1.toOption = some () ∧
      ((ran.2.state.2.filterMap Call.begun?).map fun node =>
          (node.qualifiedName, node.namespaces.get? "p")) =
        [("", none), ("a", none), ("b", some "u"), ("p:c", some "u")] ∧
      outer.namespaces.get? "p" = some "u" ∧
      (silent.drive {} 0 (Reading.ofText "<p:c/>".toList) ⟨context, ()⟩).1.toOption = none := by
  intro reading bound ran outer context
  exact ⟨by decide +kernel, by decide +kernel, by decide +kernel, by decide +kernel,
    by decide +kernel, by decide +kernel⟩

end StreamPath
