/-
Patterns that are collected together. A collector tries all its patterns on one context, and every
match that succeeds leaves its position there; what is reported on the way reaches the sink. Neither
is seen by the matches that come later: a match depends on neither the position that it finds nor on
what the sink has received, and the attributes that are tried on top of their element count as
nobody's children. So what is recorded for a pattern is told by the walk through the document and by
the context at its start, and no other pattern takes part.
-/

import StreamPath.Proofs.MatchPosition
import StreamPath.Proofs.ProvidedHandlers
import StreamPath.Proofs.Recovery

namespace StreamPath

/-! ### Matches in one context after another -/

namespace Context

/-- The position that a match of the current node gives, if the node matches. -/
def matchedPosition? (context : Context) (pattern : Tree) : Option Nat :=
  match context.matchPattern pattern context.depth true with
  | (.ok true, after) => some after.position
  | _ => none

/-- A match that answers tells the position that it has left behind. -/
theorem matchedPosition?_of_ok {context : Context} {pattern : Tree} {answer : Bool}
    (answered : (context.matchPattern pattern context.depth true).1 = .ok answer) :
    context.matchedPosition? pattern =
      if answer then some (context.matchPattern pattern context.depth true).2.position
      else none := by
  unfold matchedPosition?
  generalize context.matchPattern pattern context.depth true = ran at answered ⊢
  rcases ran with ⟨result, after⟩
  obtain rfl : result = .ok answer := answered
  cases answer <;> rfl

/-- Where evaluation goes on after errors, a match does not depend on what the sink keeps and has
received. -/
theorem matchPattern_reportingTo {pattern : Tree}
    (sound : ∀ function ∈ pattern.functions, function.Sound) (context : Context) {sink : Sink}
    (continues : context.sink.policy.continues = true)
    (continues' : sink.policy.continues = true) (top : Nat) (setPosition : Bool) :
    ((context.reportingTo sink).matchPattern pattern top setPosition).1 =
        (context.matchPattern pattern top setPosition).1 ∧
      ((context.reportingTo sink).matchPattern pattern top setPosition).2.position =
        (context.matchPattern pattern top setPosition).2.position := by
  have alongside := ((pattern.follows_procedure sound).matchAt top setPosition context sink
    context.sink sink continues).2
  unfold matchPattern execute
  generalize pattern.procedure.matchAt top setPosition ⟨context, context.sink⟩ = ran at alongside ⊢
  generalize ended : pattern.procedure.matchAt top setPosition
    ⟨context.reportingTo sink, sink⟩ = ran' at alongside
  have same : (context.reportingTo sink).sink = sink := rfl
  rw [same, ended]
  cases alongside with
  | together => exact ⟨rfl, rfl⟩
  | stopped stops => exact absurd (stops.symm.trans continues') Bool.false_ne_true

/-- Matches that end alike tell the same position. -/
theorem matchedPosition?_congr {context context' : Context} {pattern : Tree}
    (depth : context'.depth = context.depth)
    (answer : (context'.matchPattern pattern context.depth true).1 =
      (context.matchPattern pattern context.depth true).1)
    (position : (context.matchPattern pattern context.depth true).1 = .ok true →
      (context'.matchPattern pattern context.depth true).2.position =
        (context.matchPattern pattern context.depth true).2.position) :
    context'.matchedPosition? pattern = context.matchedPosition? pattern := by
  unfold matchedPosition?
  rw [depth]
  generalize context'.matchPattern pattern context.depth true = ran' at answer position ⊢
  generalize context.matchPattern pattern context.depth true = ran at answer position ⊢
  rcases ran' with ⟨result', after'⟩
  rcases ran with ⟨result, after⟩
  obtain rfl : result' = result := answer
  rcases result' with error | _ | _
  · rfl
  · rfl
  · exact congrArg some (position rfl)

theorem matchedPosition?_position (context : Context) (pattern : Tree) (found : Nat) :
    ({ context with position := found } : Context).matchedPosition? pattern =
      context.matchedPosition? pattern :=
  matchedPosition?_congr rfl (matchPattern_position pattern true found).1
    ((matchPattern_position pattern true found).2 rfl)

/-- Which sink is told does not matter as long as errors do not stop a match. -/
theorem matchedPosition?_reportingTo {pattern : Tree}
    (sound : ∀ function ∈ pattern.functions, function.Sound) (context : Context) {sink : Sink}
    (continues : context.sink.policy.continues = true)
    (continues' : sink.policy.continues = true) :
    (context.reportingTo sink).matchedPosition? pattern = context.matchedPosition? pattern := by
  obtain ⟨answer, left⟩ :=
    matchPattern_reportingTo sound context continues continues' context.depth true
  exact matchedPosition?_congr rfl answer fun _ => left

/-- The context with another chain. -/
def onChain (context : Context) (chain : Chain) : Context := { context with chain }

/-- Whether a context differs from another one on a chain in the position and in what the sink has
received only. -/
def Resumes (start : Context) (chain : Chain) (context : Context) : Prop :=
  ∃ position sink, sink.policy = start.sink.policy ∧ context = { start with chain, position, sink }

theorem resumes_self (start : Context) : start.Resumes start.chain start :=
  ⟨start.position, start.sink, rfl, rfl⟩

namespace Resumes

variable {start context : Context} {chain : Chain}

theorem chain_eq (resumes : start.Resumes chain context) : context.chain = chain := by
  obtain ⟨_, _, _, rfl⟩ := resumes
  rfl

/-- After a node is pushed the collector is on the longer chain. -/
theorem push (resumes : start.Resumes chain context) (node : Node) :
    start.Resumes (chain.push node) (context.push node) := by
  obtain ⟨position, sink, same, rfl⟩ := resumes
  exact ⟨position, sink, same, rfl⟩

/-- After a node is popped the collector is back on the shorter chain. -/
theorem pop (resumes : start.Resumes chain context) : start.Resumes chain.pop context.pop := by
  obtain ⟨position, sink, same, rfl⟩ := resumes
  exact ⟨position, sink, same, rfl⟩

/-- A match leaves a position behind and has reported to the sink, which is all. -/
theorem matchPattern (resumes : start.Resumes chain context) (pattern : Tree) (top : Nat)
    (setPosition : Bool) :
    start.Resumes chain (context.matchPattern pattern top setPosition).2 := by
  obtain ⟨position, sink, same, rfl⟩ := resumes
  rw [matchPattern_eq]
  exact ⟨_, _, (Sink.receive_policy _ _).trans same, rfl⟩

/-- So a match gives there what it gives in the other context. -/
theorem matchedPosition?_eq (resumes : start.Resumes chain context)
    (continues : start.sink.policy.continues = true) {pattern : Tree}
    (sound : ∀ function ∈ pattern.functions, function.Sound) :
    context.matchedPosition? pattern = (start.onChain chain).matchedPosition? pattern := by
  obtain ⟨position, sink, same, rfl⟩ := resumes
  exact (matchedPosition?_position ((start.onChain chain).reportingTo sink) pattern
    position).trans (matchedPosition?_reportingTo sound _ continues (same ▸ continues))

end Resumes

end Context

/-! ### What is recorded -/

theorem Visit.ok_of_perform {σ α : Type} {work : Context → Except ExprError α × Context}
    {stage after : Stage σ} {value : α} (succeeds : perform work stage = (.ok value, after)) :
    (work stage.context).1 = .ok value ∧
      after = { stage with context := (work stage.context).2 } := by
  rw [perform, context_bind] at succeeds
  obtain ⟨_, between, changed, ended⟩ := ok_of_bind succeeds
  obtain rfl := (Prod.mk.inj changed).2
  cases result : (work stage.context).1 with
  | error error =>
    rw [result] at ended
    cases ended
  | ok other =>
    rw [result] at ended
    obtain ⟨same, rfl⟩ := Prod.mk.inj ended
    exact ⟨congrArg Except.ok (Except.ok.inj same), rfl⟩

namespace PatternMatch

/-- What a labelled pattern records of the current node, if the node matches. -/
def of? (context : Context) (node : Node) (labelled : LabelledPattern) : Option PatternMatch :=
  (context.matchedPosition? labelled.pattern).map fun position =>
    { label := labelled.label, kind := node.kind, name := node.qualifiedName
      depth := context.depth, position }

/-- What is recorded for a pattern bears its label. -/
theorem label_of_of? {context : Context} {node : Node} {labelled : LabelledPattern}
    {entry : PatternMatch} (recorded : of? context node labelled = some entry) :
    entry.label = labelled.label := by
  obtain ⟨_, _, rfl⟩ := Option.map_eq_some_iff.mp recorded
  rfl

/-- An attempt that succeeds records the match, if there is one, and changes the context as the
match does. -/
theorem attempt_of_ok {node : Node} {labelled : LabelledPattern} {context : Context}
    {collected : Matches} {after : Stage Matches}
    (succeeds : attempt node labelled ⟨context, collected⟩ = (.ok (), after)) :
    after.context = (context.matchPattern labelled.pattern context.depth true).2 ∧
      after.state.toList = collected.toList ++ (of? context node labelled).toList := by
  rw [attempt, Visit.context_bind] at succeeds
  obtain ⟨answer, between, tried, recorded⟩ := Visit.ok_of_bind succeeds
  obtain ⟨answered, rfl⟩ := Visit.ok_of_perform tried
  rw [of?, Context.matchedPosition?_of_ok answered]
  cases answer with
  | true =>
    rw [if_pos rfl, Visit.context_bind] at recorded
    obtain rfl := (Prod.mk.inj recorded).2
    exact ⟨rfl, Array.toList_push⟩
  | false =>
    obtain rfl := (Prod.mk.inj recorded).2
    exact ⟨rfl, (List.append_nil _).symm⟩

/-! ### One node -/

variable {start context : Context} {chain : Chain} {patterns : List LabelledPattern}
  {collected : Matches} {after : Stage Matches}

/-- What is recorded of a node depends on the chain only. -/
theorem of?_eq (resumes : start.Resumes chain context)
    (continues : start.sink.policy.continues = true) (node : Node) {labelled : LabelledPattern}
    (sound : ∀ function ∈ labelled.pattern.functions, function.Sound) :
    of? context node labelled = of? (start.onChain chain) node labelled := by
  unfold of?
  rw [resumes.matchedPosition?_eq continues sound, Context.depth, resumes.chain_eq]
  rfl

/-- What a collector records of a node on top of a chain, in the order of its patterns. -/
def recordsOf (start : Context) (patterns : List LabelledPattern) (node : Node) (chain : Chain) :
    List PatternMatch :=
  patterns.filterMap (of? (start.onChain chain) node)

theorem recordsOf_cons (labelled : LabelledPattern) (rest : List LabelledPattern) (node : Node) :
    recordsOf start (labelled :: rest) node chain =
      (of? (start.onChain chain) node labelled).toList ++ recordsOf start rest node chain := by
  unfold recordsOf
  cases found : of? (start.onChain chain) node labelled with
  | none => rw [List.filterMap_cons_none found, Option.toList_none, List.nil_append]
  | some entry => rw [List.filterMap_cons_some found, Option.toList_some, List.singleton_append]

theorem attemptAll_of_ok {node : Node} (resumes : start.Resumes chain context)
    (continues : start.sink.policy.continues = true)
    (sound : ∀ labelled ∈ patterns, ∀ function ∈ labelled.pattern.functions, function.Sound)
    (succeeds : attemptAll node patterns ⟨context, collected⟩ = (.ok (), after)) :
    start.Resumes chain after.context ∧
      after.state.toList = collected.toList ++ recordsOf start patterns node chain := by
  induction patterns generalizing context collected with
  | nil =>
    obtain rfl := (Prod.mk.inj succeeds).2
    exact ⟨resumes, (List.append_nil _).symm⟩
  | cons labelled rest inductionHypothesis =>
    obtain ⟨ofFirst, ofRest⟩ := List.forall_mem_cons.mp sound
    obtain ⟨_, between, first, others⟩ := Visit.ok_of_bind succeeds
    obtain ⟨moved, recorded⟩ := attempt_of_ok first
    have resumed := moved ▸ resumes.matchPattern labelled.pattern context.depth true
    obtain ⟨resumesAfter, recordedAfter⟩ := inductionHypothesis resumed ofRest others
    refine ⟨resumesAfter, ?_⟩
    rw [recordedAfter, recorded, of?_eq resumes continues node ofFirst, recordsOf_cons,
      List.append_assoc]

end PatternMatch

/-! ### The attributes of an element -/

namespace PatternMatch

variable {start context : Context} {chain : Chain} {patterns : List LabelledPattern}
  {collected : Matches} {after : Stage Matches}

theorem attemptOnEach_of_ok {nodes : List Node} (resumes : start.Resumes chain context)
    (continues : start.sink.policy.continues = true)
    (sound : ∀ labelled ∈ patterns, ∀ function ∈ labelled.pattern.functions, function.Sound)
    (uncounted : ∀ node ∈ nodes, node.positionKeys = [])
    (succeeds : attemptOnEach patterns nodes ⟨context, collected⟩ = (.ok (), after)) :
    start.Resumes chain after.context ∧
      after.state.toList = collected.toList ++
        nodes.flatMap fun node => recordsOf start patterns node (chain.push node) := by
  induction nodes generalizing context collected with
  | nil =>
    obtain rfl := (Prod.mk.inj succeeds).2
    exact ⟨resumes, (List.append_nil _).symm⟩
  | cons node rest inductionHypothesis =>
    obtain ⟨ofFirst, ofRest⟩ := List.forall_mem_cons.mp uncounted
    obtain ⟨_, between, first, others⟩ := Visit.ok_of_bind succeeds
    obtain ⟨tried, rfl⟩ := Prod.mk.inj first
    obtain ⟨resumed, recorded⟩ := attemptAll_of_ok (resumes.push node) continues sound
      (Prod.ext tried rfl)
    have popped := resumed.pop
    rw [Chain.pop_push_of_uncounted ofFirst] at popped
    obtain ⟨resumesAfter, recordedAfter⟩ := inductionHypothesis popped ofRest others
    refine ⟨resumesAfter, ?_⟩
    rw [recordedAfter, List.flatMap_cons, ← List.append_assoc]
    exact congrArg (· ++ _) recorded

end PatternMatch

/-! ### Whole walks -/

/-- The current node of a chain and its attributes, each with the chain that it is on top of. -/
def Chain.standsOf (chain : Chain) (node : Node) : List (Node × Chain) :=
  (node, chain) :: node.attributeNodes.map fun entry => (entry, chain.push entry)

/-- The nodes that changes bring to the top of a chain, in the order in which they are entered, each
with the chain at that moment. The attributes of an element come right behind it, in their order. -/
def Chain.stands : Chain → List Change → List (Node × Chain)
  | _, [] => []
  | chain, .enter node :: rest =>
    (chain.push node).standsOf node ++ (chain.push node).stands rest
  | chain, .leave :: rest => chain.pop.stands rest

namespace PatternMatch

variable {start context : Context} {chain : Chain} {patterns : List LabelledPattern}
  {collected : Matches} {after : Stage Matches}

/-- What a collector records of nodes on top of their chains. -/
def recordsOn (start : Context) (patterns : List LabelledPattern) (stands : List (Node × Chain)) :
    List PatternMatch :=
  stands.flatMap fun stand => recordsOf start patterns stand.1 stand.2

theorem node_of_ok {node : Node} (resumes : start.Resumes chain context)
    (top : chain.current? = some node) (continues : start.sink.policy.continues = true)
    (sound : ∀ labelled ∈ patterns, ∀ function ∈ labelled.pattern.functions, function.Sound)
    (succeeds : (collector patterns).node ⟨context, collected⟩ = (.ok (), after)) :
    start.Resumes chain after.context ∧
      after.state.toList = collected.toList ++ recordsOn start patterns (chain.standsOf node) := by
  dsimp only [collector] at succeeds
  rw [Visit.context_bind, resumes.chain_eq, top] at succeeds
  obtain ⟨_, between, ofNode, ofAttributes⟩ := Visit.ok_of_bind succeeds
  obtain ⟨resumed, recorded⟩ := attemptAll_of_ok resumes continues sound ofNode
  obtain ⟨resumesAfter, recordedAfter⟩ := attemptOnEach_of_ok resumed continues sound
    (fun _ listed => Node.positionKeys_of_mem_attributeNodes listed) ofAttributes
  refine ⟨resumesAfter, ?_⟩
  rw [recordedAfter, recorded, recordsOn, Chain.standsOf, List.flatMap_cons, List.flatMap_map,
    List.append_assoc]

/-- What a collector records along changes. -/
theorem follow_of_ok {changes : List Change} (resumes : start.Resumes chain context)
    (continues : start.sink.policy.continues = true)
    (sound : ∀ labelled ∈ patterns, ∀ function ∈ labelled.pattern.functions, function.Sound)
    (succeeds : (collector patterns).follow changes ⟨context, collected⟩ = (.ok (), after)) :
    after.state.toList = collected.toList ++
      recordsOn start patterns (chain.stands changes) := by
  induction changes generalizing context chain collected with
  | nil =>
    obtain rfl := (Prod.mk.inj succeeds).2
    exact (List.append_nil _).symm
  | cons change rest inductionHypothesis =>
    obtain ⟨_, between, delivered, others⟩ := Visit.ok_of_bind succeeds
    cases change with
    | enter node =>
      obtain ⟨resumed, recorded⟩ := node_of_ok (resumes.push node) (Chain.current?_push _ _)
        continues sound delivered
      rw [inductionHypothesis resumed others, recorded, List.append_assoc]
      exact congrArg _ List.flatMap_append.symm
    | leave =>
      obtain ⟨_, ended, rfl⟩ := ok_of_deliver_leave delivered
      obtain rfl := (Prod.mk.inj ended).2
      exact inductionHypothesis resumes.pop others

/-! ### One label -/

/-- Where labels are distinct, only one pattern has the label of a pattern. -/
theorem filter_label_eq (distinct : (patterns.map LabelledPattern.label).Nodup)
    {labelled : LabelledPattern} (listed : labelled ∈ patterns) :
    patterns.filter (fun other => other.label == labelled.label) = [labelled] := by
  induction patterns with
  | nil => cases listed
  | cons first rest inductionHypothesis =>
    obtain ⟨new, others⟩ := List.nodup_cons.mp distinct
    rcases List.mem_cons.mp listed with rfl | later
    · have none : rest.filter (fun other => other.label == labelled.label) = [] := by
        refine List.filter_eq_nil_iff.mpr fun other inRest same => new ?_
        exact beq_iff_eq.mp same ▸ List.mem_map_of_mem inRest
      rw [List.filter_cons, if_pos (beq_self_eq_true _), none]
    · have differs : first.label ≠ labelled.label :=
        fun same => new (same ▸ List.mem_map_of_mem later)
      rw [List.filter_cons_of_neg (by rwa [beq_iff_eq]), inductionHypothesis others later]

/-- What is recorded under a label is what its pattern records alone. -/
theorem filter_recordsOf (distinct : (patterns.map LabelledPattern.label).Nodup)
    {labelled : LabelledPattern} (listed : labelled ∈ patterns) (node : Node) :
    (recordsOf start patterns node chain).filter (fun entry => entry.label == labelled.label) =
      recordsOf start [labelled] node chain := by
  have ofLabel : ∀ other : LabelledPattern,
      (of? (start.onChain chain) node other).filter (fun entry => entry.label == labelled.label) =
        if other.label == labelled.label then of? (start.onChain chain) node other else none := by
    intro other
    cases recorded : of? (start.onChain chain) node other with
    | none => rw [Option.filter_none, ite_self]
    | some entry => rw [Option.filter_some, label_of_of? recorded]
  unfold recordsOf
  rw [List.filter_filterMap, ← filter_label_eq distinct listed, List.filterMap_filter]
  simp only [ofLabel]

/-- The records with one label are those that its pattern alone would give. -/
theorem filter_recordsOn (distinct : (patterns.map LabelledPattern.label).Nodup)
    {labelled : LabelledPattern} (listed : labelled ∈ patterns) (stands : List (Node × Chain)) :
    (recordsOn start patterns stands).filter (fun entry => entry.label == labelled.label) =
      recordsOn start [labelled] stands := by
  unfold recordsOn
  rw [List.filter_flatMap]
  simp only [filter_recordsOf distinct listed]

theorem stream_of_ok (continues : context.sink.policy.continues = true)
    (sound : ∀ labelled ∈ patterns, ∀ function ∈ labelled.pattern.functions, function.Sound)
    {options : WalkOptions} {serial : Nat} {text : String}
    (streamed : (collector patterns).stream options serial text ⟨context, #[]⟩ =
      (.ok (), after)) :
    after.state.toList = recordsOn context patterns (context.chain.stands
      ((Reading.ofText text.toList).walk options serial).changes) := by
  unfold Handler.stream at streamed
  rw [(collector_leavesChain patterns).keepsChain.drive_eq_run options serial
    (Reading.leavesOpen_ofText text.toList)] at streamed
  exact follow_of_ok context.resumes_self continues sound (ok_of_run streamed).2

end PatternMatch

/-- Collected patterns do not disturb each other. If a document is streamed through a collector of
patterns with distinct labels, then what is recorded under each label is what a collector of its
pattern alone records. The whole record goes through the nodes in the order in which they are
entered, each element with its attributes right behind it, and at each of them through the patterns
in the order of the collector; for each it says what the pattern gives there in the context at the
start. -/
theorem collector_stream {patterns : List LabelledPattern}
    (distinct : (patterns.map LabelledPattern.label).Nodup)
    (library : ∀ labelled ∈ patterns, ∀ function ∈ labelled.pattern.functions,
      function ∈ Library.functions)
    {context : Context} (continues : context.sink.policy.continues = true) {options : WalkOptions}
    {serial : Nat} {text : String} {after : Stage Matches}
    (streamed : (collector patterns).stream options serial text ⟨context, #[]⟩ = (.ok (), after)) :
    (∀ labelled ∈ patterns, ∀ alone,
      (collector [labelled]).stream options serial text ⟨context, #[]⟩ = (.ok (), alone) →
        after.state.ofLabel labelled.label = alone.state.ofLabel labelled.label) ∧
    after.state.toList = (context.chain.stands
        ((Reading.ofText text.toList).walk options serial).changes).flatMap
      fun stand => patterns.filterMap
        (PatternMatch.of? (context.onChain stand.2) stand.1) := by
  have sound : ∀ labelled ∈ patterns, ∀ function ∈ labelled.pattern.functions, function.Sound :=
    fun labelled listed function called =>
      Library.sound_of_mem_functions (library labelled listed function called)
  have whole := PatternMatch.stream_of_ok continues sound streamed
  refine ⟨fun labelled listed alone streamedAlone => ?_, whole⟩
  have soundAlone : ∀ other ∈ [labelled], ∀ function ∈ other.pattern.functions, function.Sound :=
    List.forall_mem_singleton.mpr (sound labelled listed)
  have wholeAlone := PatternMatch.stream_of_ok continues soundAlone streamedAlone
  have distinctAlone : ([labelled].map LabelledPattern.label).Nodup :=
    List.pairwise_singleton _ _
  unfold Matches.ofLabel
  rw [whole, wholeAlone, PatternMatch.filter_recordsOn distinct listed,
    PatternMatch.filter_recordsOn distinctAlone List.mem_cons_self]

theorem collector_stream_secondItem :
    let item : Tree := .test (.element (.named ⟨"", "item"⟩))
    let position := Library.contextual "position" 0 (some 0) Library.position
    let patterns : List LabelledPattern := [
      ⟨"second", .predicate item (.binary (.ofCall position []) .equal (.number 2))⟩,
      ⟨"item", item⟩,
      ⟨"attribute", .test (.attribute .any)⟩]
    let document := "<doc><item/><note/><item id='x'/></doc>"
    let after := ((collector patterns).stream {} 1 document ⟨{}, #[]⟩).2
    (after.state.toList.map fun entry => (entry.label, entry.position)) =
        [("item", 1), ("second", 2), ("item", 2), ("attribute", 1)] ∧
      ∀ labelled ∈ patterns, ∀ alone,
        (collector [labelled]).stream {} 1 document ⟨{}, #[]⟩ = (.ok (), alone) →
          after.state.ofLabel labelled.label = alone.state.ofLabel labelled.label := by
  intro item position patterns document after
  have ran : ((collector patterns).stream {} 1 document ⟨{}, #[]⟩).1 = .ok () :=
    ok_of_toOption (by decide +kernel)
  have listed : position ∈ Library.functions := by
    simp only [Library.functions, Library.conversions, List.mem_append, List.mem_cons, true_or,
      or_true, position]
  have library : ∀ labelled ∈ patterns, ∀ function ∈ labelled.pattern.functions,
      function ∈ Library.functions := by
    refine List.forall_mem_cons.mpr ⟨fun function called => ?_, List.forall_mem_cons.mpr
      ⟨List.forall_mem_nil _, List.forall_mem_singleton.mpr (List.forall_mem_nil _)⟩⟩
    obtain rfl := List.mem_singleton.mp called
    exact listed
  exact ⟨by decide +kernel,
    (collector_stream (by decide) library rfl (Prod.ext ran rfl)).1⟩

end StreamPath
