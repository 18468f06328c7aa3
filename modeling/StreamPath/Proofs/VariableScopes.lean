/-
How variables are found. A name is looked for in the innermost invocation of a group, then in that
of the group around it, and so on outwards, in a walk that nothing bounds. What bounds it is how
groups come about: a group is nested only in a group that has been declared before it, so the
numbers of the groups fall along the walk, and invocations and bindings change nothing about that.
Hence every walk ends, and it ends at the first group outwards whose innermost invocation binds the
name.
-/

import StreamPath.Context

namespace StreamPath

namespace GroupScopes

variable {scopes : GroupScopes} {name : ExpandedName}

/-! ### Histories of scopes -/

/-- The scopes that come about where groups are declared, each of them at the top or inside a group
that has been declared before, and where invocations begin and end and names are bound, in any
order. The declared groups are listed, the latest one first. -/
inductive Arises : GroupScopes → List GroupId → Prop where
  | start : Arises {} []
  | addGroup {scopes : GroupScopes} {declared : List GroupId} (before : Arises scopes declared)
      (name : Option String) {parent : Option GroupId}
      (known : ∀ outer, parent = some outer → outer ∈ declared) :
      Arises (scopes.addGroup name parent).2 ((scopes.addGroup name parent).1 :: declared)
  | pushFrame {scopes : GroupScopes} {declared : List GroupId} (before : Arises scopes declared)
      (id : GroupId) : Arises (scopes.pushFrame id) declared
  | popFrame {scopes : GroupScopes} {declared : List GroupId} (before : Arises scopes declared)
      (id : GroupId) : Arises (scopes.popFrame id).2 declared
  | bind {scopes : GroupScopes} {declared : List GroupId} (before : Arises scopes declared)
      (id : GroupId) (name : ExpandedName) (value : Value) :
        Arises (scopes.bind id name value) declared

/-! ### Groups outwards, and the walk through them -/

/-- The value that the innermost invocation of a group binds to a name. A group without an
invocation binds nothing. -/
def innermost? (scopes : GroupScopes) (name : ExpandedName) (id : GroupId) : Option Value :=
  (scopes.frames id).head?.bind fun frame => frame.get? name

/-- A group, the group that it is nested in, and so on to the outermost one. -/
inductive Outwards (scopes : GroupScopes) : GroupId → List GroupId → Prop where
  | outermost {id : GroupId} (top : scopes.parent id = none) : Outwards scopes id [id]
  | inside {id outer : GroupId} {rest : List GroupId} (nested : scopes.parent id = some outer)
      (more : Outwards scopes outer rest) : Outwards scopes id (id :: rest)

/-- What a group sees of a name: the value in the first group outwards that binds it, or nothing. -/
def Sees (scopes : GroupScopes) (name : ExpandedName) (id : GroupId)
    (found : Option Value) : Prop :=
  ∃ groups, scopes.Outwards id groups ∧ found = groups.findSome? (scopes.innermost? name)

/-- A walk outwards that ends with an answer. Each turn looks at one group: the walk ends where the
group is not there, binds the name or is the outermost one, and goes on at the parent everywhere
else. -/
inductive Ends (scopes : GroupScopes) (name : ExpandedName) : GroupId → Option GroupId → Prop where
  | missing {id : GroupId} (absent : scopes.group? id = none) : Ends scopes name id none
  | found {id : GroupId} {group : Group} (known : scopes.group? id = some group)
      (bound : binds group name = true) : Ends scopes name id (some id)
  | outermost {id : GroupId} {group : Group} (known : scopes.group? id = some group)
      (free : binds group name = false) (top : group.parent = none) : Ends scopes name id none
  | outwards {id outer : GroupId} {group : Group} {answer : Option GroupId}
      (known : scopes.group? id = some group) (free : binds group name = false)
      (nested : group.parent = some outer) (more : Ends scopes name outer answer) :
      Ends scopes name id answer

/-! ### Parents are older -/

/-- Whether each group is nested in a group with a smaller number, if it is nested at all. -/
def ParentsAreOlder (scopes : GroupScopes) : Prop :=
  ∀ id outer, scopes.parent id = some outer → outer.index < id.index

theorem parent_changeFrames (id other : GroupId) (change : List Bindings → List Bindings) :
    (scopes.changeFrames id change).parent other = scopes.parent other := by
  rw [parent, parent, group?_changeFrames]
  cases scopes.group? other with
  | none => rfl
  | some group =>
    rw [Option.map_some, Option.bind_some, Option.bind_some]
    split <;> rfl

theorem length_changeFrames (id : GroupId) (change : List Bindings → List Bindings) :
    (scopes.changeFrames id change).groups.length = scopes.groups.length :=
  List.length_modify _ _ _

theorem parent_addGroup (label : Option String) (parent : Option GroupId) (id : GroupId) :
    (scopes.addGroup label parent).2.parent id =
      if id.index = scopes.groups.length then parent else scopes.parent id := by
  show ((scopes.groups ++ [{ name := label, parent := parent }])[id.index]?).bind Group.parent = _
  rw [List.getElem?_append]
  by_cases last : id.index = scopes.groups.length
  · rw [if_pos last, last, if_neg (Nat.lt_irrefl _), Nat.sub_self]
    rfl
  · rw [if_neg last]
    by_cases old : id.index < scopes.groups.length
    · rw [if_pos old]
      rfl
    · have past : scopes.groups[id.index]? = none := List.getElem?_eq_none (by omega)
      rw [if_neg old, List.getElem?_eq_none (by rw [List.length_singleton]; omega)]
      show none = (scopes.groups[id.index]?).bind Group.parent
      rw [past]
      rfl

/-- The invariant of all histories: declared groups are in the arena, and parents are older. -/
theorem Arises.parentsAreOlder {declared : List GroupId} (arises : scopes.Arises declared) :
    (∀ id ∈ declared, id.index < scopes.groups.length) ∧ scopes.ParentsAreOlder := by
  induction arises with
  | start => exact ⟨nofun, nofun⟩
  | @addGroup scopes declared before label parent known inductionHypothesis =>
    obtain ⟨inside, older⟩ := inductionHypothesis
    have longer : (scopes.addGroup label parent).2.groups.length = scopes.groups.length + 1 :=
      List.length_append
    refine ⟨fun id member => ?_, fun id outer nested => ?_⟩
    · rw [longer]
      rcases List.mem_cons.mp member with rfl | earlier
      · exact Nat.lt_succ_self _
      · exact Nat.lt_succ_of_lt (inside id earlier)
    · rw [parent_addGroup] at nested
      by_cases last : id.index = scopes.groups.length
      · rw [if_pos last] at nested
        rw [last]
        exact inside outer (known outer nested)
      · rw [if_neg last] at nested
        exact older id outer nested
  | pushFrame before id inductionHypothesis | popFrame before id inductionHypothesis
  | bind before id label value inductionHypothesis =>
    refine ⟨fun other member => ?_, fun other outer nested => ?_⟩
    · exact (length_changeFrames _ _).symm ▸ inductionHypothesis.1 other member
    · exact inductionHypothesis.2 other outer ((parent_changeFrames _ _ _).symm.trans nested)

/-! ### Every walk ends -/

theorem binds_eq {id : GroupId} {group : Group} (known : scopes.group? id = some group) :
    binds group name = (scopes.innermost? name id).isSome := by
  rw [binds, innermost?, frames, known]
  show _ = (group.frames.head?.bind _).isSome
  cases group.frames.head? <;> rfl

theorem parent_of_group? {id : GroupId} {group : Group} (known : scopes.group? id = some group) :
    scopes.parent id = group.parent := by
  rw [parent, known]
  rfl

/-- A walk from one of the groups below a limit ends within that many turns. -/
theorem ends_declaringWithin (older : scopes.ParentsAreOlder) (limit : Nat) (id : GroupId)
    (below : id.index < limit ∨ scopes.group? id = none) :
    scopes.Ends name id (scopes.declaringWithin name limit id) := by
  induction limit generalizing id with
  | zero => exact .missing (below.resolve_left (Nat.not_lt_zero _))
  | succ limit inductionHypothesis =>
    rw [declaringWithin]
    cases known : scopes.group? id with
    | none => exact .missing known
    | some group =>
      cases bound : binds group name with
      | true =>
        simp only [bound, if_true]
        exact .found known bound
      | false =>
        simp only [bound, Bool.false_eq_true, if_false]
        cases nested : group.parent with
        | none => exact .outermost known bound nested
        | some outer =>
          have within : id.index < limit + 1 :=
            below.resolve_right fun absent => Option.some_ne_none group (known.symm.trans absent)
          have smaller := older id outer ((parent_of_group? known).trans nested)
          exact .outwards known bound nested (inductionHypothesis outer (.inl (by omega)))

theorem ends_declaringGroup (older : scopes.ParentsAreOlder) (id : GroupId) :
    scopes.Ends name id (scopes.declaringGroup id name) := by
  refine ends_declaringWithin older _ id ?_
  rcases Nat.lt_or_ge id.index scopes.groups.length with inside | past
  · exact .inl inside
  · exact .inr (List.getElem?_eq_none past)

/-- Also the groups outwards come to an end. -/
theorem exists_outwards (older : scopes.ParentsAreOlder) (id : GroupId) :
    ∃ groups, scopes.Outwards id groups := by
  induction smaller : id.index using Nat.strongRecOn generalizing id with
  | _ index inductionHypothesis =>
    cases nested : scopes.parent id with
    | none => exact ⟨[id], .outermost nested⟩
    | some outer =>
      obtain ⟨rest, more⟩ :=
        inductionHypothesis outer.index (smaller ▸ older id outer nested) outer rfl
      exact ⟨id :: rest, .inside nested more⟩

theorem Outwards.eq_singleton {id : GroupId} {groups : List GroupId}
    (outwards : scopes.Outwards id groups) (top : scopes.parent id = none) : groups = [id] := by
  cases outwards with
  | outermost => rfl
  | inside nested => cases top.symm.trans nested

theorem Outwards.exists_rest {id outer : GroupId} {groups : List GroupId}
    (outwards : scopes.Outwards id groups) (nested : scopes.parent id = some outer) :
    ∃ rest, groups = id :: rest ∧ scopes.Outwards outer rest := by
  cases outwards with
  | outermost top => cases top.symm.trans nested
  | inside again more =>
    obtain rfl := Option.some.inj (nested.symm.trans again)
    exact ⟨_, rfl, more⟩

theorem Outwards.unique {id : GroupId} {groups others : List GroupId}
    (one : scopes.Outwards id groups) (other : scopes.Outwards id others) : groups = others := by
  induction one generalizing others with
  | outermost top => exact (other.eq_singleton top).symm
  | inside nested more inductionHypothesis =>
    obtain ⟨rest, rfl, others⟩ := other.exists_rest nested
    rw [inductionHypothesis others]

/-- A walk ends at the first group outwards that binds the name. -/
theorem Ends.eq_find? {id : GroupId} {answer : Option GroupId} {groups : List GroupId}
    (ends : scopes.Ends name id answer) (outwards : scopes.Outwards id groups) :
    answer = groups.find? fun group => (scopes.innermost? name group).isSome := by
  induction ends generalizing groups with
  | @missing id absent =>
    have top : scopes.parent id = none := by rw [parent, absent, Option.bind_none]
    have free : scopes.innermost? name id = none := by
      rw [innermost?, frames, absent]
      rfl
    rw [outwards.eq_singleton top, List.find?_cons_of_neg (by simp [free]), List.find?_nil]
  | @found id group known bound =>
    rw [binds_eq known] at bound
    cases outwards <;> simp [bound]
  | outermost known free top =>
    rw [binds_eq known] at free
    rw [outwards.eq_singleton ((parent_of_group? known).trans top),
      List.find?_cons_of_neg (by simp [free]), List.find?_nil]
  | outwards known free nested more inductionHypothesis =>
    rw [binds_eq known] at free
    obtain ⟨rest, rfl, others⟩ := outwards.exists_rest ((parent_of_group? known).trans nested)
    rw [List.find?_cons_of_neg (by simp [free])]
    exact inductionHypothesis others

/-- The value that a group sees is the one in the group at which the walk ends. -/
theorem Ends.sees {id : GroupId} {answer : Option GroupId} {groups : List GroupId}
    (ends : scopes.Ends name id answer) (outwards : scopes.Outwards id groups) :
    (answer.bind (scopes.innermost? name)) = groups.findSome? (scopes.innermost? name) := by
  rw [ends.eq_find? outwards]
  clear outwards ends
  induction groups with
  | nil => rfl
  | cons group rest inductionHypothesis =>
    rw [List.findSome?_cons]
    cases here : scopes.innermost? name group with
    | some value => rw [List.find?_cons, here, Option.isSome_some, Option.bind_some, here]
    | none => rw [List.find?_cons, here, Option.isSome_none, inductionHypothesis]

theorem lookup_eq (id : GroupId) :
    scopes.lookup id name = (scopes.declaringGroup id name).bind (scopes.innermost? name) := rfl

/-- Exactly what is looked up is seen. -/
theorem sees_iff (older : scopes.ParentsAreOlder) {id : GroupId} {found : Option Value} :
    scopes.Sees name id found ↔ scopes.lookup id name = found := by
  obtain ⟨groups, outwards⟩ := exists_outwards older id
  rw [lookup_eq, (ends_declaringGroup older id).sees outwards]
  constructor
  · rintro ⟨others, again, rfl⟩
    rw [outwards.unique again]
  · intro same
    exact ⟨groups, outwards, same.symm⟩

/-- Exactly the group that is answered with is the end of a walk. -/
theorem ends_iff (older : scopes.ParentsAreOlder) {id : GroupId} {answer : Option GroupId} :
    scopes.Ends name id answer ↔ scopes.declaringGroup id name = answer := by
  constructor
  · intro ends
    obtain ⟨groups, outwards⟩ := exists_outwards older id
    rw [(ends_declaringGroup older id).eq_find? outwards, ends.eq_find? outwards]
  · rintro rfl
    exact ends_declaringGroup older id

/-- In scopes that come about group by group every walk outwards ends, and it ends where the
declaring group is said to be; what is looked up in a group is what the group sees. A reference sees
a local variable first, then what the group sees in which it stands, and the current group only
where it stands in no group at all. -/
theorem lookup_of_arises {scopes : GroupScopes} {declared : List GroupId}
    (arises : scopes.Arises declared) (name : ExpandedName) :
    (∀ id answer, scopes.Ends name id answer ↔ scopes.declaringGroup id name = answer) ∧
      (∀ id found, scopes.Sees name id found ↔ scopes.lookup id name = found) ∧
      ∀ context : Context, context.groups = scopes →
        (∀ lexical value, context.locals.get? name = some value →
          context.valueOf? name lexical = some value) ∧
        (context.locals.get? name = none →
          (∀ id, scopes.Sees name id (context.valueOf? name (some id))) ∧
          (∀ id, context.currentGroup = some id →
            scopes.Sees name id (context.valueOf? name none)) ∧
          (context.currentGroup = none → context.valueOf? name none = none)) := by
  have older := arises.parentsAreOlder.2
  refine ⟨fun _ _ => ends_iff older, fun _ _ => sees_iff older, ?_⟩
  rintro context rfl
  refine ⟨fun lexical value bound => ?_, fun free => ⟨fun id => ?_, fun id current => ?_, ?_⟩⟩
  · rw [Context.valueOf?, bound]
  · rw [sees_iff older, Context.valueOf?, free]
    rfl
  · rw [sees_iff older, Context.valueOf?, free, current]
    rfl
  · intro current
    rw [Context.valueOf?, free, current]
    rfl

/-- A group inside a second one inside a third one. The group in the middle has no invocation, and
the innermost group has two, of which the first one binds the name and the second one does not. -/
theorem lookup_of_arises_outermost :
    let name := ExpandedName.unqualified "x"
    let three := (((({} : GroupScopes).addGroup none none).2.addGroup none (some ⟨0⟩)).2.addGroup
      (some "inner") (some ⟨1⟩)).2
    let bound := (three.bind ⟨0⟩ name (.ofString "outer")).bind ⟨2⟩ name (.ofString "inner")
    let scopes := bound.pushFrame ⟨2⟩
    scopes.Arises [⟨2⟩, ⟨1⟩, ⟨0⟩] ∧ scopes.Ends name ⟨2⟩ (some ⟨0⟩) ∧
      scopes.Sees name ⟨2⟩ (some (.ofString "outer")) ∧
      ({ groups := scopes, currentGroup := some ⟨2⟩ } : Context).valueOf? name none =
        some (.ofString "outer") := by
  intro name three bound scopes
  have arises : scopes.Arises [⟨2⟩, ⟨1⟩, ⟨0⟩] :=
    .pushFrame (.bind (.bind (.addGroup (.addGroup (.addGroup .start none (by rintro _ ⟨⟩)) none
      (by rintro _ ⟨⟩; decide)) (some "inner") (by rintro _ ⟨⟩; decide)) _ _ _) _ _ _) _
  obtain ⟨walks, sees, resolves⟩ := lookup_of_arises arises name
  refine ⟨arises, (walks _ _).mpr ?_, (sees _ _).mpr ?_, ?_⟩
  · decide +kernel
  · rfl
  · have current := ((resolves { groups := scopes, currentGroup := some ⟨2⟩ } rfl).2 rfl).2.1 _ rfl
    exact ((sees _ _).mp current).symm

end GroupScopes

end StreamPath
