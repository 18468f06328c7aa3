/-
Invocations of groups nest. Each invocation has a frame of its own, and a name is bound in the
innermost one. Between the start of an invocation and its end much can happen: groups are declared,
other groups are invoked, and the group itself is invoked again, from within its own invocation. As
long as the invocations of the group that begin in between also end in between, the frame is
innermost again when its invocation ends, the frames outside it are as they were, and it holds what
was bound while it was innermost and nothing else.
-/

import Mathlib.Data.Nat.PSub
import StreamPath.Context

namespace StreamPath

namespace GroupScopes

/-! ### Operations on scopes -/

/-- What can be done to scopes. -/
inductive Operation where
  | addGroup (name : Option String) (parent : Option GroupId)
  | pushFrame (id : GroupId)
  | popFrame (id : GroupId)
  | bind (id : GroupId) (name : ExpandedName) (value : Value)

/-- The scopes after an operation. -/
def perform (scopes : GroupScopes) : Operation → GroupScopes
  | .addGroup name parent => (scopes.addGroup name parent).2
  | .pushFrame id => scopes.pushFrame id
  | .popFrame id => (scopes.popFrame id).2
  | .bind id name value => scopes.bind id name value

/-- The scopes after operations, one after the other. -/
def performAll (scopes : GroupScopes) (operations : List Operation) : GroupScopes :=
  operations.foldl perform scopes

namespace Operation

/-- How many of the invocations of a group that have begun since some moment go on after an
operation, given how many did before it. An operation that ends an earlier invocation has no answer.
-/
def levelAfter? (id : GroupId) (level : Nat) : Operation → Option Nat
  | pushFrame other => if other = id then some (level + 1) else some level
  | popFrame other => if other = id then level.ppred else some level
  | addGroup _ _ | bind _ _ _ => some level

/-- The binding that an operation makes in a group. -/
def bindingIn? (id : GroupId) : Operation → Option (ExpandedName × Value)
  | bind other name value => if other = id then some (name, value) else none
  | addGroup _ _ | pushFrame _ | popFrame _ => none

end Operation

/-- Whether all invocations of a group that begin among operations end among them, and no others. -/
def Balanced (id : GroupId) (operations : List Operation) : Prop :=
  operations.foldlM (Operation.levelAfter? id) 0 = some 0

instance (id : GroupId) (operations : List Operation) : Decidable (Balanced id operations) :=
  inferInstanceAs (Decidable (_ = _))

/-- The bindings that operations make in a group while no invocation goes on that has begun since
some moment, given how many do at the start. -/
def ownBindings (id : GroupId) : Nat → List Operation → List (ExpandedName × Value)
  | _, [] => []
  | level, operation :: rest =>
    match operation.levelAfter? id level with
    | none => []
    | some next =>
      (if level = 0 then (operation.bindingIn? id).toList else []) ++ ownBindings id next rest

/-- The value of a name in the last one of several bindings for it. -/
def lastValue? (name : ExpandedName) (bindings : List (ExpandedName × Value)) : Option Value :=
  (bindings.reverse.find? fun binding => binding.1 == name).map Prod.snd

/-! ### One operation -/

variable {scopes : GroupScopes} {id : GroupId} {level : Nat} {own : Bindings}
  {outer : List Bindings}

theorem exists_group?_of_frames (stands : scopes.frames id ≠ []) :
    ∃ group, scopes.group? id = some group := by
  cases found : scopes.group? id with
  | some group => exact ⟨group, rfl⟩
  | none =>
    rw [frames, found] at stands
    exact absurd rfl stands

theorem group?_addGroup {group : Group} (known : scopes.group? id = some group)
    (name : Option String) (parent : Option GroupId) :
    (scopes.addGroup name parent).2.group? id = some group := by
  have inside : id.index < scopes.groups.length := (List.getElem?_eq_some_iff.mp known).1
  show (scopes.groups ++ [_])[id.index]? = some group
  rw [List.getElem?_append_left inside]
  exact known

/-- Whether a frame with bindings is one of a group: some number of frames stand further in, and the
given ones further out. -/
def HoldsFrame (scopes : GroupScopes) (id : GroupId) (level : Nat) (own : Bindings)
    (outer : List Bindings) : Prop :=
  ∃ inner : List Bindings, inner.length = level ∧ scopes.frames id = inner ++ own :: outer

theorem HoldsFrame.exists_group? (holds : scopes.HoldsFrame id level own outer) :
    ∃ group, scopes.group? id = some group := by
  obtain ⟨inner, -, stands⟩ := holds
  refine exists_group?_of_frames fun none => ?_
  rw [stands] at none
  exact List.append_ne_nil_of_right_ne_nil inner (List.cons_ne_nil own outer) none

/-- A change of the frames of the group itself. -/
theorem HoldsFrame.changeFrames (holds : scopes.HoldsFrame id level own outer)
    {change : List Bindings → List Bindings} {next : Nat} {after : Bindings}
    (changes : ∀ inner : List Bindings, inner.length = level → ∃ inner' : List Bindings,
      inner'.length = next ∧ change (inner ++ own :: outer) = inner' ++ after :: outer) :
    (scopes.changeFrames id change).HoldsFrame id next after outer := by
  obtain ⟨group, known⟩ := holds.exists_group?
  obtain ⟨inner, length, stands⟩ := holds
  obtain ⟨inner', length', changed⟩ := changes inner length
  exact ⟨inner', length', by rw [frames_changeFrames_self scopes known, stands, changed]⟩

/-- What happens in another group changes no frame of this one. -/
theorem HoldsFrame.changeFrames_other (holds : scopes.HoldsFrame id level own outer)
    {other : GroupId} (apart : other ≠ id) (change : List Bindings → List Bindings) :
    (scopes.changeFrames other change).HoldsFrame id level own outer := by
  obtain ⟨inner, length, stands⟩ := holds
  exact ⟨inner, length, (frames_changeFrames_other scopes apart change).trans stands⟩

theorem HoldsFrame.addGroup (holds : scopes.HoldsFrame id level own outer) (name : Option String)
    (parent : Option GroupId) :
    (scopes.addGroup name parent).2.HoldsFrame id level own outer := by
  obtain ⟨group, known⟩ := holds.exists_group?
  obtain ⟨inner, length, stands⟩ := holds
  refine ⟨inner, length, ?_⟩
  rw [← stands, frames, frames, known, group?_addGroup known]

/-- The bindings of a frame with more bindings, of which the last one for a name counts. -/
def bindAll (own : Bindings) (bindings : List (ExpandedName × Value)) : Bindings :=
  bindings.foldl (fun own binding => own.insert binding.1 binding.2) own

/-- An operation that does not end the invocation of a frame leaves the frames outside it alone, and
binds in it only while it is innermost. The innermost frame is the given one unless the group was
invoked again in between. -/
theorem HoldsFrame.perform (holds : scopes.HoldsFrame id level own outer) {operation : Operation}
    {next : Nat} (goesOn : operation.levelAfter? id level = some next) :
    (scopes.perform operation).HoldsFrame id next
      (bindAll own (if level = 0 then (operation.bindingIn? id).toList else [])) outer := by
  cases operation with
  | addGroup name parent =>
    obtain rfl := Option.some.inj goesOn
    rw [Operation.bindingIn?, Option.toList_none, ite_self]
    exact holds.addGroup name parent
  | pushFrame other =>
    rw [Operation.bindingIn?, Option.toList_none, ite_self]
    rw [Operation.levelAfter?] at goesOn
    split at goesOn
    · next same =>
      subst same
      obtain rfl := Option.some.inj goesOn
      exact holds.changeFrames fun inner length =>
        ⟨Table.empty :: inner, congrArg Nat.succ length, rfl⟩
    · next apart =>
      obtain rfl := Option.some.inj goesOn
      exact holds.changeFrames_other apart _
  | popFrame other =>
    rw [Operation.bindingIn?, Option.toList_none, ite_self]
    rw [Operation.levelAfter?] at goesOn
    split at goesOn
    · next same =>
      subst same
      cases level with
      | zero => cases goesOn
      | succ lower =>
        obtain rfl := Option.some.inj goesOn
        refine holds.changeFrames fun inner length => ?_
        obtain ⟨first, rest, rfl⟩ := List.exists_cons_of_length_eq_add_one length
        exact ⟨rest, Nat.succ.inj length, rfl⟩
    · next apart =>
      obtain rfl := Option.some.inj goesOn
      exact holds.changeFrames_other apart _
  | bind other name value =>
    obtain rfl := Option.some.inj goesOn
    by_cases same : other = id
    · subst same
      rw [Operation.bindingIn?, if_pos rfl, Option.toList_some]
      refine holds.changeFrames fun inner length => ?_
      cases inner with
      | nil =>
        obtain rfl := length
        exact ⟨[], rfl, rfl⟩
      | cons first rest =>
        obtain rfl := length
        exact ⟨first.insert name value :: rest, rfl, rfl⟩
    · rw [Operation.bindingIn?, if_neg same, Option.toList_none, ite_self]
      exact holds.changeFrames_other same _

/-! ### A run of operations -/

theorem HoldsFrame.performAll {operations : List Operation} {last : Nat}
    (holds : scopes.HoldsFrame id level own outer)
    (goesOn : operations.foldlM (Operation.levelAfter? id) level = some last) :
    (scopes.performAll operations).HoldsFrame id last
      (bindAll own (ownBindings id level operations)) outer := by
  induction operations generalizing scopes level own with
  | nil =>
    obtain rfl := Option.some.inj goesOn
    exact holds
  | cons operation rest inductionHypothesis =>
    obtain ⟨next, first, more⟩ := Option.bind_eq_some_iff.mp goesOn
    have went := inductionHypothesis (holds.perform first) more
    rw [bindAll, bindAll, ← List.foldl_append] at went
    rw [ownBindings, first]
    exact went

theorem get?_bindAll (own : Bindings) (bindings : List (ExpandedName × Value))
    (name : ExpandedName) :
    (bindAll own bindings).get? name = (lastValue? name bindings).or (own.get? name) := by
  induction bindings generalizing own with
  | nil => rfl
  | cons binding rest inductionHypothesis =>
    obtain ⟨first, value⟩ := binding
    show (bindAll (own.insert first value) rest).get? name = _
    rw [inductionHypothesis, Table.get?_insert, lastValue?, lastValue?, List.reverse_cons,
      List.find?_append, Option.map_or, Option.or_assoc]
    by_cases same : first = name <;> simp [same]

/-- Invocations nest. Whatever is done between the start of an invocation of a group and its end, if
the invocations of the group that begin in between end in between, then at the end the frames of the
group are those from before the start, and what the invocation has bound is the last value that each
name was given while the frame of this invocation was innermost. -/
theorem popFrame_of_balanced {group : Group} (known : scopes.group? id = some group)
    {between : List Operation} (balanced : Balanced id between) :
    let ended := ((scopes.pushFrame id).performAll between).popFrame id
    ended.2.frames id = scopes.frames id ∧
      ∃ bindings, ended.1 = some bindings ∧
        ∀ name, bindings.get? name = lastValue? name (ownBindings id 0 between) := by
  have begins : (scopes.pushFrame id).HoldsFrame id 0 Table.empty (scopes.frames id) :=
    ⟨[], rfl, frames_changeFrames_self scopes known _⟩
  have ends := begins.performAll balanced
  obtain ⟨last, there⟩ := ends.exists_group?
  obtain ⟨inner, none, stands⟩ := ends
  obtain rfl := List.eq_nil_of_length_eq_zero none
  refine ⟨?_, _, congrArg List.head? stands, fun name => ?_⟩
  · show (changeFrames _ id List.tail).frames id = _
    rw [frames_changeFrames_self _ there, stands]
    rfl
  · rw [get?_bindAll, Table.get?_empty, Option.or_none]

/-- A group that is invoked from within its own invocation, while another group is declared, bound
and invoked. The inner invocation binds the name, and the outer one binds it afterwards. -/
theorem popFrame_of_balanced_recursive :
    let name := ExpandedName.unqualified "x"
    let scopes := ((({} : GroupScopes).addGroup none none).2).bind ⟨0⟩ name (.ofString "before")
    let between : List Operation :=
      [.bind ⟨0⟩ name (.ofString "first"), .addGroup none (some ⟨0⟩), .pushFrame ⟨0⟩,
        .bind ⟨0⟩ name (.ofString "inner"), .pushFrame ⟨1⟩, .popFrame ⟨0⟩,
        .bind ⟨1⟩ name (.ofString "other"), .bind ⟨0⟩ name (.ofString "last")]
    (∃ group, scopes.group? ⟨0⟩ = some group) ∧ Balanced ⟨0⟩ between ∧
      let ended := ((scopes.pushFrame ⟨0⟩).performAll between).popFrame ⟨0⟩
      ended.2.frames ⟨0⟩ = scopes.frames ⟨0⟩ ∧
        ∃ bindings, ended.1 = some bindings ∧ bindings.get? name = some (.ofString "last") := by
  intro name scopes between
  have balanced : Balanced ⟨0⟩ between := by decide
  obtain ⟨same, bindings, popped, found⟩ :=
    popFrame_of_balanced (show scopes.group? ⟨0⟩ = some _ from rfl) balanced
  exact ⟨⟨_, rfl⟩, balanced, same, bindings, popped, found name⟩

end GroupScopes

end StreamPath
