/-
What a tag says of namespaces. Among its attributes some declare a prefix, and of several for the
same prefix the last one counts; the others are attributes of the element. The names in a tag are
resolved by what is bound in it, which is what it declares itself and otherwise what is bound around
it, wherever in the tag the declarations stand.

An element is read from its tag attribute by attribute, with a table that is extended on the way.
Here the tag is taken as a whole: its attributes as a list, what is bound as a function of prefixes,
and the namespace of a name as a relation.
-/

import Mathlib.Data.List.Forall2
import StreamPath.Proofs.Yields
import StreamPath.Stream.Element

namespace StreamPath

/-! ### The attributes of a tag -/

/-- The name of an attribute and its value with references replaced, if they stand for something. -/
def WrittenAttribute.unescaped? (entry : WrittenAttribute) : Option (String × String) :=
  (Reference.unescape entry.value).toOption.map fun value =>
    (String.ofList entry.name, String.ofList value)

namespace Markup

/-- The attributes of a tag with their values, those included that declare prefixes. -/
def attributes (body : List Char) : List (String × String) :=
  (AttributeReading.read (tagAttributes body)).entries.filterMap WrittenAttribute.unescaped?

/-- Whether the attributes of a tag have no fault, neither in their syntax nor in a reference. -/
structure AttributesAreSound (body : List Char) : Prop where
  syntactic : (AttributeReading.read (tagAttributes body)).fault = none
  unescaped : ∀ entry ∈ (AttributeReading.read (tagAttributes body)).entries,
    entry.unescaped?.isSome = true

/-- Whether an attribute declares a prefix. The empty prefix is declared without a colon, too. -/
def declares (front name : String) : Bool :=
  name == "xmlns:" ++ front || (front == "" && name == "xmlns")

/-- Whether an attribute declares some prefix. -/
def isDeclaration (name : String) : Bool :=
  name == "xmlns" || Text.startsWith name.toList "xmlns:".toList

/-- What a prefix is declared as among attributes: the last declaration counts. -/
def declared? (front : String) (entries : List (String × String)) : Option String :=
  (entries.reverse.find? fun entry => declares front entry.1).map Prod.snd

/-- What a prefix is bound to in tags one inside the other, the innermost first: what the first of
them declares it as that declares it at all. -/
def boundIn (tags : List (List Char)) (front : String) : Option String :=
  tags.findSome? fun body => declared? front (attributes body)

/-- The attributes of a tag that declare nothing. -/
def ordinary (body : List Char) : List (String × String) :=
  (attributes body).filter fun entry => !isDeclaration entry.1

/-- The names in a tag that are resolved: that of the element, and those of its attributes that
declare nothing. -/
def names (body : List Char) : List String :=
  String.ofList (tagName body) :: (ordinary body).map Prod.fst

end Markup

/-! ### The namespaces of names -/

/-- The namespace of a name where some prefixes are bound, and names without a prefix have one of
their own. The prefix `xml` needs no binding, and a binding to the empty text is none. -/
inductive IsUriOf (bound : String → Option String) (unprefixed name : String) : String → Prop
  | unprefixed (plain : (splitQName name).1 = none) : IsUriOf bound unprefixed name unprefixed
  | xml (reserved : (splitQName name).1 = some "xml") : IsUriOf bound unprefixed name xmlNamespace
  | bound {front uri : String} (prefixed : (splitQName name).1 = some front) (other : front ≠ "xml")
      (binds : bound front = some uri) (nonempty : uri ≠ "") : IsUriOf bound unprefixed name uri

/-- Whether a name has a prefix that is not bound. -/
def LacksPrefix (bound : String → Option String) (name front : String) : Prop :=
  (splitQName name).1 = some front ∧ front ≠ "xml" ∧ (bound front = none ∨ bound front = some "")

/-- Whether a node is the element of a tag, where some prefixes are bound in the tag. -/
structure Node.IsElementOf (node : Node) (bound : String → Option String) (body : List Char) :
    Prop where
  kind : node.kind = .element
  name : node.qualifiedName = String.ofList (Markup.tagName body)
  namespaces : ∀ front, node.namespaces.get? front = bound front
  uri : IsUriOf bound ((bound "").getD "") node.qualifiedName node.uri
  attributes : List.Forall₂ (fun entry made =>
    made.qualifiedName = entry.1 ∧ made.value = entry.2 ∧ IsUriOf bound "" entry.1 made.uri)
      (Markup.ordinary body) node.attributes

/-! ### Declarations -/

namespace Markup

theorem declared?_cons (front : String) (entry : String × String) (rest : List (String × String)) :
    declared? front (entry :: rest) =
      (declared? front rest).or (if declares front entry.1 then some entry.2 else none) := by
  unfold declared?
  rw [List.reverse_cons, List.find?_append, Option.map_or, List.find?_singleton]
  split <;> rfl

theorem boundIn_cons (body : List Char) (tags : List (List Char)) (front : String) :
    boundIn (body :: tags) front = (declared? front (attributes body)).or (boundIn tags front) := by
  unfold boundIn
  rw [List.findSome?_cons]
  cases declared? front (attributes body) <;> rfl

theorem declares_iff {front name : String} :
    declares front name = true ↔
      name.toList = "xmlns:".toList ++ front.toList ∨ front = "" ∧ name = "xmlns" := by
  rw [declares, Bool.or_eq_true, Bool.and_eq_true, beq_iff_eq, beq_iff_eq, beq_iff_eq,
    ← String.toList_inj, String.toList_append]

theorem declares_iff_declaredPrefix? {name : List Char} {front : String} :
    declares front (String.ofList name) = true ↔ declaredPrefix? name = some front.toList := by
  rw [declares_iff, String.toList_ofList, declaredPrefix?]
  by_cases plain : name = "xmlns".toList
  · rw [if_pos plain, plain, String.ofList_toList]
    constructor
    · rintro (longer | ⟨rfl, -⟩)
      · cases longer
      · rfl
    · intro same
      exact .inr ⟨String.toList_inj.mp (Option.some.inj same).symm, rfl⟩
  · rw [if_neg plain, Text.afterFront_eq_some_iff]
    refine or_iff_left fun also => plain ?_
    rw [← also.2, String.toList_ofList]

theorem isDeclaration_ofList (name : List Char) :
    isDeclaration (String.ofList name) = (declaredPrefix? name).isSome := by
  rw [isDeclaration, String.toList_ofList, declaredPrefix?]
  by_cases plain : name = "xmlns".toList
  · rw [plain]
    rfl
  · rw [if_neg plain, beq_eq_false_iff_ne.mpr, Bool.false_or]
    · rfl
    · exact fun same => plain (by rw [← same, String.toList_ofList])

end Markup

/-! ### Reading a tag -/

namespace TagContent

/-- An attribute declares a prefix in place of any earlier declaration, or is kept as it is. -/
theorem get?_scope_add (content : TagContent) (name value : List Char) (front : String) :
    (content.add name value).scope.get? front =
      (if Markup.declares front (String.ofList name) then some (String.ofList value) else none).or
        (content.scope.get? front) := by
  unfold add
  cases declared : declaredPrefix? name with
  | none =>
    rw [if_neg fun declares => ?_]
    · rfl
    · rw [Markup.declares_iff_declaredPrefix?, declared] at declares
      cases declares
  | some other =>
    have same : Markup.declares front (String.ofList name) = true ↔
        String.ofList other = front := by
      rw [Markup.declares_iff_declaredPrefix?, declared, Option.some.injEq]
      exact ⟨fun same => same ▸ String.ofList_toList, fun same => same ▸ String.toList_ofList.symm⟩
    rw [Table.get?_insert]
    by_cases here : String.ofList other = front
    · rw [if_pos here, if_pos (same.mpr here), Option.some_or]
    · rw [if_neg here, if_neg fun declares => here (same.mp declares), Option.none_or]

theorem attributes_add (content : TagContent) (name value : List Char) :
    (content.add name value).attributes = content.attributes ++
      [(String.ofList name, String.ofList value)].filter fun entry =>
        !Markup.isDeclaration entry.1 := by
  unfold add
  rw [List.filter_singleton, Markup.isDeclaration_ofList]
  cases declaredPrefix? name with
  | none => rfl
  | some front => exact (List.append_nil _).symm

/-- What has been read after some attributes: they extend what was bound, and those that declare
nothing come one after the other. -/
structure Extends (content : TagContent) (entries : List (String × String)) (final : TagContent) :
    Prop where
  scope : ∀ front, final.scope.get? front =
    (Markup.declared? front entries).or (content.scope.get? front)
  attributes : final.attributes = content.attributes ++
    entries.filter fun entry => !Markup.isDeclaration entry.1

theorem Extends.cons {content final : TagContent} {name value : List Char}
    {rest : List (String × String)} (behind : (content.add name value).Extends rest final) :
    content.Extends ((String.ofList name, String.ofList value) :: rest) final where
  scope front := by
    rw [behind.scope, get?_scope_add, Markup.declared?_cons, Option.or_assoc]
  attributes := by
    rw [behind.attributes, attributes_add, List.append_assoc, ← List.filter_append]
    rfl

/-- If attributes are read to their end, then each of their values is. -/
theorem addAll_ok {content final : TagContent} {entries : List WrittenAttribute}
    (reads : content.addAll entries = .ok final) :
    (∀ entry ∈ entries, entry.unescaped?.isSome = true) ∧
      content.Extends (entries.filterMap WrittenAttribute.unescaped?) final := by
  induction entries generalizing content with
  | nil =>
    obtain rfl := Except.ok.inj reads
    exact ⟨nofun, fun front => rfl, (List.append_nil _).symm⟩
  | cons entry rest inductionHypothesis =>
    unfold addAll at reads
    split at reads
    · cases reads
    · next value unescaped =>
      obtain ⟨others, extended⟩ := inductionHypothesis reads
      have first : entry.unescaped? = some (String.ofList entry.name, String.ofList value) := by
        rw [WrittenAttribute.unescaped?, unescaped]
        rfl
      refine ⟨List.forall_mem_cons.mpr ⟨?_, others⟩, ?_⟩
      · rw [first]
        rfl
      · rw [List.filterMap_cons_some first]
        exact extended.cons

/-- Nothing but a reference in a value can stop the reading. -/
theorem exists_addAll {entries : List WrittenAttribute}
    (unescaped : ∀ entry ∈ entries, entry.unescaped?.isSome = true) (content : TagContent) :
    ∃ final, content.addAll entries = .ok final := by
  induction entries generalizing content with
  | nil => exact ⟨content, rfl⟩
  | cons entry rest inductionHypothesis =>
    obtain ⟨first, others⟩ := List.forall_mem_cons.mp unescaped
    unfold addAll
    split
    · next fault failed =>
      rw [WrittenAttribute.unescaped?, failed] at first
      cases first
    · exact inductionHypothesis others _

theorem read_ok {scope : Namespaces} {body : List Char} {content : TagContent}
    (reads : read scope body = .ok content) :
    Markup.AttributesAreSound body ∧
      Extends { scope := scope } (Markup.attributes body) content := by
  obtain ⟨whole, added, ended⟩ := ok_bind_iff.mp reads
  obtain ⟨unescaped, extended⟩ := addAll_ok added
  split at ended
  · cases ended
  · next sound =>
    obtain rfl := Except.ok.inj ended
    exact ⟨⟨sound, unescaped⟩, extended⟩

theorem exists_read {body : List Char} (sound : Markup.AttributesAreSound body)
    (scope : Namespaces) :
    ∃ content, read scope body = .ok content := by
  obtain ⟨content, added⟩ := exists_addAll sound.unescaped { scope := scope }
  refine ⟨content, ok_bind_iff.mpr ⟨content, added, ?_⟩⟩
  rw [sound.syntactic]
  rfl

end TagContent

/-! ### Resolving names -/

/-- A prefix of a name that has a namespace is bound. -/
theorem IsUriOf.not_lacksPrefix {bound : String → Option String} {unprefixed name uri : String}
    (isUri : IsUriOf bound unprefixed name uri) (front : String) :
    ¬LacksPrefix bound name front := by
  rintro ⟨has, other, unbound⟩
  cases isUri with
  | unprefixed plain => cases plain.symm.trans has
  | xml reserved => exact other (Option.some.inj (reserved.symm.trans has)).symm
  | bound prefixed _ binds nonempty =>
    obtain rfl := Option.some.inj (prefixed.symm.trans has)
    rcases unbound with none | empty
    · cases none.symm.trans binds
    · exact nonempty (Option.some.inj (binds.symm.trans empty))

section Resolving

variable {scope : Namespaces} {bound : String → Option String}

/-- A name is resolved to its namespace, or its prefix is not bound. -/
theorem Namespaces.resolve_ok_or_error (same : ∀ front, scope.get? front = bound front)
    (position : Nat) (unprefixed name : String) :
    (∃ uri, scope.resolve position unprefixed name = .ok uri ∧ IsUriOf bound unprefixed name uri) ∨
      ∃ front, scope.resolve position unprefixed name = .error (.undeclaredPrefix front position) ∧
        LacksPrefix bound name front := by
  unfold resolve
  cases split : (splitQName name).1 with
  | none => exact .inl ⟨unprefixed, rfl, .unprefixed split⟩
  | some front =>
    by_cases reserved : front = "xml"
    · subst reserved
      exact .inl ⟨xmlNamespace, rfl, .xml split⟩
    · dsimp only
      rw [ofPrefix?, if_neg reserved, same]
      cases binds : bound front with
      | none => exact .inr ⟨front, rfl, split, reserved, .inl binds⟩
      | some uri =>
        by_cases empty : uri = ""
        · subst empty
          exact .inr ⟨front, rfl, split, reserved, .inr binds⟩
        · refine .inl ⟨uri, ?_, .bound split reserved binds empty⟩
          rw [Option.filter_some, if_pos]
          rw [Bool.not_eq_true', String.isEmpty_eq_false_iff]
          exact empty

/-- An attribute that declares nothing, with the namespace of its name. -/
def Namespaces.attributeOf (scope : Namespaces) (position : Nat) (entry : String × String) :
    Except StreamError Attribute := do
  let uri ← scope.resolve position "" entry.1
  return { uri, qualifiedName := entry.1, value := entry.2 }

theorem Namespaces.attributeOf_ok_or_error (same : ∀ front, scope.get? front = bound front)
    (position : Nat) (entry : String × String) :
    (∃ made, scope.attributeOf position entry = .ok made ∧
        made.qualifiedName = entry.1 ∧ made.value = entry.2 ∧ IsUriOf bound "" entry.1 made.uri) ∨
      ∃ error, scope.attributeOf position entry = .error error ∧
        ∃ front, error = .undeclaredPrefix front position ∧ LacksPrefix bound entry.1 front := by
  unfold attributeOf
  rcases resolve_ok_or_error same position "" entry.1 with
    ⟨uri, resolved, isUri⟩ | ⟨front, failed, lacks⟩
  · exact .inl ⟨⟨uri, entry.1, entry.2⟩, by rw [resolved]; rfl, rfl, rfl, isUri⟩
  · exact .inr ⟨_, by rw [failed]; rfl, front, rfl, lacks⟩

end Resolving

/-- A computation on each element ends with all its values or with the first error. -/
theorem mapM_ok_or_error {α β ε : Type} {f : α → Except ε β} {makes : α → β → Prop}
    {fails : α → ε → Prop}
    (each : ∀ element, (∃ value, f element = .ok value ∧ makes element value) ∨
      ∃ error, f element = .error error ∧ fails element error) (elements : List α) :
    (∃ values, elements.mapM f = .ok values ∧ List.Forall₂ makes elements values) ∨
      ∃ error, elements.mapM f = .error error ∧ ∃ element ∈ elements, fails element error := by
  induction elements with
  | nil => exact .inl ⟨[], rfl, .nil⟩
  | cons first rest inductionHypothesis =>
    rw [List.mapM_cons]
    rcases each first with ⟨value, made, makes⟩ | ⟨error, failed, fails⟩
    · rcases inductionHypothesis with ⟨values, madeRest, makesRest⟩ | ⟨error, failed, listed, fails⟩
      · exact .inl ⟨value :: values, by rw [made, madeRest]; rfl, .cons makes makesRest⟩
      · obtain ⟨inRest, fails⟩ := fails
        exact .inr ⟨error, by rw [made, failed]; rfl, listed, List.mem_cons_of_mem _ inRest, fails⟩
    · exact .inr ⟨error, by rw [failed]; rfl, first, List.mem_cons_self, fails⟩

/-! ### Elements -/

namespace Node

variable {scope : Namespaces} {tags : List (List Char)} {body : List Char}

/-- A tag whose attributes have no fault is an element, or one of its names has a prefix that is not
bound in the tag. -/
theorem ofTag_ok_or_error (sound : Markup.AttributesAreSound body)
    (around : ∀ front, scope.get? front = Markup.boundIn tags front) (position serial : Nat) :
    (∃ node, ofTag scope position serial body = .ok node ∧
        node.IsElementOf (Markup.boundIn (body :: tags)) body) ∨
      ∃ front, ofTag scope position serial body = .error (.undeclaredPrefix front position) ∧
        ∃ name ∈ Markup.names body, LacksPrefix (Markup.boundIn (body :: tags)) name front := by
  obtain ⟨content, read⟩ := TagContent.exists_read sound scope
  obtain ⟨-, extended⟩ := TagContent.read_ok read
  have same : ∀ front, content.scope.get? front = Markup.boundIn (body :: tags) front := by
    intro front
    rw [extended.scope, Markup.boundIn_cons, ← around]
  have entries : content.attributes = Markup.ordinary body := extended.attributes
  have unprefixed : content.scope.unprefixed = (Markup.boundIn (body :: tags) "").getD "" :=
    congrArg (Option.getD · "") (same "")
  have whole : ofTag scope position serial body = (do
      let uri ← content.scope.resolve position content.scope.unprefixed
        (String.ofList (Markup.tagName body))
      let attributes ← content.attributes.mapM (content.scope.attributeOf position)
      return { element serial uri (String.ofList (Markup.tagName body)) with
        attributes, namespaces := content.scope }) := by
    unfold ofTag
    rw [read]
    rfl
  rw [whole]
  rcases Namespaces.resolve_ok_or_error same position content.scope.unprefixed
    (String.ofList (Markup.tagName body)) with ⟨uri, resolved, isUri⟩ | ⟨front, failed, lacks⟩
  · rcases mapM_ok_or_error (Namespaces.attributeOf_ok_or_error same position)
        content.attributes with
      ⟨attributes, made, areMade⟩ | ⟨error, failed, entry, listed, front, rfl, lacks⟩
    · rw [resolved, made]
      exact .inl ⟨_, rfl, rfl, rfl, same, unprefixed ▸ isUri, entries ▸ areMade⟩
    · rw [resolved, failed]
      exact .inr ⟨front, rfl, entry.1,
        List.mem_cons_of_mem _ (List.mem_map_of_mem (entries ▸ listed)), lacks⟩
  · rw [failed]
    exact .inr ⟨front, rfl, _, List.mem_cons_self, lacks⟩

/-- Every prefix of a name in the tag of an element is bound. -/
theorem IsElementOf.not_lacksPrefix {node : Node} {bound : String → Option String}
    (isElement : node.IsElementOf bound body) :
    ∀ name ∈ Markup.names body, ∀ front, ¬LacksPrefix bound name front := by
  have each : List.Forall₂ (fun (entry : String × String) _ =>
      (∀ front, ¬LacksPrefix bound entry.1 front) ∧ True) (Markup.ordinary body) node.attributes :=
    isElement.attributes.imp fun _ _ made => ⟨made.2.2.not_lacksPrefix, trivial⟩
  intro name listed
  rcases List.mem_cons.mp listed with rfl | ofAttribute
  · rw [← isElement.name]
    exact isElement.uri.not_lacksPrefix
  · obtain ⟨entry, inTag, rfl⟩ := List.mem_map.mp ofAttribute
    exact ((List.forall₂_and_left _ _).mp each).1 entry inTag

/-- A node that is read from a tag is the element of the tag. -/
theorem isElementOf_of_ofTag {position serial : Nat} {node : Node}
    (made : ofTag scope position serial body = .ok node)
    (around : ∀ front, scope.get? front = Markup.boundIn tags front) :
    node.IsElementOf (Markup.boundIn (body :: tags)) body := by
  obtain ⟨content, read, -⟩ := ok_bind_iff.mp made
  rcases ofTag_ok_or_error (TagContent.read_ok read).1 around position serial with
    ⟨same, again, isElement⟩ | ⟨_, failed, -⟩
  · exact Except.ok.inj (again.symm.trans made) ▸ isElement
  · cases made.symm.trans failed

end Node

end StreamPath
