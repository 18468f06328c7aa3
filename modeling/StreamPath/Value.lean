/-
Values. Every value is a sequence of items, written as a chain of links with one item each. The
empty sequence is the single link that holds the empty item, and that item stands nowhere else in a
well-formed chain. `toList` gives the items of a value; the operations below are what they are on
lists of items.
-/

import StreamPath.Decimal.Text
import StreamPath.Node
import StreamPath.Text.Quoted

namespace StreamPath

/-- A value that only functions of the host can look into. -/
structure HostObject where
  /-- Tells the object from all others. -/
  identity : Nat
  /-- The string value of the object. -/
  text : String
  /-- How the object is shown among the items of a value. -/
  label : String
  /-- What the functions of the host read from the object. -/
  state : Float
deriving Inhabited

/-- One item of a sequence, or the mark of the empty sequence. -/
inductive Item where
  | empty
  | boolean (value : Bool)
  | number (value : Float)
  | string (content : String)
  | node (node : Node)
  | object (object : HostObject)
deriving Inhabited

namespace Item

/-- Whether an item is the mark of the empty sequence. -/
def isEmpty : Item → Bool
  | empty => true
  | _ => false

/-- Whether an item is a number. -/
def isNumber : Item → Bool
  | number _ => true
  | _ => false

/-- Whether an item is a boolean. -/
def isBoolean : Item → Bool
  | boolean _ => true
  | _ => false

/-- The node that an item is. -/
def node? : Item → Option Node
  | node entry => some entry
  | _ => none

/-- The truth of an item: numbers other than zero and NaN, strings that are not empty, nodes and
objects are true. -/
def toBoolean : Item → Bool
  | empty => false
  | boolean value => value
  | number value => value != 0 && !value.isNaN
  | string content => !content.isEmpty
  | node _ | object _ => true

/-- The number of an item. -/
def toNumber : Item → Float
  | empty | object _ => Decimal.notANumber
  | boolean value => if value then 1 else 0
  | number value => value
  | string content => Decimal.parse content.toList
  | node entry => Decimal.parse entry.stringValue.toList

/-- The string of an item. -/
def toText : Item → String
  | empty => ""
  | boolean value => if value then "true" else "false"
  | number value => Decimal.format value
  | string content => content
  | node entry => entry.stringValue
  | object host => host.text

/-- How an item is shown in a listing of a value. -/
def label : Item → String
  | empty => "()"
  | boolean value => if value then "true" else "false"
  | number value => Decimal.format value
  | string content => String.ofList (Text.quoted content.toList)
  | node entry => "Node(" ++ entry.kind.label ++ " " ++ entry.qualifiedName ++ ")"
  | object host => "Object(" ++ host.label ++ ")"

/-- Whether two items are the same: numbers by value, nodes and objects by identity. -/
def same : Item → Item → Bool
  | empty, empty => true
  | boolean first, boolean second => first == second
  | number first, number second => first == second
  | string first, string second => first == second
  | node first, node second => first.id == second.id
  | object first, object second => first.identity == second.identity
  | _, _ => false

end Item

/-- A sequence of items, as a chain of links. -/
inductive Value where
  /-- The last link. -/
  | last (item : Item)
  /-- A link with another one after it. -/
  | link (item : Item) (next : Value)
deriving Inhabited

namespace Value

/-! ### Making values -/

/-- The empty sequence. -/
def empty : Value := last .empty

/-- The value of one item. -/
def ofItem (item : Item) : Value := last item

/-- The value of one boolean. -/
def ofBool (value : Bool) : Value := last (.boolean value)

/-- The value of one number. -/
def ofNumber (value : Float) : Value := last (.number value)

/-- The value of one string. -/
def ofString (content : String) : Value := last (.string content)

/-- The value of one node. -/
def ofNode (node : Node) : Value := last (.node node)

/-- The chain of a list of items. -/
def chain : List Item → Value
  | [] => empty
  | [item] => last item
  | item :: next :: rest => link item (chain (next :: rest))

/-- The sequence of a list of items, marks of the empty sequence left out. -/
def ofItems (items : List Item) : Value := chain (items.filter fun item => !item.isEmpty)

/-- The sequence of a list of nodes. -/
def ofNodes (nodes : List Node) : Value := ofItems (nodes.map .node)

/-! ### Looking at values -/

/-- The item of the first link. -/
def item : Value → Item
  | last item | link item _ => item

/-- The chain after the first link. -/
def next? : Value → Option Value
  | last _ => none
  | link _ next => some next

/-- Whether a value is the empty sequence. -/
def isEmpty : Value → Bool
  | last item => item.isEmpty
  | link _ _ => false

/-- Whether a value has one item exactly. -/
def isSingle : Value → Bool
  | last item => !item.isEmpty
  | link _ _ => false

/-- The items of all links. -/
def links : Value → List Item
  | last item => [item]
  | link item next => item :: next.links

/-- The items of a value. -/
def toList (value : Value) : List Item := if value.isEmpty then [] else value.links

/-- The number of items. -/
def length (value : Value) : Nat := value.toList.length

/-- The first item, if there is one. -/
def first? (value : Value) : Option Item := value.toList.head?

/-- The nodes among the items. -/
def nodes (value : Value) : List Node := value.toList.filterMap Item.node?

/-! ### Changing values -/

/-- The first link alone, and the chain after it. -/
def takeNext (value : Value) : Value × Option Value := (last value.item, value.next?)

/-- The second chain after the last link of the first. -/
def join : Value → Value → Value
  | last item, tail => link item tail
  | link item next, tail => link item (next.join tail)

/-- The items of one value and then those of another. -/
def concat (first second : Value) : Value :=
  if first.isEmpty then second
  else if second.isEmpty then first
  else first.join second

/-- A copy of a value, built from its items. -/
def copy (value : Value) : Value := ofItems value.toList

/-! ### Conversions -/

/-- The string of the first item. -/
def toText (value : Value) : String := (value.first?.map Item.toText).getD ""

/-- The number of the first item. -/
def toNumber (value : Value) : Float := (value.first?.map Item.toNumber).getD Decimal.notANumber

/-- The truth of a value: that of a single item, and true for two items or more. -/
def toBoolean (value : Value) : Bool :=
  match value.toList with
  | [] => false
  | [item] => item.toBoolean
  | _ :: _ :: _ => true

/-- How a value is shown: its items in brackets. -/
def label (value : Value) : String :=
  "[" ++ ", ".intercalate (value.toList.map Item.label) ++ "]"

/-- Whether two values have the same items in the same order. -/
def same (first second : Value) : Bool :=
  first.length == second.length
    && (first.toList.zip second.toList).all fun (left, right) => left.same right

/-! ### Chains and lists -/

@[simp] theorem toList_empty : empty.toList = [] := rfl

theorem links_chain {items : List Item} (nonempty : items ≠ []) : (chain items).links = items := by
  match items with
  | [] => exact absurd rfl nonempty
  | [item] => rfl
  | item :: next :: rest =>
    rw [chain, links, links_chain (List.cons_ne_nil next rest)]

theorem isEmpty_chain {items : List Item} (full : ∀ item ∈ items, item.isEmpty = false) :
    (chain items).isEmpty = items.isEmpty := by
  match items with
  | [] => rfl
  | [item] => exact full item List.mem_cons_self
  | item :: next :: rest => rfl

theorem toList_ofItems (items : List Item) :
    (ofItems items).toList = items.filter fun item => !item.isEmpty := by
  have full : ∀ item ∈ items.filter (fun item => !item.isEmpty), item.isEmpty = false := by
    intro item member
    simpa using (List.mem_filter.mp member).2
  rw [ofItems, toList, isEmpty_chain full]
  cases kept : items.filter fun item => !item.isEmpty with
  | nil => rfl
  | cons item rest =>
    rw [links_chain (List.cons_ne_nil item rest)]
    rfl

/-- Made of elements none of which is the mark of the empty sequence, a sequence has all of them. -/
theorem toList_ofItems_map {α : Type} {make : α → Item}
    (full : ∀ element, (make element).isEmpty = false) (elements : List α) :
    (ofItems (elements.map make)).toList = elements.map make := by
  rw [toList_ofItems, List.filter_eq_self]
  intro item listed
  obtain ⟨element, -, rfl⟩ := List.mem_map.mp listed
  rw [full element]
  rfl

theorem toList_ofItems_strings (contents : List String) :
    (ofItems (contents.map .string)).toList = contents.map .string :=
  toList_ofItems_map (fun _ => rfl) contents

theorem toList_ofNodes (nodes : List Node) : (ofNodes nodes).toList = nodes.map .node :=
  toList_ofItems_map (fun _ => rfl) nodes

theorem links_join (first second : Value) :
    (first.join second).links = first.links ++ second.links := by
  induction first with
  | last item => rfl
  | link item next inductionHypothesis => rw [join, links, inductionHypothesis]; rfl

theorem isEmpty_join (first second : Value) : (first.join second).isEmpty = false := by
  cases first <;> rfl

theorem toList_concat (first second : Value) :
    (first.concat second).toList = first.toList ++ second.toList := by
  unfold concat toList
  by_cases left : first.isEmpty
  · simp [left]
  · by_cases right : second.isEmpty
    · simp [left, right]
    · simp [left, right, isEmpty_join, links_join]

end Value

end StreamPath
