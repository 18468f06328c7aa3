/-
What is in scope at a node, told in two ways: one function lists the prefixes, the other gives the
namespace of a prefix. Both pass over prefixes that are declared as no namespace, and both know
`xml` without a declaration. The list adds it where no declaration names it, however, and the
namespace is given whatever is declared. So the two agree about every prefix of every node but for
`xml` at nodes that have it declared as no namespace, which a document may do.
-/

import StreamPath.Library.Nodes
import StreamPath.Proofs.Yields
import StreamPath.Stream.Element

namespace StreamPath

/-! ### Declared prefixes -/

namespace Namespaces

variable {namespaces : Namespaces} {front uri : String}

/-- Whether a prefix is declared, and not as no namespace. -/
def Binds (namespaces : Namespaces) (front : String) : Prop :=
  ∃ uri, namespaces.get? front = some uri ∧ uri.isEmpty = false

theorem perm_sorted (namespaces : Namespaces) : namespaces.sorted.Perm namespaces.entries :=
  List.mergeSort_perm _ _

theorem mem_sorted_iff : (front, uri) ∈ namespaces.sorted ↔ namespaces.get? front = some uri := by
  rw [namespaces.perm_sorted.mem_iff, Table.get?_eq_some_iff]

theorem nodup_sorted (namespaces : Namespaces) : (namespaces.sorted.map Prod.fst).Nodup :=
  (namespaces.perm_sorted.map Prod.fst).nodup_iff.mpr namespaces.distinct

end Namespaces

namespace Library

variable {node : Node} {front : String}

/-! ### The list of prefixes -/

/-- The prefixes that are listed for what is declared. -/
def declaredPrefixes (node : Node) : List String :=
  (node.namespaces.sorted.filter fun binding => !binding.2.isEmpty).map Prod.fst

theorem mem_declaredPrefixes_iff : front ∈ declaredPrefixes node ↔ node.namespaces.Binds front := by
  unfold declaredPrefixes Namespaces.Binds
  rw [List.mem_map]
  constructor
  · rintro ⟨⟨_, uri⟩, listed, rfl⟩
    obtain ⟨declared, full⟩ := List.mem_filter.mp listed
    exact ⟨uri, Namespaces.mem_sorted_iff.mp declared, Bool.not_eq_true' _ ▸ full⟩
  · rintro ⟨uri, declared, full⟩
    refine ⟨(front, uri), List.mem_filter.mpr ⟨Namespaces.mem_sorted_iff.mpr declared, ?_⟩, rfl⟩
    rw [full]
    rfl

theorem nodup_declaredPrefixes (node : Node) : (declaredPrefixes node).Nodup :=
  node.namespaces.nodup_sorted.sublist (List.filter_sublist.map Prod.fst)

theorem inScopePrefixes_eq (node : Node) : inScopePrefixes node =
    declaredPrefixes node ++ if node.namespaces.contains "xml" then [] else ["xml"] := rfl

/-- A prefix is listed if it is bound, and `xml` also if it is not declared. -/
theorem mem_inScopePrefixes_iff : front ∈ inScopePrefixes node ↔
    node.namespaces.Binds front ∨ front = "xml" ∧ node.namespaces.get? "xml" = none := by
  rw [inScopePrefixes_eq, List.mem_append, mem_declaredPrefixes_iff, Table.contains]
  cases node.namespaces.get? "xml" <;> simp

/-- No prefix is listed twice: the declared ones have keys of their own, and `xml` is added only
where it is not declared. -/
theorem nodup_inScopePrefixes (node : Node) : (inScopePrefixes node).Nodup := by
  rw [inScopePrefixes_eq, List.nodup_append]
  refine ⟨nodup_declaredPrefixes node, by split <;> simp, ?_⟩
  rintro front declared _ added rfl
  obtain ⟨uri, bound, -⟩ := mem_declaredPrefixes_iff.mp declared
  split at added
  · cases added
  · next undeclared =>
    obtain rfl := List.mem_singleton.mp added
    rw [Table.contains, bound] at undeclared
    exact undeclared rfl

/-! ### The namespace of a prefix -/

/-- A prefix has a namespace if it is bound, and `xml` has one in any case. -/
theorem isSome_namespaceForPrefix_iff : (namespaceForPrefix node front).isSome = true ↔
    node.namespaces.Binds front ∨ front = "xml" := by
  unfold namespaceForPrefix Namespaces.Binds
  by_cases isXml : front = "xml"
  · simp [isXml]
  · cases node.namespaces.get? front <;> simp [isXml, Option.filter]

/-- Whether a prefix is listed and whether it has a namespace is the same, but for `xml` where it is
declared as no namespace: then it is not listed, and has one. -/
theorem listed_iff_isSome_iff (node : Node) (front : String) :
    (front ∈ inScopePrefixes node ↔ (namespaceForPrefix node front).isSome = true) ↔
      ¬(front = "xml" ∧ node.namespaces.get? "xml" = some "") := by
  rw [mem_inScopePrefixes_iff, isSome_namespaceForPrefix_iff]
  by_cases isXml : front = "xml"
  · subst isXml
    unfold Namespaces.Binds
    cases node.namespaces.get? "xml" <;> simp
  · simp only [isXml, false_and, or_false, not_false_eq_true]

/-! ### Calls -/

/-- For every node, whatever is declared there, both functions give a result for every prefix. The
prefixes that are listed are strings, none of them twice. A prefix is listed exactly if the
namespace that is given for it is not the empty sequence, unless it is `xml` and declared as no
namespace. -/
theorem inScopePrefixes_agree_iff (context : Context) (top : Nat) (node : Node) :
    ∃ listed names, getInScopePrefixes context top [.ofNode node] = .ok listed ∧
      listed.toList = List.map Item.string names ∧ names.Nodup ∧
      ∀ front, ∃ given,
        getNamespaceUriForPrefix context top [.ofString front, .ofNode node] = .ok given ∧
        ((front ∈ names ↔ given.isEmpty = false) ↔
          ¬(front = "xml" ∧ node.namespaces.get? "xml" = some "")) := by
  refine ⟨_, inScopePrefixes node, rfl, Value.toList_ofItems_strings _, nodup_inScopePrefixes node,
    fun front => ⟨_, rfl, ?_⟩⟩
  have found : (((some node).bind fun node => namespaceForPrefix node front).map
      Value.ofString |>.getD .empty).isEmpty = false ↔
        (namespaceForPrefix node front).isSome = true := by
    rw [Option.bind_some]
    cases namespaceForPrefix node front with
    | none => exact ⟨nofun, nofun⟩
    | some uri => exact ⟨fun _ => rfl, fun _ => rfl⟩
  rw [← listed_iff_isSome_iff, ← found]
  rfl

/-- A tag may declare `xml` as no namespace. The prefix is then not listed, and has its namespace
all the same. -/
theorem xml_unlisted : ∃ node, Node.ofTag Table.empty 0 0 "a xmlns:xml=''".toList = .ok node ∧
    getInScopePrefixes {} 2 [.ofNode node] = .ok .empty ∧
    getNamespaceUriForPrefix {} 2 [.ofString "xml", .ofNode node] =
      .ok (.ofString xmlNamespace) := by
  have made : ((Node.ofTag Table.empty 0 0 "a xmlns:xml=''".toList).toOption.map inScopePrefixes) =
    some [] := by decide +kernel
  obtain ⟨node, found, unlisted⟩ := Option.map_eq_some_iff.mp made
  refine ⟨node, ok_of_toOption found, ?_, rfl⟩
  show Except.ok (Value.ofItems ((inScopePrefixes node).map .string)) = _
  rw [unlisted]
  rfl

end Library

end StreamPath
