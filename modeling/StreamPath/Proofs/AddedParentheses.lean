/-
Parentheses around a whole text. They are accepted exactly if the white space at the ends of the
text consists of blanks. What is read is then the same, but for one number: where a number ends the
text, the digits after its point count only if something follows them, so they count in the
parentheses.
-/

import StreamPath.Proofs.OperatorChains

namespace StreamPath.Expr

open Text (isBlank)

/-- Whether the white space at the ends of a text consists of blanks. -/
def EndsInBlanks (text : List Char) : Prop :=
  ∃ before after, text = before ++ (Text.trim text ++ after) ∧
    (∀ c ∈ before, isBlank c = true) ∧ ∀ c ∈ after, isBlank c = true

/-- A text in parentheses is a chain of one operand. -/
theorem read_parenthesized_of_isValueOf {text : List Char} {accepted : Accepts text} {value : Expr}
    (isValue : Grammar.IsValueOf (.parenthesized text accepted) value) (location : Location)
    (other : Expr) :
    read (String.ofList (Phrase.parenthesized text)) location = .ok other ↔
      EndsInBlanks text ∧ other = value := by
  let chain : OperatorChain := ⟨.parenthesized text accepted, []⟩
  have alone : chain.text = Phrase.parenthesized text := List.append_nil _
  have each := @isValue chain.text.length (by rw [alone]; exact Nat.le_refl _)
  have reads : ∀ operand ∈ chain.operands, operand.EndsInBlanks →
      Grammar.ReadsOperand (Grammar.expressionWithin chain.text.length) operand value :=
    List.forall_mem_singleton.mpr each.1
  have ofBlanks : EndsInBlanks text → Grammar.expression chain.text = some (value, []) := by
    intro blanks
    obtain ⟨expr, found, splits⟩ := Grammar.exists_expression_of_reads fun operand listed =>
      reads operand listed (List.mem_singleton.mp listed ▸ blanks)
    rw [found, ← splits.eq_of_nil]
  rw [← alone, OperatorChain.read_text_eq_ok_iff]
  constructor
  · intro found
    have blanks : EndsInBlanks text :=
      Grammar.endsInBlanks_of_expression reads (List.forall_mem_singleton.mpr each.2) found _
        List.mem_cons_self
    exact ⟨blanks, (Prod.mk.inj (Option.some.inj (found.symm.trans (ofBlanks blanks)))).1⟩
  · rintro ⟨blanks, rfl⟩
    exact ofBlanks blanks

/-- Parentheses around an accepted text are accepted if and only if nothing but blanks stands at its
ends, and they change what is read only in a fraction at the end. -/
theorem read_parenthesized {text : List Char} {location : Location} {expr : Expr}
    (reads : read (String.ofList text) location = .ok expr) (other : Expr) :
    read (String.ofList (Phrase.parenthesized text)) location = .ok other ↔
      EndsInBlanks text ∧ other = expr.completed (Text.trim text) :=
  read_parenthesized_of_isValueOf (Grammar.isValueOf_parenthesized ⟨location, expr, reads⟩
    (read_ofList_eq_ok_iff.mp reads)) location other

/-- The number at the end of a product is another one in parentheses, where its fraction counts. -/
theorem read_parenthesized_product :
    read (String.ofList ['2', ' ', '*', ' ', '1', '.', '5', ' ']) {} = .ok (.binary
        (.number (Decimal.parse ['2'])) .times (.number (Decimal.parse ['1', '.']))) ∧
      read (String.ofList (Phrase.parenthesized ['2', ' ', '*', ' ', '1', '.', '5', ' '])) {} =
        .ok (.binary (.number (Decimal.parse ['2'])) .times
          (.number (Decimal.parse ['1', '.', '5']))) := by
  have trimmed : Text.trim ['2', ' ', '*', ' ', '1', '.', '5', ' '] =
      ['2', ' ', '*', ' ', '1', '.', '5'] := by decide
  have reads : read (String.ofList ['2', ' ', '*', ' ', '1', '.', '5', ' ']) {} = .ok (.binary
      (.number (Decimal.parse ['2'])) .times (.number (Decimal.parse ['1', '.']))) :=
    read_ofList_eq_ok_iff.mpr (by rw [trimmed]; rfl)
  have blanks : EndsInBlanks ['2', ' ', '*', ' ', '1', '.', '5', ' '] :=
    ⟨[], [' '], by rw [trimmed]; rfl, List.forall_mem_nil _, List.forall_mem_singleton.mpr rfl⟩
  refine ⟨reads, (read_parenthesized reads _).mpr ⟨blanks, ?_⟩⟩
  rw [trimmed]
  rfl

/-- A number with digits after its point is read as if they were not there, but not in parentheses.
-/
theorem not_read_parenthesized_fraction :
    read (String.ofList ['1', '.', '5']) {} = .ok (.number (Decimal.parse ['1', '.'])) ∧
      read (String.ofList (Phrase.parenthesized ['1', '.', '5'])) {} =
        .ok (.number (Decimal.parse ['1', '.', '5'])) ∧
      Decimal.parse ['1', '.'] ≠ Decimal.parse ['1', '.', '5'] :=
  ⟨read_ofList_eq_ok_iff.mpr rfl, read_ofList_eq_ok_iff.mpr rfl, by decide⟩

end StreamPath.Expr
