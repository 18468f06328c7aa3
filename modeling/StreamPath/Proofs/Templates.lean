/-
Templates and how they are spelled. Text is spelled with its braces doubled, and an expression in
parentheses and braces. Whatever the parts are, their spellings one after the other are read as the
parts again: a run of braces is taken two by two from the left, a brace before a parenthesis is none
of two, and an expression in parentheses is read up to the parenthesis that closes it, also where
text in it has braces of its own. Text that meets text goes together, and text that is empty is
lost.
-/

import StreamPath.Compile
import StreamPath.Proofs.Parentheses
import StreamPath.Proofs.Realization

namespace StreamPath

open Text (Closed)

/-! ### Spelling -/

namespace TemplatePart

/-- A text with every brace doubled. -/
def doubleBraces (text : List Char) : List Char :=
  text.flatMap fun c => if c = '\x7b' ∨ c = '\x7d' then [c, c] else [c]

/-- How a part of a template is spelled: text with its braces doubled, and the text of an expression
in parentheses and braces. -/
def spelling : TemplatePart String → List Char
  | .text content => doubleBraces content.toList
  | .expression content => '\x7b' :: ('(' :: (content.toList ++ [')']) ++ ['\x7d'])

/-- A part with its expression read, which stands in parentheses. -/
def read (location : Location) : TemplatePart String → Except ExprError (TemplatePart Expr)
  | .text content => .ok (.text content)
  | .expression content => (Expr.read ("(" ++ content ++ ")") location).map .expression

/-- Parts after some text, which goes together with text that they begin with and is lost if it is
empty. -/
def withText (content : String) : List (TemplatePart Expr) → List (TemplatePart Expr)
  | .text more :: others => .text (content ++ more) :: others
  | others => if content.isEmpty then others else .text content :: others

/-- Parts with all text that meets put together, and without empty text. -/
def joined : List (TemplatePart Expr) → List (TemplatePart Expr)
  | [] => []
  | .text content :: rest => withText content (joined rest)
  | .expression expr :: rest => .expression expr :: joined rest

/-- Whether parts do not begin with text. -/
def BeginsPlain (parts : List (TemplatePart Expr)) : Prop :=
  ∀ content, withText content parts = if content.isEmpty then parts else .text content :: parts

theorem beginsPlain_nil : BeginsPlain [] := fun _ => rfl

theorem beginsPlain_expression (expr : Expr) (others : List (TemplatePart Expr)) :
    BeginsPlain (.expression expr :: others) := fun _ => rfl

theorem BeginsPlain.withText_append {parts : List (TemplatePart Expr)} (plain : BeginsPlain parts)
    (first second : String) :
    withText (first ++ second) parts = withText first (withText second parts) := by
  rw [plain, plain second]
  by_cases empty : second = ""
  · rw [empty, String.append_empty]
    exact (plain first).symm
  · have filled : ¬(first ++ second).isEmpty = true := by simp [empty]
    rw [if_neg filled, if_neg (by simpa using empty)]
    rfl

/-- Texts that follow each other are one text. -/
theorem withText_append (first second : String) (parts : List (TemplatePart Expr)) :
    withText (first ++ second) parts = withText first (withText second parts) := by
  cases parts with
  | nil => exact beginsPlain_nil.withText_append first second
  | cons part others =>
    cases part with
    | text content => exact congrArg (fun text => .text text :: others) (String.append_assoc ..)
    | expression expr => exact (beginsPlain_expression expr others).withText_append first second

theorem withText_empty (parts : List (TemplatePart Expr)) : withText "" parts = parts := by
  cases parts with
  | nil => rfl
  | cons part others =>
    cases part with
    | text content => exact congrArg (fun text => .text text :: others) String.empty_append
    | expression expr => rfl

end TemplatePart

namespace Expr

open TemplatePart

variable {limit : Nat}

/-! ### Text with doubled braces -/

/-- What has been gathered so far becomes the text before the other parts. -/
theorem textPart_append {parts : List (TemplatePart Expr)} (plain : BeginsPlain parts)
    (gathered : List Char) :
    textPart gathered ++ parts = withText (String.ofList gathered.reverse) parts := by
  rw [plain]
  cases gathered with
  | nil => rfl
  | cons c more =>
    have filled : ¬(String.ofList (c :: more).reverse).isEmpty = true := by simp
    exact (if_neg filled).symm

theorem templateParts_plain {c : Char} (plain : ¬(c = '\x7b' ∨ c = '\x7d'))
    (gathered rest : List Char) :
    templateParts (limit + 1) gathered (c :: rest) = templateParts limit (c :: gathered) rest := by
  obtain ⟨noOpening, noClosing⟩ := not_or.mp plain
  rw [templateParts] <;> simp_all

/-- A text is gathered from its spelling. -/
theorem templateParts_doubleBraces {text rest : List Char}
    (enough : (doubleBraces text ++ rest).length ≤ limit) (gathered : List Char) :
    ∃ fewer, rest.length ≤ fewer ∧ templateParts limit gathered (doubleBraces text ++ rest) =
      templateParts fewer (text.reverse ++ gathered) rest := by
  induction text generalizing limit gathered with
  | nil => exact ⟨limit, enough, rfl⟩
  | cons c text inductionHypothesis =>
    have spelled : doubleBraces (c :: text) =
        (if c = '\x7b' ∨ c = '\x7d' then [c, c] else [c]) ++ doubleBraces text := rfl
    have one : ∃ fewer, (doubleBraces text ++ rest).length ≤ fewer ∧
        templateParts limit gathered (doubleBraces (c :: text) ++ rest) =
          templateParts fewer (c :: gathered) (doubleBraces text ++ rest) := by
      rw [spelled, List.append_assoc] at enough ⊢
      obtain ⟨fewer, rfl⟩ : ∃ fewer, limit = fewer + 1 := Nat.exists_eq_add_one.mpr (by
        split at enough <;> simp only [List.cons_append, List.length_cons] at enough <;> omega)
      refine ⟨fewer, ?_, ?_⟩
      · split at enough <;> simp only [List.cons_append, List.nil_append, List.length_cons]
          at enough <;>
          omega
      · by_cases brace : c = '\x7b' ∨ c = '\x7d'
        · rw [if_pos brace]
          rcases brace with rfl | rfl <;> rfl
        · rw [if_neg brace]
          exact templateParts_plain brace _ _
    obtain ⟨fewer, left, first⟩ := one
    obtain ⟨last, after, further⟩ := inductionHypothesis left (c :: gathered)
    refine ⟨last, after, (first.trans further).trans ?_⟩
    rw [List.reverse_cons, List.append_assoc]
    rfl

/-! ### Expressions in parentheses and braces -/

/-- An expression in parentheses ends in no numeral. -/
theorem completed_parenthesized (content : List Char) (expr : Expr) :
    expr.completed ('(' :: (content ++ [')'])) = expr :=
  Text.completed_of_nil (Text.lastNumeral_concat (by decide) ('(' :: content)) expr

theorem trim_parenthesized (content : List Char) :
    Text.trim ('(' :: (content ++ [')'])) = '(' :: (content ++ [')']) := by
  refine Text.trim_eq_self ?_ ?_
  · rintro c ⟨⟩
    rfl
  · intro c last
    rw [← List.cons_append, List.getLast?_concat] at last
    obtain rfl := Option.some.inj last
    rfl

theorem read_parenthesized_iff {content : String} {location : Location} {expr : Expr} :
    Expr.read ("(" ++ content ++ ")") location = .ok expr ↔
      Grammar.expression ('(' :: (content.toList ++ [')'])) = some (expr, []) := by
  have whole : "(" ++ content ++ ")" = String.ofList ('(' :: (content.toList ++ [')'])) := by
    rw [← String.toList_inj]
    simp
  rw [whole, read_ofList_eq_ok_iff, trim_parenthesized]

/-- An expression in parentheses is read up to the brace after it. -/
theorem embedded_parenthesized {content : List Char} {expr : Expr}
    (reads : Grammar.expression ('(' :: (content ++ [')'])) = some (expr, [])) (rest : List Char) :
    embedded ('(' :: (content ++ [')']) ++ '\x7d' :: rest) = some (expr, rest) := by
  have brace : Text.afterBlanks ('\x7d' :: rest) = '\x7d' :: rest :=
    Text.afterBlanks_cons (by decide) rest
  have closed : Closed ('\x7d' :: rest) :=
    .of_head? (by rw [brace, List.head?_cons]) (by decide) (by decide)
  have opens : ∀ c ∈ ('(' :: (content ++ [')'])).head?, Text.isSpace c = false := by
    rintro c ⟨⟩
    rfl
  obtain ⟨left, after, further⟩ := (Grammar.readsInside_expressionWithin reads opens
    (Nat.lt_succ_of_le (List.prefix_append _ ('\x7d' :: rest)).length_le)).reads closed
  obtain rfl := after.eq_of_cons (by decide)
  rw [completed_parenthesized] at further
  have ofExpression : Parse.spaced Grammar.expression
      ('(' :: (content ++ [')']) ++ '\x7d' :: rest) =
      some (expr, '\x7d' :: rest) := by
    refine (Parse.spaced_of_some ?_).trans (congrArg (fun rest => some (expr, rest)) brace)
    rw [List.cons_append, Text.afterBlanks_cons (by decide)]
    exact further
  unfold embedded
  exact (Parse.bind_of_some ofExpression _).trans (Parse.bind_of_some (Parse.char_cons _ _) _)

/-- An expression in parentheses and braces is read as a part of its own. -/
theorem templateParts_parenthesized {content rest gathered : List Char} {expr : Expr}
    {parts : List (TemplatePart Expr)}
    (reads : Grammar.expression ('(' :: (content ++ [')'])) = some (expr, []))
    (ofRest : templateParts limit [] rest = .ok parts) :
    templateParts (limit + 1) gathered ('\x7b' :: ('(' :: (content ++ [')']) ++ '\x7d' :: rest)) =
      .ok (textPart gathered ++ .expression expr :: parts) := by
  have ofEmbedded := embedded_parenthesized reads rest
  rw [List.cons_append] at ofEmbedded ⊢
  rw [templateParts, ofEmbedded]
  · dsimp only
    rw [ofRest]
    rfl
  · simp

/-! ### Whole templates -/

theorem templateParts_spelling {location : Location} {parts : List (TemplatePart String)}
    {decoded : List (TemplatePart Expr)}
    (accepted : parts.mapM (TemplatePart.read location) = .ok decoded)
    (enough : (parts.flatMap spelling).length ≤ limit) (gathered : List Char) :
    templateParts limit gathered (parts.flatMap spelling) =
      .ok (withText (String.ofList gathered.reverse) (joined decoded)) := by
  induction parts generalizing limit gathered decoded with
  | nil =>
    obtain rfl := Except.ok.inj accepted
    rw [List.flatMap_nil, templateParts]
    exact congrArg Except.ok
      ((List.append_nil _).symm.trans (textPart_append beginsPlain_nil gathered))
  | cons part rest inductionHypothesis =>
    rw [List.mapM_cons] at accepted
    obtain ⟨first, ofFirst, more⟩ := ok_bind_iff.mp accepted
    obtain ⟨others, ofRest, ended⟩ := ok_bind_iff.mp more
    obtain rfl := Except.ok.inj ended
    rw [List.flatMap_cons] at enough ⊢
    cases part with
    | text content =>
      obtain rfl := Except.ok.inj ofFirst
      obtain ⟨fewer, left, gathers⟩ := templateParts_doubleBraces enough gathered
      refine gathers.trans ((inductionHypothesis ofRest left _).trans (congrArg Except.ok ?_))
      rw [List.reverse_append, List.reverse_reverse, String.ofList_append, String.ofList_toList,
        withText_append]
      rfl
    | expression content =>
      obtain ⟨expr, reads, rfl⟩ := ok_map_iff.mp ofFirst
      have spelled : spelling (.expression content) ++ rest.flatMap spelling =
          '\x7b' :: ('(' :: (content.toList ++ [')']) ++ '\x7d' :: rest.flatMap spelling) := by
        simp [spelling]
      rw [spelled] at enough ⊢
      obtain ⟨fewer, rfl⟩ : ∃ fewer, limit = fewer + 1 := Nat.exists_eq_add_one.mpr (by
        rw [List.length_cons] at enough
        omega)
      have left : (rest.flatMap spelling).length ≤ fewer := by
        simp only [List.length_cons, List.length_append] at enough
        omega
      refine (templateParts_parenthesized (read_parenthesized_iff.mp reads)
        (inductionHypothesis ofRest left [])).trans ?_
      rw [List.reverse_nil, String.ofList_nil, withText_empty,
        textPart_append (beginsPlain_expression expr _)]
      rfl

/-- A template that is spelled from its parts is read as these parts. -/
theorem readTemplate_of_accepted {location : Location} {parts : List (TemplatePart String)}
    {decoded : List (TemplatePart Expr)}
    (accepted : parts.mapM (TemplatePart.read location) = .ok decoded) :
    readTemplate (String.ofList (parts.flatMap spelling)) location =
      .ok (template (joined decoded)) := by
  have reads := templateParts_spelling accepted (Nat.le_refl _) []
  rw [List.reverse_nil, String.ofList_nil, withText_empty] at reads
  unfold readTemplate
  rw [String.toList_ofList, reads]

/-- The template of one text or of none has the value of that text. -/
theorem compileTemplate_doubleBraces (static : StaticContext) (text : String) :
    ∃ tree, static.compileTemplate (String.ofList (doubleBraces text.toList)) = .ok tree ∧
      ∀ (context : Context) (top : Nat), (context.evaluate tree top).1 = .ok (.ofString text) := by
  have reads : readTemplate (String.ofList (doubleBraces text.toList)) static.location =
      .ok (template (joined [.text text])) := by
    have accepted : [TemplatePart.text text].mapM (TemplatePart.read static.location) =
        .ok [TemplatePart.text text] := rfl
    have whole := readTemplate_of_accepted accepted
    rwa [List.flatMap_singleton] at whole
  unfold StaticContext.compileTemplate
  rw [reads]
  by_cases empty : text = ""
  · subst empty
    exact ⟨.template [], rfl, fun context top => Context.evaluate_ok_iff.mpr rfl⟩
  · have one : joined [.text text] = [.text text] := if_neg (by simpa using empty)
    rw [one]
    refine ⟨.template [.string text], rfl, fun context top => Context.evaluate_ok_iff.mpr ?_⟩
    show Except.ok (Value.ofString (String.join [text])) = .ok (.ofString text)
    rw [show String.join [text] = text from String.empty_append]

/-- The spelling of parts is read as the parts, with all text that meets put together and without
empty text. A text with its braces doubled has that text as its value. -/
theorem readTemplate_spelling :
    (∀ (location : Location) (parts : List (TemplatePart String))
      (decoded : List (TemplatePart Expr)), parts.mapM (TemplatePart.read location) = .ok decoded →
        readTemplate (String.ofList (parts.flatMap spelling)) location =
          .ok (template (joined decoded))) ∧
      ∀ (static : StaticContext) (text : String), ∃ tree,
        static.compileTemplate (String.ofList (doubleBraces text.toList)) = .ok tree ∧
          ∀ (context : Context) (top : Nat), (context.evaluate tree top).1 = .ok (.ofString text) :=
  ⟨fun _ _ _ => readTemplate_of_accepted, compileTemplate_doubleBraces⟩

/-- Braces stand next to expressions and inside them, and text that meets text goes together. -/
theorem readTemplate_spelling_braces :
    let parts : List (TemplatePart String) :=
      [.text "\x7b", .text "a\x7d", .expression "'\x7d'", .text "", .expression "b", .text "\x7d"]
    let decoded : List (TemplatePart Expr) :=
      [.text "\x7b", .text "a\x7d", .expression (.literal "\x7d"), .text "",
        .expression (.path none false [⟨false, .child, .named "b", []⟩]), .text "\x7d"]
    parts.flatMap spelling = "\x7b\x7ba\x7d\x7d\x7b('\x7d')\x7d\x7b(b)\x7d\x7d\x7d".toList ∧
      parts.mapM (TemplatePart.read {}) = .ok decoded ∧
        readTemplate (String.ofList (parts.flatMap spelling)) {} = .ok (template [.text "\x7ba\x7d",
          .expression (.literal "\x7d"),
          .expression (.path none false [⟨false, .child, .named "b", []⟩]), .text "\x7d"]) := by
  intro parts decoded
  have quoted : Expr.read ("(" ++ "'\x7d'" ++ ")") {} = .ok (.literal "\x7d") :=
    read_parenthesized_iff.mpr (by cbv)
  have named : Expr.read ("(" ++ "b" ++ ")") {} =
      .ok (.path none false [⟨false, .child, .named "b", []⟩]) :=
    read_parenthesized_iff.mpr (by cbv)
  have accepted : parts.mapM (TemplatePart.read {}) = .ok decoded := by
    simp only [parts, List.mapM_cons, List.mapM_nil, TemplatePart.read, quoted, named]
    rfl
  exact ⟨by decide, accepted, readTemplate_spelling.1 {} parts decoded accepted⟩

end Expr

end StreamPath
