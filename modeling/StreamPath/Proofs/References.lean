/-
References in content against references in attribute values. Two places of a document can hold the
same reference, and each has rules of its own for what it stands for. Both know the five names and
the code points of characters in decimal and hexadecimal digits. Only content takes a plus sign
before the digits and the code point zero as well; about every other reference the two places agree.
-/

import Mathlib.Data.Bool.AllAny
import StreamPath.Stream.Drive

namespace StreamPath

namespace Reference

/-! ### What a reference looks like -/

/-- Whether a text can stand between the ampersand and the semicolon of a reference, in content as
well as in an attribute value. -/
def IsBody (name : List Char) : Prop :=
  name ≠ [] ∧ ∀ c ∈ name, c ∉ ['&', ';', '<', '"', '\x27']

/-- Whether a reference is a number sign and the digits of a code point, decimal, or hexadecimal
after an `x`, with a sign before the digits. -/
def Numbers (sign : List Char) (code : Nat) (name : List Char) : Prop :=
  ∃ digits, number? 10 digits = some code ∧ name = '#' :: (sign ++ digits) ∨
    number? 16 digits = some code ∧ name = '#' :: 'x' :: (sign ++ digits)

/-- Whether a reference is a number that only content takes: one with a plus sign, or zero. -/
def IsDisputed (name : List Char) : Prop :=
  ∃ code c, character? code = some c ∧ (Numbers ['+'] code name ∨ code = 0 ∧ Numbers [] code name)

/-! ### Numbers -/

/-- A number ends in an error at the first character that is no digit. -/
theorem number?_cons_of_none {radix : Nat} {c : Char} (notDigit : Text.hexDigit? c = none)
    (digits : List Char) : number? radix (c :: digits) = none := by
  simp [number?, digit?, notDigit]

theorem number?_cons_plus (radix : Nat) (digits : List Char) :
    number? radix ('+' :: digits) = none := number?_cons_of_none rfl digits

theorem number?_cons_minus (radix : Nat) (digits : List Char) :
    number? radix ('-' :: digits) = none := number?_cons_of_none rfl digits

theorem radixAndDigits_of_head? {text : List Char} (other : text.head? ≠ some 'x') :
    radixAndDigits text = (10, text) := by
  unfold radixAndDigits
  split
  · exact absurd rfl other
  · rfl

theorem numbers_hash_iff {sign text : List Char} {code : Nat} (bare : sign = [] ∨ sign = ['+']) :
    Numbers sign code ('#' :: text) ↔ ∃ digits,
      (radixAndDigits text).2 = sign ++ digits ∧
        number? (radixAndDigits text).1 digits = some code := by
  have decimal : ∀ {digits}, number? 10 digits = some code → (sign ++ digits).head? ≠ some 'x' := by
    intro digits written starts
    rcases bare with rfl | rfl
    · obtain ⟨rest, rfl⟩ := List.head?_eq_some_iff.mp starts
      rw [number?_cons_of_none rfl] at written
      cases written
    · cases starts
  constructor
  · rintro ⟨digits, ⟨written, same⟩ | ⟨written, same⟩⟩
    · obtain ⟨-, rfl⟩ := List.cons.inj same
      rw [radixAndDigits_of_head? (decimal written)]
      exact ⟨digits, rfl, written⟩
    · obtain ⟨-, rfl⟩ := List.cons.inj same
      exact ⟨digits, rfl, written⟩
  · rintro ⟨digits, front, written⟩
    by_cases starts : text.head? = some 'x'
    · obtain ⟨rest, rfl⟩ := List.head?_eq_some_iff.mp starts
      obtain rfl : rest = sign ++ digits := front
      exact ⟨digits, .inr ⟨written, rfl⟩⟩
    · rw [radixAndDigits_of_head? starts] at front written
      obtain rfl : text = sign ++ digits := front
      exact ⟨digits, .inl ⟨written, rfl⟩⟩

/-- References to characters by number begin with a hash. -/
theorem exists_hash_of_numbers {sign name : List Char} {code : Nat}
    (numbers : Numbers sign code name) : ∃ text, name = '#' :: text := by
  obtain ⟨digits, ⟨-, rfl⟩ | ⟨-, rfl⟩⟩ := numbers
  · exact ⟨_, rfl⟩
  · exact ⟨_, rfl⟩

/-- A number has one value, and does not have a sign and also none. -/
theorem Numbers.unique {sign name : List Char} {code other : Nat} (bare : sign = [] ∨ sign = ['+'])
    (one : Numbers sign code name) (two : Numbers [] other name) : sign = [] ∧ code = other := by
  obtain ⟨text, rfl⟩ := exists_hash_of_numbers one
  obtain ⟨digits, front, written⟩ := (numbers_hash_iff bare).mp one
  obtain ⟨digits', front', written'⟩ := (numbers_hash_iff (.inl rfl)).mp two
  obtain rfl : sign ++ digits = digits' := front.symm.trans front'
  rcases bare with rfl | rfl
  · exact ⟨rfl, Option.some.inj (written.symm.trans written')⟩
  · cases (number?_cons_plus _ digits).symm.trans written'

/-! ### What the two rules accept -/

theorem named?_hash (text : List Char) : named? ('#' :: text) = none := by
  simp [named?]

/-- No entity is named with a hash. -/
theorem named?_ne_hash {name : List Char} {c : Char} (named : named? name = some c)
    (text : List Char) :
    name ≠ '#' :: text := by
  rintro rfl
  cases (named?_hash text).symm.trans named

theorem not_numbers_of_ne_hash {name : List Char} (other : ∀ text, name ≠ '#' :: text)
    (sign : List Char) (code : Nat) : ¬Numbers sign code name := by
  intro numbers
  obtain ⟨text, same⟩ := exists_hash_of_numbers numbers
  exact other text same

/-- In content a reference is a name, or the number of a character with or without a plus sign. -/
theorem resolve?_eq_some_iff {name : List Char} {c : Char} :
    resolve? name = some c ↔ named? name = some c ∨
      ∃ code, character? code = some c ∧ (Numbers [] code name ∨ Numbers ['+'] code name) := by
  unfold resolve?
  split
  · next text =>
    simp only [named?_hash, numbers_hash_iff (.inl rfl), numbers_hash_iff (.inr rfl)]
    generalize (radixAndDigits text).1 = radix, (radixAndDigits text).2 = digits
    rw [Option.bind_eq_some_iff]
    split
    · next unsigned =>
      constructor
      · rintro ⟨code, written, stands⟩
        exact .inr ⟨code, stands, .inr ⟨unsigned, rfl, written⟩⟩
      · rintro (named | ⟨code, stands, ⟨_, rfl, written⟩ | ⟨_, same, written⟩⟩)
        · cases named
        · cases (number?_cons_plus _ _).symm.trans written
        · obtain ⟨-, rfl⟩ := List.cons.inj same
          exact ⟨code, written, stands⟩
    · next bare =>
      constructor
      · rintro ⟨code, written, stands⟩
        exact .inr ⟨code, stands, .inl ⟨digits, rfl, written⟩⟩
      · rintro (named | ⟨code, stands, ⟨_, rfl, written⟩ | ⟨_, same, _⟩⟩)
        · cases named
        · exact ⟨code, written, stands⟩
        · exact absurd same (bare _)
  · next other =>
    refine ⟨.inl, fun stands => stands.resolve_right ?_⟩
    rintro ⟨code, -, plain | signed⟩
    · exact not_numbers_of_ne_hash other _ _ plain
    · exact not_numbers_of_ne_hash other _ _ signed

/-- In an attribute value a reference is a name, or the number of a character, without a sign and
not zero. -/
theorem resolve_eq_ok_iff {name : List Char} {c : Char} :
    resolve name = .ok c ↔ named? name = some c ∨
      ∃ code, character? code = some c ∧ code ≠ 0 ∧ Numbers [] code name := by
  unfold resolve
  split
  · next text =>
    simp only [named?_hash, numbers_hash_iff (.inl rfl), List.nil_append, exists_eq_left',
      reduceCtorEq, false_or]
    generalize (radixAndDigits text).1 = radix, (radixAndDigits text).2 = digits
    split
    · next signed =>
      have unwritten : number? radix digits = none := by
        rcases Bool.or_eq_true_iff.mp signed with plus | minus
        · obtain ⟨rest, rfl⟩ := List.head?_eq_some_iff.mp (of_decide_eq_true plus)
          exact number?_cons_plus radix rest
        · obtain ⟨rest, rfl⟩ := List.head?_eq_some_iff.mp (of_decide_eq_true minus)
          exact number?_cons_minus radix rest
      refine iff_of_false nofun ?_
      rintro ⟨code, -, -, written⟩
      cases unwritten.symm.trans written
    · constructor
      · intro resolves
        split at resolves
        · cases resolves
        · cases resolves
        · next code nonzero written =>
          split at resolves
          · next found =>
            exact ⟨code, found.trans (congrArg some (Except.ok.inj resolves)), nonzero, written⟩
          · cases resolves
      · rintro ⟨code, stands, nonzero, written⟩
        split
        · next missing => cases missing.symm.trans written
        · next zero => exact absurd (Option.some.inj (zero.symm.trans written)).symm nonzero
        · next found =>
          obtain rfl := Option.some.inj (found.symm.trans written)
          rw [stands]
  · next other =>
    have noNumber : ¬∃ code, character? code = some c ∧ code ≠ 0 ∧ Numbers [] code name := by
      rintro ⟨code, -, -, numbers⟩
      exact not_numbers_of_ne_hash other _ _ numbers
    rw [or_iff_left noNumber]
    cases named? name with
    | none => exact ⟨nofun, nofun⟩
    | some found => exact ⟨fun same => congrArg some (Except.ok.inj same), fun same =>
        congrArg Except.ok (Option.some.inj same)⟩

/-! ### Both rules -/

/-- What an attribute value takes, content takes as the same character. -/
theorem resolve?_of_resolve {name : List Char} {c : Char} (resolves : resolve name = .ok c) :
    resolve? name = some c := by
  rw [resolve?_eq_some_iff]
  refine (resolve_eq_ok_iff.mp resolves).imp_right ?_
  rintro ⟨code, stands, -, numbers⟩
  exact ⟨code, stands, .inl numbers⟩

/-- The two rules disagree about disputed numbers only. -/
theorem exists_only_in_content_iff {name : List Char} :
    (∃ c, resolve? name = some c ∧ resolve name ≠ .ok c) ↔ IsDisputed name := by
  constructor
  · rintro ⟨c, taken, refused⟩
    rw [ne_eq, resolve_eq_ok_iff, not_or] at refused
    obtain ⟨unnamed, noNumber⟩ := refused
    obtain ⟨code, stands, numbers⟩ := (resolve?_eq_some_iff.mp taken).resolve_left unnamed
    refine ⟨code, c, stands, numbers.symm.imp_right fun plain => ⟨?_, plain⟩⟩
    exact Decidable.byContradiction fun nonzero => noNumber ⟨code, stands, nonzero, plain⟩
  · rintro ⟨code, c, stands, numbers⟩
    refine ⟨c, resolve?_eq_some_iff.mpr (.inr ⟨code, stands, numbers.symm.imp_left And.right⟩), ?_⟩
    rw [ne_eq, resolve_eq_ok_iff]
    rintro (named | ⟨other, _, nonzero, plain⟩)
    · rcases numbers with signed | ⟨-, zero⟩
      · obtain ⟨text, same⟩ := exists_hash_of_numbers signed
        exact named?_ne_hash named text same
      · obtain ⟨text, same⟩ := exists_hash_of_numbers zero
        exact named?_ne_hash named text same
    · rcases numbers with signed | ⟨rfl, zero⟩
      · cases (signed.unique (.inr rfl) plain).1
      · exact nonzero (zero.unique (.inl rfl) plain).2.symm

/-! ### References in texts -/

/-- A name is split off at the semicolon behind it. -/
theorem splitAtSemicolon_append {inside : Char → Bool} {name : List Char}
    (all : ∀ c ∈ name, inside c = true) (ends : inside ';' = false) (rest : List Char) :
    splitAtSemicolon inside (name ++ ';' :: rest) = some (name, rest) := by
  rw [splitAtSemicolon, List.dropWhile_append_of_pos all, List.takeWhile_append_of_pos all]
  simp [ends]

/-- Whether a reference stands for a text in content: wherever it is written it is cut as one piece,
of which a drive gathers the text. -/
def StandsInContent (name text : List Char) : Prop :=
  ∀ behind, ∃ piece, Markup.cut ('&' :: (name ++ ';' :: behind)) = .ok (piece, behind) ∧
    ∀ {σ : Type} (listener : Listener σ) (options : WalkOptions) (position : Nat),
      Drive.piece listener options position piece = Drive.changeScan fun scan => scan.gather text

/-- Whether a reference ends a drive where it stands in content. -/
def FailsInContent (name : List Char) : Prop :=
  ∀ behind, ∃ piece, Markup.cut ('&' :: (name ++ ';' :: behind)) = .ok (piece, behind) ∧
    ∀ {σ : Type} (listener : Listener σ) (options : WalkOptions) (position : Nat),
      ∃ error, Drive.piece listener options position piece = throw error

/-- Whether a reference stands for a text in attribute values: the attribute has the text as the
first part of its value. -/
def StandsInAttribute (name text : List Char) : Prop :=
  ∀ behind rest, unescape behind = .ok rest → ∀ (content : TagContent) key others,
    content.addAll ({ name := key, value := '&' :: (name ++ ';' :: behind) } :: others) =
      (content.add key (text ++ rest)).addAll others

/-- Whether a reference ends the reading of a tag where it stands in an attribute value. -/
def FailsInAttribute (name : List Char) : Prop :=
  ∀ behind (content : TagContent) key others, ∃ error,
    content.addAll ({ name := key, value := '&' :: (name ++ ';' :: behind) } :: others) =
      .error error

section Places

variable {name : List Char} {c : Char}

/-- In content a reference is a piece of its own. -/
theorem cut_reference (body : IsBody name) (behind : List Char) :
    Markup.cut ('&' :: (name ++ ';' :: behind)) = .ok (.reference name, behind) := by
  have inside : ∀ c ∈ name, (c != ';' && c != '&' && c != '<') = true := by
    intro c listed
    have other := body.2 c listed
    simp only [List.mem_cons, not_or] at other
    simp [other]
  show Markup.cutReference _ = _
  rw [Markup.cutReference, splitAtSemicolon_append inside rfl]

theorem standsInContent (body : IsBody name) (taken : resolve? name = some c) :
    StandsInContent name [c] := by
  intro behind
  refine ⟨.reference name, cut_reference body behind, fun listener options position => ?_⟩
  rw [Drive.piece, taken]

theorem failsInContent (body : IsBody name) (refused : resolve? name = none) :
    FailsInContent name := by
  intro behind
  refine ⟨.reference name, cut_reference body behind, fun listener options position => ?_⟩
  rw [Drive.piece, refused]
  exact ⟨_, rfl⟩

/-- In an attribute a reference is resolved where it stands. -/
theorem unescape_reference (body : IsBody name) (behind : List Char) :
    unescape ('&' :: (name ++ ';' :: behind)) =
      (resolve name >>= fun first => unescape behind >>= fun others => .ok (first :: others)) := by
  have inside : ∀ c ∈ name, isInside c = true := by
    intro c listed
    have other := body.2 c listed
    simp only [List.mem_cons, not_or] at other
    simp [isInside, other]
  have split := splitAtSemicolon_append inside rfl behind
  rw [unescape, if_pos rfl]
  split
  · next front rest found =>
    obtain ⟨rfl, rfl⟩ := Prod.mk.inj (Option.some.inj (split.symm.trans found))
    rfl
  · next missing => cases missing.symm.trans split

theorem standsInAttribute (body : IsBody name) (taken : resolve name = .ok c) :
    StandsInAttribute name [c] := by
  intro behind rest reads content key others
  have value : unescape ('&' :: (name ++ ';' :: behind)) = .ok ([c] ++ rest) := by
    rw [unescape_reference body, taken, reads]
    rfl
  rw [TagContent.addAll, value]

theorem failsInAttribute (body : IsBody name) {fault : ReferenceFault}
    (refused : resolve name = .error fault) : FailsInAttribute name := by
  intro behind content key others
  have value : unescape ('&' :: (name ++ ';' :: behind)) = .error fault := by
    rw [unescape_reference body, refused]
    rfl
  rw [TagContent.addAll, value]
  exact ⟨_, rfl⟩

/-- A reference in content does not both stand for a text and fail. -/
theorem StandsInContent.not_fails {text : List Char} (stands : StandsInContent name text) :
    ¬FailsInContent name := by
  intro fails
  obtain ⟨piece, cuts, gathers⟩ := stands []
  obtain ⟨again, cutsAgain, stops⟩ := fails []
  obtain ⟨rfl, -⟩ := Prod.mk.inj (Except.ok.inj (cuts.symm.trans cutsAgain))
  let listener : Listener Unit := ⟨pure (), pure ()⟩
  obtain ⟨error, stopped⟩ := stops listener {} 0
  cases congrFun ((gathers listener {} 0).symm.trans stopped) default

/-- A reference does not both stand for a text and fail. -/
theorem StandsInAttribute.not_fails {text : List Char} (stands : StandsInAttribute name text) :
    ¬FailsInAttribute name := by
  intro fails
  have ends : unescape [] = .ok [] := unescape_of_not_mem List.not_mem_nil
  obtain ⟨error, stopped⟩ := fails [] { scope := Table.empty } [] []
  cases (stands [] [] ends { scope := Table.empty } [] []).symm.trans stopped

end Places

/-! ### Where the two places agree -/

/-- Whether a reference fails in content as well as in attribute values, or stands for one text in
both. -/
def Agrees (name : List Char) : Prop :=
  FailsInContent name ∧ FailsInAttribute name ∨
    ∃ text, StandsInContent name text ∧ StandsInAttribute name text

/-- Content and attribute values agree about a reference unless it is a number with a plus sign or
the number zero. Content takes such a number where it is that of a character, and an attribute value
refuses it. -/
theorem agrees_iff {name : List Char} (body : IsBody name) :
    (Agrees name ↔ ¬IsDisputed name) ∧
      (IsDisputed name → (∃ c, StandsInContent name [c]) ∧ FailsInAttribute name) := by
  rw [← exists_only_in_content_iff]
  cases inAttribute : resolve name with
  | ok c =>
    have inContent := resolve?_of_resolve inAttribute
    have same : ¬∃ c', resolve? name = some c' ∧ .ok c ≠ (.ok c' : Except ReferenceFault Char) := by
      rintro ⟨c', taken, other⟩
      exact other (congrArg Except.ok (Option.some.inj (inContent.symm.trans taken)))
    have both := And.intro (standsInContent body inContent) (standsInAttribute body inAttribute)
    exact ⟨iff_of_true (.inr ⟨[c], both⟩) same, fun disputed => absurd disputed same⟩
  | error fault =>
    have fails := failsInAttribute body inAttribute
    cases inContent : resolve? name with
    | none =>
      refine ⟨iff_of_true (.inl ⟨failsInContent body inContent, fails⟩) ?_, ?_⟩
      · rintro ⟨c, taken, -⟩
        cases taken
      · rintro ⟨c, taken, -⟩
        cases taken
    | some c =>
      have stands := standsInContent body inContent
      refine ⟨iff_of_false ?_ (not_not_intro ⟨c, rfl, nofun⟩), fun _ => ⟨⟨c, stands⟩, fails⟩⟩
      rintro (⟨failsToo, -⟩ | ⟨text, -, standsToo⟩)
      · exact stands.not_fails failsToo
      · exact standsToo.not_fails fails

theorem agrees_iff_decimal : IsBody "#65".toList ∧ Agrees "#65".toList := by
  have body : IsBody "#65".toList := ⟨List.cons_ne_nil _ _, List.all_iff_forall_prop.mp (by decide)⟩
  refine ⟨body, (agrees_iff body).1.mpr ?_⟩
  rw [← exists_only_in_content_iff]
  rintro ⟨c, taken, refused⟩
  obtain rfl : 'A' = c := Option.some.inj taken
  exact refused rfl

/-- The number of a letter with a plus sign is the letter in content and an error in an attribute
value. -/
theorem plus_sign_in_content_only :
    IsBody "#+65".toList ∧ ¬Agrees "#+65".toList ∧ StandsInContent "#+65".toList ['A'] ∧
      FailsInAttribute "#+65".toList := by
  have body : IsBody "#+65".toList :=
    ⟨List.cons_ne_nil _ _, List.all_iff_forall_prop.mp (by decide)⟩
  have stands : StandsInContent "#+65".toList ['A'] := standsInContent body rfl
  have fails : FailsInAttribute "#+65".toList := failsInAttribute body rfl
  refine ⟨body, ?_, stands, fails⟩
  rintro (⟨failsToo, -⟩ | ⟨text, -, standsToo⟩)
  · exact stands.not_fails failsToo
  · exact standsToo.not_fails fails

end Reference

end StreamPath
