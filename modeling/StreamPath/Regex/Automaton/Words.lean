/-
A choice of words as an automaton. Words that begin alike share the states of their beginnings, as
long as no word between them ends there: a word that ends comes before all longer ones that are told
after it.
-/

import StreamPath.Regex.Automaton.Size

namespace StreamPath.Regex.Automaton

/-- A word in bytes. -/
abbrev Word := List Nat

/-- Words with one more that begins with a byte. -/
def insertWord (byte : Nat) (rest : Word) : List (Nat × List Word) → List (Nat × List Word)
  | [] => [(byte, [rest])]
  | (other, words) :: groups =>
    if other == byte then (other, rest :: words) :: groups
    else (other, words) :: insertWord byte rest groups

/-- The rests of words by their first bytes; a byte leads on to all words that begin with it. -/
def byFirst (words : List Word) : List (Nat × List Word) :=
  words.foldr (fun word groups =>
    match word with
    | [] => groups
    | byte :: rest => insertWord byte rest groups) []

/-- The runs of words between those that end. -/
def runs : List Word → List (List Word)
  | [] => [[]]
  | [] :: rest => [] :: runs rest
  | word :: rest =>
    match runs rest with
    | run :: others => (word :: run) :: others
    | [] => [[word]]

/-- How many words end at a place. Before the first longer word one counts for all. -/
def ends (words : List Word) : Nat :=
  let first := words.takeWhile List.isEmpty
  let others := words.dropWhile List.isEmpty
  min first.length 1 + others.countP List.isEmpty

/-- The states and the bytes of lists that words take; the depth bounds their lengths. -/
def wordsSize : Nat → List Word → Nat × Nat
  | 0, _ => (0, 0)
  | depth + 1, words =>
    let groups := ((runs words).map byFirst).filter fun group => !group.isEmpty
    if groups.isEmpty then (0, 0)
    else
      let inner := (groups.flatten.map Prod.snd).map (wordsSize depth)
      let listed := groups.map fun group =>
        if group.length == 1 then 0 else transitionBytes group.length
      (groups.length + 1 + (inner.map Prod.fst).sum,
        stateBytes (groups.length + ends words) + listed.sum + (inner.map Prod.snd).sum)

/-- An automaton with a choice of words added. -/
def addWords (words : List Word) (automaton : Automaton) : Option Automaton :=
  let (states, listed) := wordsSize ((words.map List.length).foldl max 0 + 1) words
  automaton.add (states + 1) listed

end StreamPath.Regex.Automaton
