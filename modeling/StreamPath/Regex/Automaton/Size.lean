/-
The size of an automaton over bytes. States are numbered in the order in which they are added. A
state takes the same room whatever it does, and the lists of where it leads take more; no automaton
may grow beyond a fixed size.
-/

namespace StreamPath.Regex

/-- How far an automaton has grown: the number of its states and the bytes of their lists. -/
structure Automaton where
  states : Nat := 0
  listed : Nat := 0
deriving Repr, DecidableEq

namespace Automaton

/-- The bytes that an automaton takes. -/
def size (automaton : Automaton) : Nat := 32 * automaton.states + automaton.listed

/-- No automaton may take more bytes than this: ten times 2 ^ 20. -/
def largestSize : Nat := 10485760

/-- An automaton with states and bytes of lists added, unless it grows too large. -/
def add (automaton : Automaton) (states listed : Nat) : Option Automaton :=
  (some ⟨automaton.states + states, automaton.listed + listed⟩).filter fun larger =>
    larger.size ≤ largestSize

/-- The bytes that a list of transitions takes. -/
def transitionBytes (count : Nat) : Nat := 8 * count

/-- The bytes that a list of states takes. -/
def stateBytes (count : Nat) : Nat := 4 * count

end Automaton

end StreamPath.Regex
