import Determinize.Relation.Basic

/-!
A small automaton for demonstrations, in which a space marks epsilon transitions.
-/

namespace Determinize.Demo

def start : Nat := 1

def transitions : List (Transition Nat Char) := [
  ⟨1, ' ', 2⟩, ⟨2, ' ', 3⟩, ⟨2, 'c', 10⟩, ⟨4, 'a', 5⟩, ⟨4, 'a', 6⟩, ⟨6, ' ', 7⟩, ⟨1, 'b', 4⟩]

def empty : Relation Nat Char := Relation.withEpsilon ' '

def relation : Relation Nat Char := empty.addMany transitions

end Determinize.Demo
