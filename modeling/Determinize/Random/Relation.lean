import Determinize.Log
import Determinize.Random.Draws

/-!
Random relations over the states `0, …, size - 1` and the first lower-case letters.

Every possible transition on a letter and every epsilon transition between different states is
kept or dropped by a draw of its own. Then every state but the first gets one more transition
from some smaller state, so that all states can be reached from the first one. A draw is made for
every possible transition, whatever the probabilities are, so the same draws decide about the
same transitions.
-/

namespace Determinize.Random

/-- The symbol that random relations use for epsilon transitions. -/
def epsilon : Char := 'ε'

/-- The lower-case letters that can be symbols: `count` of them, but at least one. -/
def letters (count : Nat) : List Char :=
  "abcdefghijklmnopqrstuvwxyz".toList.take (max 1 count)

section

variable {σ : Type} (draws : Draws σ)

/-- Keeps each transition for which a number below `probability` is drawn. -/
def select (probability : Float) :
    List (Transition Nat Char) → σ → List (Transition Nat Char) × σ
  | [], s => ([], s)
  | t :: rest, s =>
    let (x, s) := draws.fraction s
    let (kept, s) := select probability rest s
    (if x < probability then t :: kept else kept, s)

/-- The transitions on letters that may leave `source`. -/
def regularCandidates (size : Nat) (alphabet : List Char) (source : Nat) :
    List (Transition Nat Char) :=
  alphabet.flatMap fun symbol => (List.range size).map fun target => ⟨source, symbol, target⟩

/-- The epsilon transitions that may leave `source`. -/
def epsilonCandidates (size source : Nat) : List (Transition Nat Char) :=
  ((List.range size).filter fun target => target ≠ source).map fun target =>
    ⟨source, epsilon, target⟩

/-- The transitions that are kept of those that may leave some states. -/
def selectFrom (size : Nat) (alphabet : List Char) (probability epsilonProbability : Float) :
    List Nat → σ → List (Transition Nat Char) × σ
  | [], s => ([], s)
  | source :: sources, s =>
    let (regular, s) := select draws probability (regularCandidates size alphabet source) s
    let (silent, s) := select draws epsilonProbability (epsilonCandidates size source) s
    let (later, s) :=
      selectFrom size alphabet probability epsilonProbability sources s
    (regular ++ silent ++ later, s)

/-- For each of some states a transition into it, from a smaller state and on some letter. -/
def attach (alphabet : List Char) : List Nat → σ → List (Transition Nat Char) × σ
  | [], s => ([], s)
  | target :: targets, s =>
    let (source, s) := draws.below32 target s
    let (index, s) := draws.below64 alphabet.length s
    let (later, s) := attach alphabet targets s
    (⟨source, alphabet[index]?.getD 'a', target⟩ :: later, s)

/-- The transitions of a random relation, in the order in which they are added. -/
def transitions (s : σ) (size symbols : Nat) (probability epsilonProbability : Float) :
    List (Transition Nat Char) :=
  let alphabet := letters symbols
  let (kept, s) :=
    selectFrom draws size alphabet probability epsilonProbability (List.range size) s
  let (attached, _) := attach draws alphabet ((List.range size).drop 1) s
  kept ++ attached

/-- The random relation that is made by the draws from the source state `s`. -/
def relation (s : σ) (size symbols : Nat) (probability epsilonProbability : Float) :
    Relation Nat Char :=
  (Relation.withEpsilon epsilon).addMany
    (transitions draws s size symbols probability epsilonProbability)

/-- What happens while a random relation is made. -/
def relationEvents (s : σ) (size symbols : Nat) (probability epsilonProbability : Float) :
    List (Event Nat Char) :=
  let empty : Relation Nat Char := Relation.withEpsilon epsilon
  let ts := transitions draws s size symbols probability epsilonProbability
  empty.addManyEvents ts ++ [.generated size (empty.addMany ts).transitions]

end

end Determinize.Random
