import Determinize.Random.Relation

/-!
Making a random relation where it can fail. No number is below zero, so a draw below zero fails, and
so does taking a letter that there is not. `relationChecked` stops at the first failure.
-/

namespace Determinize

/-- What can go wrong while a random relation is made. -/
inductive DrawFailure where
  | emptyRange
  | noLetter (index count : Nat)
  deriving DecidableEq, Repr

/-- A draw below a bound that must not be zero. -/
def Draws.checked {σ : Type} (draw : Nat → σ → Nat × σ) (bound : Nat) (s : σ) :
    Except DrawFailure (Nat × σ) :=
  if bound = 0 then .error .emptyRange else .ok (draw bound s)

namespace Random

/-- The letter with an index. -/
def letterAt (alphabet : List Char) (index : Nat) : Except DrawFailure Char :=
  match alphabet[index]? with
  | some a => .ok a
  | none => .error (.noLetter index alphabet.length)

section

variable {σ : Type} (draws : Draws σ)

/-- `attach`, as long as nothing fails. -/
def attachChecked (alphabet : List Char) : List Nat → σ →
    Except DrawFailure (List (Transition Nat Char) × σ)
  | [], s => .ok ([], s)
  | target :: targets, s => do
    let (source, s) ← Draws.checked draws.below32 target s
    let (index, s) ← Draws.checked draws.below64 alphabet.length s
    let symbol ← letterAt alphabet index
    let (later, s) ← attachChecked alphabet targets s
    return (⟨source, symbol, target⟩ :: later, s)

/-- `relation`, as long as nothing fails. -/
def relationChecked (s : σ) (size symbols : Nat) (probability epsilonProbability : Float) :
    Except DrawFailure (Relation Nat Char) := do
  let alphabet := letters symbols
  let (kept, s) :=
    selectFrom draws size alphabet probability epsilonProbability (List.range size) s
  let (attached, _) ← attachChecked draws alphabet ((List.range size).drop 1) s
  return (Relation.withEpsilon epsilon).addMany (kept ++ attached)

end

end Random

end Determinize
