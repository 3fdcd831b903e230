import Determinize.SortedSet.Lemmas

/-!
How sets are made. A `SetHistory` makes a set of nothing, of one element or of a sequence of
elements, puts elements into a set that has a history, or adds the members of another one.
`SetHistory.set` is the set that is made. `SetHistory.elements` are the elements that have been put
into it, in this order and with all repetitions.

`SortedSet.insertNew` puts an element into a set and says whether it is a new one. The search stops
at the first member that does not come before the element, so what it says about the members
behind that one rests on their order.
-/

universe u

namespace Determinize

variable {α : Type u} [TotalOrd α]

namespace Ascending

/-- Puts `a` at its place in an ascending list, and says whether it was not there. -/
def placeNew (a : α) : List α → Bool × List α
  | [] => (true, [a])
  | b :: rest =>
    match compare a b with
    | .lt => (true, a :: b :: rest)
    | .eq => (false, b :: rest)
    | .gt =>
      let placed := placeNew a rest
      (placed.1, b :: placed.2)

theorem placeNew_snd (a : α) (l : List α) : (placeNew a l).2 = place a l := by
  induction l with
  | nil => rfl
  | cons b rest ih => cases h : compare a b <;> simp [placeNew, place, h, ih]

theorem pairwise_placeNew (a : α) {l : List α} (h : l.Pairwise Before) :
    (placeNew a l).2.Pairwise Before :=
  placeNew_snd a l ▸ pairwise_place a h

end Ascending

/-- Inserts `a` and says whether it was missing. -/
def SortedSet.insertNew (s : SortedSet α) (a : α) : Bool × SortedSet α :=
  let placed := Ascending.placeNew a s.toList
  (placed.1, ⟨placed.2, Ascending.pairwise_placeNew a s.ascending⟩)

theorem SortedSet.insertNew_snd (s : SortedSet α) (a : α) : (s.insertNew a).2 = s.insert a :=
  toList_inj (Ascending.placeNew_snd a s.toList)

/-- A way to make a set. -/
inductive SetHistory (α : Type u) where
  | new
  | singleton (element : α)
  | ofList (elements : List α)
  | ofArray (elements : Array α)
  | insert (before : SetHistory α) (element : α)
  | extend (before : SetHistory α) (elements : List α)
  | unionWith (before other : SetHistory α)

namespace SetHistory

/-- The set that is made. -/
def set : SetHistory α → SortedSet α
  | .new => ∅
  | .singleton a => .singleton a
  | .ofList l => .ofList l
  | .ofArray elements => .ofList elements.toList
  | .insert before a => (before.set.insertNew a).2
  | .extend before l => before.set.insertMany l
  | .unionWith before other => before.set ∪ other.set

/-- What is put into the set, one after the other. -/
def elements : SetHistory α → List α
  | .new => []
  | .singleton a => [a]
  | .ofList l => l
  | .ofArray elements => elements.toList
  | .insert before a => before.elements ++ [a]
  | .extend before l => before.elements ++ l
  | .unionWith before other => before.elements ++ other.elements

end SetHistory

end Determinize
