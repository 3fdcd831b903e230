import Determinize.Relation.History

/-!
Insertions: the edits that put a transition into a relation. Whether an insertion is about a
regular transition or about an epsilon transition depends on the epsilon symbol alone, so a list of
insertions has a set of regular transitions (`regularSet`) and a set of epsilon transitions
(`epsilonSet`) that can be told without carrying the insertions out. Neither set shows the order of
the insertions or how often they are repeated.
-/

namespace Determinize

/-- A request to put a transition into a relation. -/
inductive Insertion (Q S : Type) where
  | add (transition : Transition Q S)
  | addEpsilon (source target : Q)

namespace Insertion

section

variable {Q S Q' S' : Type}

def edit : Insertion Q S → Edit Q S
  | .add t => .add t
  | .addEpsilon source target => .addEpsilon source target

/-- The state in which the transition starts. -/
def source : Insertion Q S → Q
  | .add t => t.source
  | .addEpsilon source _ => source

/-- The same insertion after states and symbols have been given other names. -/
def rename (f : Q → Q') (g : S → S') : Insertion Q S → Insertion Q' S'
  | .add t => .add ⟨f t.source, g t.symbol, f t.target⟩
  | .addEpsilon source target => .addEpsilon (f source) (f target)

end

variable {Q S : Type} [TotalOrd S]

/-- The source, symbol and target of a regular transition, if one is inserted. -/
def regular? (epsilon : Option S) : Insertion Q S → Option (Q × S × Q)
  | .add t => if epsilon = some t.symbol then none else some (t.source, t.symbol, t.target)
  | .addEpsilon _ _ => none

/-- The source and target of an epsilon transition, if one is inserted. -/
def epsilon? (epsilon : Option S) : Insertion Q S → Option (Q × Q)
  | .add t => if epsilon = some t.symbol then some (t.source, t.target) else none
  | .addEpsilon source target => some (source, target)

variable [TotalOrd Q]

/-- The regular transitions that are inserted while `epsilon` marks epsilon transitions. -/
def regularSet (epsilon : Option S) (insertions : List (Insertion Q S)) :
    SortedSet (Q × S × Q) :=
  .ofList (insertions.filterMap (regular? epsilon))

/-- The epsilon transitions that are inserted while `epsilon` marks epsilon transitions. -/
def epsilonSet (epsilon : Option S) (insertions : List (Insertion Q S)) : SortedSet (Q × Q) :=
  .ofList (insertions.filterMap (epsilon? epsilon))

variable {epsilon : Option S} {insertions : List (Insertion Q S)} {q p : Q} {a : S}

theorem mem_regularSet_iff :
    (q, a, p) ∈ regularSet epsilon insertions ↔ epsilon ≠ some a ∧ .add ⟨q, a, p⟩ ∈ insertions := by
  rw [regularSet, SortedSet.mem_ofList, List.mem_filterMap]
  constructor
  · rintro ⟨i, hi, ht⟩
    cases i with
    | addEpsilon source target => cases ht
    | add t =>
      simp only [regular?] at ht
      split at ht
      · cases ht
      · next regular =>
        cases ht
        exact ⟨regular, hi⟩
  · rintro ⟨regular, hi⟩
    exact ⟨_, hi, if_neg regular⟩

theorem mem_epsilonSet_iff :
    (q, p) ∈ epsilonSet epsilon insertions ↔
      .addEpsilon q p ∈ insertions ∨ ∃ a, epsilon = some a ∧ .add ⟨q, a, p⟩ ∈ insertions := by
  rw [epsilonSet, SortedSet.mem_ofList, List.mem_filterMap]
  constructor
  · rintro ⟨i, hi, hp⟩
    cases i with
    | addEpsilon source target =>
      cases hp
      exact .inl hi
    | add t =>
      simp only [epsilon?] at hp
      split at hp
      · next silent =>
        cases hp
        exact .inr ⟨t.symbol, silent, hi⟩
      · cases hp
  · rintro (hi | ⟨a, silent, hi⟩)
    · exact ⟨_, hi, rfl⟩
    · exact ⟨_, hi, if_pos silent⟩

end Insertion

/-! ### Insertions in a history -/

namespace Edit

variable {Q S : Type}

/-- The insertion that an edit is; a choice of the epsilon symbol is none. -/
def insertion? : Edit Q S → Option (Insertion Q S)
  | .add t => some (.add t)
  | .addEpsilon source target => some (.addEpsilon source target)
  | .setEpsilon _ => none

/-- The insertions among some edits, in the order of the edits. -/
def insertions (edits : List (Edit Q S)) : List (Insertion Q S) := edits.filterMap insertion?

end Edit

namespace Relation

variable {Q S : Type} [TotalOrd Q] [TotalOrd S]

/-- Carries out insertions in order. -/
def insertMany (r : Relation Q S) (insertions : List (Insertion Q S)) : Relation Q S :=
  r.replay (insertions.map Insertion.edit)

/-- An insertion files either an epsilon transition or a regular one, as the epsilon symbol says. -/
theorem edit_insertion_cases (r : Relation Q S) (i : Insertion Q S) :
    (∃ target, i.regular? r.epsilonSymbol = none ∧
      i.epsilon? r.epsilonSymbol = some (i.source, target) ∧
      r.edit i.edit = r.addEpsilon i.source target) ∨
    ∃ a target, i.regular? r.epsilonSymbol = some (i.source, a, target) ∧
      i.epsilon? r.epsilonSymbol = none ∧ r.edit i.edit = r.addRegular ⟨i.source, a, target⟩ := by
  cases i with
  | addEpsilon source target => exact .inl ⟨target, rfl, rfl, rfl⟩
  | add t =>
    by_cases silent : r.epsilonSymbol = some t.symbol
    · refine .inl ⟨t.target, if_pos silent, if_pos silent, ?_⟩
      exact if_pos (isEpsilon_iff.mpr silent)
    · refine .inr ⟨t.symbol, t.target, if_neg silent, if_neg silent, ?_⟩
      exact if_neg (mt isEpsilon_iff.mp silent)

theorem insertMany_append (r : Relation Q S) (insertions more : List (Insertion Q S)) :
    r.insertMany (insertions ++ more) = (r.insertMany insertions).insertMany more := by
  rw [insertMany, List.map_append, replay_append]
  rfl

theorem insertMany_map_add (r : Relation Q S) (ts : List (Transition Q S)) :
    r.insertMany (ts.map .add) = r.addMany ts := by
  rw [insertMany, List.map_map]
  exact replay_map_add r ts

end Relation

end Determinize
