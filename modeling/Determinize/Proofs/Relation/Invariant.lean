import Determinize.Demo
import Determinize.Proofs.Index.Contents
import Determinize.Relation.Session

/-!
The representation invariant of a relation and the histories that keep it.

* `WellFormed` says that the three indices and the count belong together: `next` and `edges` file
  the same symbols, nothing empty is stored, every transition is counted once, and the epsilon
  symbol is on no regular transition.
* `WellFormed.edit` is the step lemma: every edit, refused ones included, keeps the invariant.
  The choice of an epsilon symbol keeps it because a relation without transitions stores nothing
  (`WellFormed.not_mem_edges`).
* `Session.constructible_of_mem`: whatever a program does with its relations, each of them has a
  history of its own that starts from an empty relation; cloning and building add nothing to
  that, and `reachable_iff_constructible` says that every such history can be had. So
  `Reachable.wellFormed` follows from the step lemma by induction on that history.
-/

namespace Determinize

variable {Q S : Type} [TotalOrd Q] [TotalOrd S]

namespace Relation

/-- The indices and the count of a relation belong together. -/
structure WellFormed (r : Relation Q S) : Prop where
  /-- Targets are filed under a state and a symbol exactly if the symbol is an edge of the
  state. -/
  mem_keys_next : ∀ (q : Q) (a : S), (q, a) ∈ r.next.keys ↔ a ∈ r.edges.lookup q
  next_filled : r.next.Filled
  epsilon_filled : r.epsilon.Filled
  edges_filled : r.edges.Filled
  /-- Every stored transition is counted, once. -/
  transitions_eq : r.transitions = r.next.size + r.epsilon.size
  /-- The epsilon symbol is no edge. -/
  not_epsilon : ∀ (q : Q) (a : S), a ∈ r.edges.lookup q → r.epsilonSymbol ≠ some a

variable {r : Relation Q S}

theorem wellFormed_empty (symbol : Option S) : (empty symbol : Relation Q S).WellFormed where
  mem_keys_next _ a := iff_of_false List.not_mem_nil (SortedSet.not_mem_empty a)
  next_filled := Index.filled_empty
  epsilon_filled := Index.filled_empty
  edges_filled := Index.filled_empty
  transitions_eq := rfl
  not_epsilon _ a h := absurd h (SortedSet.not_mem_empty a)

/-! ### One edit -/

theorem WellFormed.addEpsilon (h : r.WellFormed) (source target : Q) :
    (r.addEpsilon source target).WellFormed where
  mem_keys_next := h.mem_keys_next
  next_filled := h.next_filled
  epsilon_filled := h.epsilon_filled.add
  edges_filled := h.edges_filled
  transitions_eq := by
    have counted := h.transitions_eq
    simp only [Relation.addEpsilon, Index.size_add]
    split <;> omega
  not_epsilon := h.not_epsilon

theorem WellFormed.addRegular (h : r.WellFormed) {t : Transition Q S}
    (regular : r.epsilonSymbol ≠ some t.symbol) : (r.addRegular t).WellFormed where
  mem_keys_next q a := by
    simp only [Relation.addRegular]
    rw [Index.mem_keys_add, Index.mem_lookup_add, h.mem_keys_next, Prod.mk.injEq]
  next_filled := h.next_filled.add
  epsilon_filled := h.epsilon_filled
  edges_filled := h.edges_filled.add
  transitions_eq := by
    have counted := h.transitions_eq
    simp only [Relation.addRegular, Index.size_add]
    split <;> omega
  not_epsilon q a ha := by
    rcases Index.mem_lookup_add.mp ha with ⟨-, rfl⟩ | ha
    · exact regular
    · exact h.not_epsilon q a ha

theorem WellFormed.add (h : r.WellFormed) (t : Transition Q S) : (r.add t).WellFormed := by
  unfold Relation.add
  split
  next => exact h.addEpsilon t.source t.target
  next regular => exact h.addRegular fun eq => regular (isEpsilon_iff.mpr eq)

/-- As long as nothing is counted, no state has an edge. -/
theorem WellFormed.not_mem_edges (h : r.WellFormed) (none : r.transitions = 0) (q : Q) (a : S) :
    ¬ a ∈ r.edges.lookup q := by
  have counted := h.transitions_eq
  have nothing : r.next.keys = [] := h.next_filled.keys_eq_nil (by omega)
  rw [← h.mem_keys_next, nothing]
  exact List.not_mem_nil

theorem WellFormed.setEpsilon (h : r.WellFormed) {symbol : S} {r' : Relation Q S}
    (accepted : r.setEpsilon symbol = .ok r') : r'.WellFormed := by
  unfold Relation.setEpsilon at accepted
  split at accepted
  next =>
    cases accepted
    exact h
  next =>
    split at accepted
    next => cases accepted
    next hzero =>
      have none : r.transitions = 0 := by omega
      cases accepted
      exact { h with
        not_epsilon := fun q a ha => absurd ha (h.not_mem_edges none q a) }

theorem WellFormed.edit (h : r.WellFormed) (e : Edit Q S) : (r.edit e).WellFormed := by
  cases e with
  | add t => exact h.add t
  | addEpsilon source target => exact h.addEpsilon source target
  | setEpsilon symbol =>
    simp only [Relation.edit]
    cases hset : r.setEpsilon symbol with
    | ok r' => exact h.setEpsilon hset
    | error _ => exact h

/-! ### Histories -/

theorem WellFormed.replay (h : r.WellFormed) (edits : List (Edit Q S)) :
    (r.replay edits).WellFormed := by
  induction edits generalizing r with
  | nil => exact h
  | cons e edits ih => exact ih (h.edit e)

theorem Constructible.wellFormed (h : r.Constructible) : r.WellFormed := by
  obtain ⟨symbol, edits, rfl⟩ := h
  exact (wellFormed_empty symbol).replay edits

theorem constructible_empty (symbol : Option S) : (empty symbol : Relation Q S).Constructible :=
  ⟨symbol, [], rfl⟩

theorem Constructible.edit (h : r.Constructible) (e : Edit Q S) : (r.edit e).Constructible := by
  obtain ⟨symbol, edits, rfl⟩ := h
  refine ⟨symbol, edits ++ [e], ?_⟩
  rw [replay_append]
  rfl

end Relation

theorem Builder.constructible_of_build {b : Builder Q S} {r : Relation Q S}
    (built : b.build = .ok r) : r.Constructible := by
  unfold Builder.build at built
  cases hsymbol : b.epsilonSymbol with
  | error e =>
    rw [hsymbol] at built
    cases built
  | ok symbol =>
    rw [hsymbol] at built
    cases built
    exact ⟨symbol, b.edits, rfl⟩

/-! ### Programs with several relations -/

namespace Session

/-- One more relation with a history is held. -/
theorem constructible_concat {session : Session Q S} {made : Relation Q S}
    (h : ∀ r ∈ session, r.Constructible) (hmade : made.Constructible) :
    ∀ r ∈ session ++ [made], r.Constructible := by
  intro r hr
  rcases List.mem_append.mp hr with hr | hr
  · exact h r hr
  · rw [List.mem_singleton.mp hr]
    exact hmade

theorem constructible_call {session : Session Q S} (h : ∀ r ∈ session, r.Constructible)
    (c : Call Q S) : ∀ r ∈ session.call c, r.Constructible := by
  cases c with
  | withEpsilon symbol => exact constructible_concat h (Relation.constructible_empty (some symbol))
  | withoutEpsilon => exact constructible_concat h (Relation.constructible_empty none)
  | build builder =>
    simp only [call]
    cases hbuild : builder.build with
    | error e => exact h
    | ok built => exact constructible_concat h (Builder.constructible_of_build hbuild)
  | clone index =>
    intro r hr
    rcases List.mem_append.mp hr with hr | hr
    · exact h r hr
    · exact h r (List.mem_of_getElem? (Option.mem_toList.mp hr))
  | edit index e =>
    intro r hr
    obtain ⟨i, hi⟩ := List.mem_iff_getElem?.mp hr
    rw [call, List.getElem?_modify] at hi
    obtain ⟨original, horiginal, rfl⟩ := Option.map_eq_some_iff.mp hi
    have held : original.Constructible := h original (List.mem_of_getElem? horiginal)
    split
    next => exact held.edit e
    next => exact held

/-- Every relation in a session has a history of its own. -/
theorem constructible_of_mem {calls : List (Call Q S)} {r : Relation Q S}
    (h : r ∈ after calls) : r.Constructible := by
  suffices ∀ session : Session Q S, (∀ r ∈ session, r.Constructible) →
      ∀ r ∈ calls.foldl call session, r.Constructible from
    this [] (fun r hr => absurd hr List.not_mem_nil) r h
  intro session held
  clear h
  induction calls generalizing session with
  | nil => exact held
  | cons c calls ih => exact ih (session.call c) (constructible_call held c)

/-- Editing the only relation that a program holds, edit by edit. -/
theorem foldl_call_edit (r : Relation Q S) (edits : List (Edit Q S)) :
    (edits.map (Call.edit 0)).foldl call [r] = [r.replay edits] := by
  induction edits generalizing r with
  | nil => rfl
  | cons e edits ih => exact ih (r.edit e)

/-- A program that makes one relation and edits it. -/
def ofHistory (symbol : Option S) (edits : List (Edit Q S)) : List (Call Q S) :=
  (match symbol with
    | some symbol => .withEpsilon symbol
    | none => .withoutEpsilon) :: edits.map (.edit 0)

theorem after_ofHistory (symbol : Option S) (edits : List (Edit Q S)) :
    after (ofHistory symbol edits) = [(Relation.empty symbol).replay edits] := by
  cases symbol with
  | none => exact foldl_call_edit (.empty none) edits
  | some symbol => exact foldl_call_edit (.empty (some symbol)) edits

end Session

/-- What a program can come to hold is what arises from an empty relation by some history. -/
theorem Relation.reachable_iff_constructible {r : Relation Q S} :
    r.Reachable ↔ r.Constructible := by
  constructor
  · rintro ⟨calls, hr⟩
    exact Session.constructible_of_mem hr
  · rintro ⟨symbol, edits, rfl⟩
    refine ⟨Session.ofHistory symbol edits, ?_⟩
    rw [Session.after_ofHistory]
    exact List.mem_cons_self

theorem Relation.Reachable.wellFormed {r : Relation Q S} (h : r.Reachable) : r.WellFormed :=
  (Relation.reachable_iff_constructible.mp h).wellFormed

theorem Demo.reachable_relation : Demo.relation.Reachable :=
  Relation.reachable_iff_constructible.mpr
    ⟨some ' ', Demo.transitions.map .add, (Relation.replay_map_add _ _).symm⟩

end Determinize
