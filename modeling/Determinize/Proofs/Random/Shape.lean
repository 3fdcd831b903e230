import Determinize.Proofs.Random.Candidates
import Determinize.Proofs.Relation.Counting
import Determinize.Proofs.SortedSet.Canonical

/-!
The shape of random relations.

* `of_mem_transitions`: every transition that is made is one of the candidates, also those that are
  attached in the end. `Shaped` is what follows of the states, of the letters and of the number of
  transitions, whatever is drawn.
* `le_transitions_relation_of_all`, `isTree_of_none`: the two bounds for the number of transitions
  are the numbers that there are if everything is kept and if nothing is kept.
* `relation_shape` adds that nothing fails on the way.
-/

namespace Determinize.Random

variable {σ : Type} {draws : Draws σ} {s : σ} {size symbols q q' : Nat} {a : Char} {p e : Float}
  {t : Transition Nat Char}

/-! ### Transitions -/

/-- What is attached in the end. -/
def attached (draws : Draws σ) (s : σ) (size symbols : Nat) (p e : Float) :
    List (Transition Nat Char) :=
  (attach draws (letters symbols) ((List.range size).drop 1)
    (selectFrom draws size (letters symbols) p e (List.range size) s).2).1

theorem transitions_eq_append (draws : Draws σ) (s : σ) (size symbols : Nat) (p e : Float) :
    transitions draws s size symbols p e =
      (selectFrom draws size (letters symbols) p e (List.range size) s).1 ++
        attached draws s size symbols p e := rfl

theorem of_mem_attached (bounded : draws.Bounded) (h : t ∈ attached draws s size symbols p e) :
    t.source < t.target ∧ t.target < size ∧ t.symbol ∈ letters symbols := by
  obtain ⟨hsource, ha⟩ := of_mem_attach bounded (letters_ne_nil symbols)
    (fun _ => pos_of_mem_drop_range) h
  have target : t.target ∈ (List.range size).drop 1 := by
    rw [← map_target_attach draws (letters symbols) ((List.range size).drop 1)]
    exact List.mem_map_of_mem h
  exact ⟨hsource, (mem_drop_range.mp target).2, ha⟩

/-- Whatever is drawn, only candidates become transitions. -/
theorem of_mem_transitions (bounded : draws.Bounded)
    (h : t ∈ transitions draws s size symbols p e) :
    t ∈ candidates size (letters symbols) (List.range size) := by
  rcases List.mem_append.mp h with h | h
  · exact (selectFrom_sublist_candidates p e (List.range size) s).subset h
  · obtain ⟨below, hq, ha⟩ := of_mem_attached bounded h
    exact mem_candidates_iff.mpr ⟨Nat.lt_trans below hq, hq, .inl ha⟩

theorem mem_epsilonSuccessors_relation :
    q' ∈ (relation draws s size symbols p e).epsilonSuccessors q ↔
      ⟨q, epsilon, q'⟩ ∈ transitions draws s size symbols p e := by
  refine Relation.mem_epsilonSuccessors_addMany.trans ⟨?_, fun h => ⟨epsilon, rfl, h⟩⟩
  rintro ⟨a, same, h⟩
  exact Option.some.inj same ▸ h

theorem of_mem_nextStates (bounded : draws.Bounded)
    (h : q' ∈ (relation draws s size symbols p e).nextStates q a) :
    q < size ∧ a ∈ letters symbols ∧ q' < size := by
  obtain ⟨ne, ht⟩ := mem_nextStates_relation.mp h
  obtain ⟨hq, hq', ha | ⟨silent, -⟩⟩ := mem_candidates_iff.mp (of_mem_transitions bounded ht)
  · exact ⟨hq, ha, hq'⟩
  · exact absurd silent ne

theorem of_mem_epsilonSuccessors (bounded : draws.Bounded)
    (h : q' ∈ (relation draws s size symbols p e).epsilonSuccessors q) :
    q < size ∧ q' < size ∧ q' ≠ q := by
  have ht := mem_epsilonSuccessors_relation.mp h
  obtain ⟨hq, hq', ha | ⟨-, ne⟩⟩ := mem_candidates_iff.mp (of_mem_transitions bounded ht)
  · exact absurd rfl (ne_epsilon_of_mem_letters ha)
  · exact ⟨hq, hq', ne⟩

/-! ### The number of transitions -/

theorem transitions_relation_le (bounded : draws.Bounded) :
    (relation draws s size symbols p e).transitions ≤
      letterCount symbols * size ^ 2 + size * (size - 1) := by
  rw [← length_letters, ← length_regularTriples, ← length_silentPairs]
  refine (Relation.holds_addMany _ _).transitions_le _ _ (fun q a q' h => ?_) fun q q' h => ?_
  · exact mem_regularTriples.mpr (of_mem_nextStates bounded h)
  · exact mem_silentPairs.mpr (of_mem_epsilonSuccessors bounded h)

/-- If every number is below its probability, then all candidates are there. -/
theorem le_transitions_relation_of_all
    (regular : ∀ x ∈ regularNumbers draws size (letters symbols) (List.range size) s, x < p)
    (silent : ∀ x ∈ silentNumbers draws size (letters symbols) (List.range size) s, x < e) :
    letterCount symbols * size ^ 2 + size * (size - 1) ≤
      (relation draws s size symbols p e).transitions := by
  have made : ∀ {t}, t ∈ candidates size (letters symbols) (List.range size) →
      t ∈ transitions draws s size symbols p e := fun h => by
    rw [transitions_eq_append, selectFrom_eq_candidates regular silent]
    exact List.mem_append_left _ h
  rw [← length_letters, ← length_regularTriples, ← length_silentPairs]
  refine (Relation.holds_addMany _ _).le_transitions _ _
    (nodup_regularTriples (nodup_letters symbols)) (nodup_silentPairs size)
    (fun q a q' h => ?_) fun q q' h => ?_
  · obtain ⟨hq, ha, hq'⟩ := mem_regularTriples.mp h
    exact mem_nextStates_relation.mpr
      ⟨ne_epsilon_of_mem_letters ha, made (mem_candidates_iff.mpr ⟨hq, hq', .inl ha⟩)⟩
  · obtain ⟨hq, hq', ne⟩ := mem_silentPairs.mp h
    exact mem_epsilonSuccessors_relation.mpr
      (made (mem_candidates_iff.mpr ⟨hq, hq', .inr ⟨rfl, ne⟩⟩))

/-! ### Attached transitions -/

/-- What the attached transitions say. -/
def attachedTriples (draws : Draws σ) (s : σ) (size symbols : Nat) (p e : Float) :
    List (Nat × Char × Nat) :=
  (attached draws s size symbols p e).map fun t => (t.source, t.symbol, t.target)

theorem mem_attachedTriples : (q, a, q') ∈ attachedTriples draws s size symbols p e ↔
    ⟨q, a, q'⟩ ∈ attached draws s size symbols p e := by
  constructor
  · intro h
    obtain ⟨t, ht, same⟩ := List.mem_map.mp h
    cases same
    exact ht
  · exact fun h => List.mem_map_of_mem h

theorem map_target_attachedTriples (draws : Draws σ) (s : σ) (size symbols : Nat) (p e : Float) :
    (attachedTriples draws s size symbols p e).map (fun x => x.2.2) = (List.range size).drop 1 := by
  rw [attachedTriples, List.map_map]
  exact map_target_attach draws (letters symbols) _ _

theorem nodup_drop_range (size : Nat) : ((List.range size).drop 1).Nodup :=
  List.nodup_range.sublist (List.drop_sublist 1 _)

theorem nodup_attachedTriples : (attachedTriples draws s size symbols p e).Nodup := by
  refine List.Nodup.of_map (fun x => x.2.2) ?_
  rw [map_target_attachedTriples]
  exact nodup_drop_range size

theorem length_attachedTriples (draws : Draws σ) (s : σ) (size symbols : Nat) (p e : Float) :
    (attachedTriples draws s size symbols p e).length = size - 1 := by
  have length := congrArg List.length (map_target_attachedTriples draws s size symbols p e)
  rwa [List.length_map, List.length_drop, List.length_range] at length

theorem le_transitions_relation (bounded : draws.Bounded) :
    size - 1 ≤ (relation draws s size symbols p e).transitions := by
  rw [← length_attachedTriples draws s size symbols p e]
  refine (Relation.holds_addMany _ _).le_transitions _ [] nodup_attachedTriples .nil
    (fun q a q' h => ?_) nofun
  have ht := mem_attachedTriples.mp h
  exact mem_nextStates_relation.mpr
    ⟨ne_epsilon_of_mem_letters (of_mem_attached bounded ht).2.2, List.mem_append_right _ ht⟩

/-! ### Relations with nothing but attached transitions -/

/-- Every state but the first has one incoming transition, and there are no others. -/
structure IsTree (r : Relation Nat Char) (size : Nat) : Prop where
  transitions_eq : r.transitions = size - 1
  incoming : ∀ q, 0 < q → q < size → ∃! x : Nat × Char, q ∈ r.nextStates x.1 x.2
  root : ∀ q a, ¬ 0 ∈ r.nextStates q a
  silent : ∀ q, r.epsilonSuccessors q = ∅

section

variable (regular : ∀ x ∈ regularNumbers draws size (letters symbols) (List.range size) s, ¬ x < p)
  (silent : ∀ x ∈ silentNumbers draws size (letters symbols) (List.range size) s, ¬ x < e)

include regular silent

/-- If no number is below its probability, then nothing is there but what is attached. -/
theorem transitions_eq_attached :
    transitions draws s size symbols p e = attached draws s size symbols p e := by
  rw [transitions_eq_append, selectFrom_eq_nil regular silent, List.nil_append]

theorem isTree_of_none (bounded : draws.Bounded) :
    IsTree (relation draws s size symbols p e) size := by
  have only := transitions_eq_attached regular silent
  have noSilent : ∀ q q', ¬ q' ∈ (relation draws s size symbols p e).epsilonSuccessors q := by
    intro q q' h
    rw [mem_epsilonSuccessors_relation, only] at h
    exact ne_epsilon_of_mem_letters (of_mem_attached bounded h).2.2 rfl
  have regularOnly : ∀ q a q', q' ∈ (relation draws s size symbols p e).nextStates q a →
      ⟨q, a, q'⟩ ∈ attached draws s size symbols p e := by
    intro q a q' h
    exact only ▸ (mem_nextStates_relation.mp h).2
  refine ⟨Nat.le_antisymm ?_ (le_transitions_relation bounded), fun q positive hq => ?_,
    fun q a h => ?_, fun q => SortedSet.eq_empty_iff.mpr (noSilent q)⟩
  · rw [← length_attachedTriples draws s size symbols p e]
    refine (Relation.holds_addMany _ _).transitions_le _ [] (fun q a q' h => ?_)
      fun q q' h => absurd h (noSilent q q')
    exact mem_attachedTriples.mpr (regularOnly q a q' h)
  · obtain ⟨t, ht, rfl⟩ := exists_mem_attach draws (letters symbols)
      (mem_drop_range.mpr ⟨positive, hq⟩) (selectFrom draws size (letters symbols) p e
        (List.range size) s).2
    refine ⟨(t.source, t.symbol), ?_, fun x hx => ?_⟩
    · exact mem_nextStates_relation.mpr
        ⟨ne_epsilon_of_mem_letters (of_mem_attached bounded ht).2.2, only ▸ ht⟩
    · have same := eq_of_mem_attach (nodup_drop_range size) (regularOnly x.1 x.2 t.target hx) ht rfl
      rw [← same]
  · exact Nat.not_lt_zero q (of_mem_attached bounded (regularOnly q a 0 h)).1

end

/-! ### The shape -/

/-- What a random relation looks like over the first `size` states and the first `count` letters. -/
structure Shaped (r : Relation Nat Char) (size count : Nat) : Prop where
  nextStates : ∀ q a, ∀ q' ∈ r.nextStates q a, q < size ∧ q' < size
  epsilonSuccessors : ∀ q, ∀ q' ∈ r.epsilonSuccessors q, q < size ∧ q' < size ∧ q' ≠ q
  alphabet : ∀ a ∈ r.alphabet, ∃ i < count, a = letter i
  incoming : ∀ q, 0 < q → q < size → ∃ q' < q, ∃ a, q ∈ r.nextStates q' a
  states_eq : 2 ≤ size → r.states.toList = List.range size
  le_transitions : size - 1 ≤ r.transitions
  transitions_le : r.transitions ≤ count * size ^ 2 + size * (size - 1)

theorem toList_states_relation (bounded : draws.Bounded) (two : 2 ≤ size) :
    (relation draws s size symbols p e).states.toList = List.range size := by
  have ascending : (List.range size).Pairwise Before :=
    List.pairwise_lt_range.imp Nat.compare_eq_lt.mpr
  refine SortedSet.toList_eq_iff.mpr ⟨ascending, fun q => ?_⟩
  rw [List.mem_range]
  constructor
  · intro hq
    rcases Nat.eq_zero_or_pos q with rfl | positive
    · -- the only state that is smaller than the second one is the first
      obtain ⟨q', below, a, -, h⟩ := exists_incoming bounded Nat.one_pos two s symbols p e
      obtain rfl : q' = 0 := by omega
      exact Relation.source_mem_states_of_nextStates h
    · obtain ⟨q', -, a, -, h⟩ := exists_incoming bounded positive hq s symbols p e
      exact Relation.mem_states_of_mem_nextStates h
  · intro h
    obtain ⟨t, ht, hq⟩ := Relation.mem_states_addMany.mp h
    obtain ⟨hsource, htarget, -⟩ := mem_candidates_iff.mp (of_mem_transitions bounded ht)
    rcases hq with rfl | rfl
    · exact hsource
    · exact htarget

theorem letter_of_mem_alphabet (bounded : draws.Bounded)
    (h : a ∈ (relation draws s size symbols p e).alphabet) :
    ∃ i < letterCount symbols, a = letter i := by
  have holds := Relation.holds_addMany (some epsilon) (transitions draws s size symbols p e)
  obtain ⟨q, q', member⟩ := (holds.mem_alphabet (Relation.wellFormed_addMany _ _)).mp h
  have ha := (of_mem_nextStates bounded ((holds.mem_nextStates q a q').mpr member)).2.1
  rw [letters_eq] at ha
  obtain ⟨i, hi, rfl⟩ := List.mem_map.mp ha
  exact ⟨i, List.mem_range.mp hi, rfl⟩

theorem shaped_relation (bounded : draws.Bounded) (s : σ) (size symbols : Nat) (p e : Float) :
    Shaped (relation draws s size symbols p e) size (letterCount symbols) where
  nextStates _ _ _ h :=
    have ⟨hq, _, hq'⟩ := of_mem_nextStates bounded h
    ⟨hq, hq'⟩
  epsilonSuccessors _ _ h := of_mem_epsilonSuccessors bounded h
  alphabet _ h := letter_of_mem_alphabet bounded h
  incoming _ positive hq :=
    have ⟨q', below, a, _, h⟩ := exists_incoming bounded positive hq s symbols p e
    ⟨q', below, a, h⟩
  states_eq two := toList_states_relation bounded two
  le_transitions := le_transitions_relation bounded
  transitions_le := transitions_relation_le bounded

theorem relationChecked_eq_ok (bounded : draws.Bounded) (s : σ) (size symbols : Nat) (p e : Float) :
    relationChecked draws s size symbols p e = .ok (relation draws s size symbols p e) := by
  simp only [relationChecked, attachChecked_eq_ok bounded (letters_ne_nil symbols)
    fun _ => pos_of_mem_drop_range]
  rfl

/-- **The shape of random relations.** If the draws keep their bounds, then nothing fails on the way,
whatever the arguments are. The relation that is made lies within the first states and letters, no
state has an epsilon transition to itself, and every state but the first has a transition from a
smaller one. The bounds for the number of transitions are reached: the upper one if every number is
below its probability, and the lower one, by a tree, if none is. -/
theorem relation_shape (bounded : draws.Bounded) (s : σ) (size symbols : Nat) (p e : Float) :
    relationChecked draws s size symbols p e = .ok (relation draws s size symbols p e) ∧
    Shaped (relation draws s size symbols p e) size (max 1 (min symbols 26)) ∧
    ((∀ x ∈ regularNumbers draws size (letters symbols) (List.range size) s, x < p) →
      (∀ x ∈ silentNumbers draws size (letters symbols) (List.range size) s, x < e) →
      (relation draws s size symbols p e).transitions =
        max 1 (min symbols 26) * size ^ 2 + size * (size - 1)) ∧
    ((∀ x ∈ regularNumbers draws size (letters symbols) (List.range size) s, ¬ x < p) →
      (∀ x ∈ silentNumbers draws size (letters symbols) (List.range size) s, ¬ x < e) →
      IsTree (relation draws s size symbols p e) size) := by
  refine ⟨relationChecked_eq_ok bounded s size symbols p e,
    shaped_relation bounded s size symbols p e, fun regular silent => ?_, fun regular silent => ?_⟩
  · exact Nat.le_antisymm (transitions_relation_le bounded)
      (le_transitions_relation_of_all regular silent)
  · exact isTree_of_none regular silent bounded

/-- A source that draws one half, the number just below a bound, and zero. -/
def halves : Draws Unit where
  fraction _ := (0.5, ())
  below32 n _ := (n - 1, ())
  below64 _ _ := (0, ())

theorem halves_bounded : halves.Bounded := fun _ _ hn => ⟨Nat.sub_one_lt_of_lt hn, hn⟩

/-- The generator makes a relation with all of ten states. With two states and one letter, six
transitions are there if one half is below the probabilities, and one if it is equal to them. -/
theorem relation_shape_demo :
    relationChecked Generator.draws ⟨7⟩ 10 2 0.1 0.05 =
      .ok (relation Generator.draws ⟨7⟩ 10 2 0.1 0.05) ∧
    (relation Generator.draws ⟨7⟩ 10 2 0.1 0.05).states.toList = List.range 10 ∧
    (relation halves () 2 1 0.75 0.75).transitions = 6 ∧
    IsTree (relation halves () 2 1 0.5 0.5) 2 := by
  obtain ⟨made, shaped, -, -⟩ := relation_shape Generator.draws_bounded ⟨7⟩ 10 2 0.1 0.05
  obtain ⟨-, -, all, -⟩ := relation_shape halves_bounded () 2 1 0.75 0.75
  obtain ⟨-, -, -, none⟩ := relation_shape halves_bounded () 2 1 0.5 0.5
  exact ⟨made, shaped.states_eq (by decide), all (by decide +kernel) (by decide +kernel),
    none (by decide +kernel) (by decide +kernel)⟩

end Determinize.Random
