import Determinize.Proofs.Random.Attachment
import Determinize.Proofs.Relation.Transitions
import Determinize.Proofs.SetAutomaton.Language

/-!
All states of a random relation can be reached from its first state.

* `exists_mem_transitions`: the attached transitions lead into every other state, from a smaller one
  and on a letter. Nothing else is needed of them, so only the bounds of the draws matter, and the
  probabilities do not.
* `exists_incoming` says this of the relation. So, by strong induction along the smaller states, a
  path of at most `q` letters leads to the state `q` (`exists_path`).
* `exists_word_to_state`: so the automaton can read the letters of this path, and `q` is among the
  states that it reaches.
-/

namespace Determinize.Random

variable {σ : Type} {draws : Draws σ} {s : σ} {size symbols q : Nat}

/-! ### Letters -/

theorem letters_ne_nil (symbols : Nat) : letters symbols ≠ [] := by simp [letters]

/-- The symbol for epsilon is not among the lower-case letters. -/
theorem ne_epsilon_of_mem_letters {a : Char} (ha : a ∈ letters symbols) : a ≠ epsilon := by
  have letter := List.mem_of_mem_take ha
  rintro rfl
  revert letter
  decide

/-! ### Transitions from smaller states -/

/-- What is attached are all states but the first. -/
theorem mem_drop_range : q ∈ (List.range size).drop 1 ↔ 0 < q ∧ q < size := by
  rw [List.mem_drop_iff_getElem]
  constructor
  · rintro ⟨i, hi, rfl⟩
    simp only [List.length_range, List.getElem_range] at hi ⊢
    omega
  · rintro ⟨positive, hq⟩
    exact ⟨q - 1, by simp; omega, by simp; omega⟩

theorem pos_of_mem_drop_range (h : q ∈ (List.range size).drop 1) : 0 < q := (mem_drop_range.mp h).1

theorem exists_mem_transitions (bounded : draws.Bounded) (positive : 0 < q) (hq : q < size) (s : σ)
    (symbols : Nat) (probability epsilonProbability : Float) :
    ∃ source < q, ∃ a ∈ letters symbols,
      ⟨source, a, q⟩ ∈ transitions draws s size symbols probability epsilonProbability := by
  obtain ⟨t, ht, rfl⟩ := exists_mem_attach draws (letters symbols)
    (mem_drop_range.mpr ⟨positive, hq⟩) (selectFrom draws size (letters symbols) probability
      epsilonProbability (List.range size) s).2
  obtain ⟨hsource, ha⟩ := of_mem_attach bounded (letters_ne_nil symbols)
    (fun _ => pos_of_mem_drop_range) ht
  exact ⟨t.source, hsource, t.symbol, ha, List.mem_append_right _ ht⟩

theorem mem_nextStates_relation {q' : Nat} {a : Char} {p e : Float} :
    q' ∈ (relation draws s size symbols p e).nextStates q a ↔
      a ≠ epsilon ∧ ⟨q, a, q'⟩ ∈ transitions draws s size symbols p e := by
  refine Relation.mem_nextStates_addMany.trans (and_congr_left' ?_)
  rw [Ne, Option.some.injEq, eq_comm]

/-- Every state but the first has a transition from a smaller one. -/
theorem exists_incoming (bounded : draws.Bounded) (positive : 0 < q) (hq : q < size) (s : σ)
    (symbols : Nat) (probability epsilonProbability : Float) :
    ∃ source < q, ∃ a ∈ letters symbols,
      q ∈ (relation draws s size symbols probability epsilonProbability).nextStates source a := by
  obtain ⟨source, hsource, a, ha, ht⟩ := exists_mem_transitions bounded positive hq s symbols
    probability epsilonProbability
  exact ⟨source, hsource, a, ha, mem_nextStates_relation.mpr ⟨ne_epsilon_of_mem_letters ha, ht⟩⟩

/-! ### Paths -/

/-- From the first state a path of at most `q` letters leads to `q`. -/
theorem exists_path (bounded : draws.Bounded) (hq : q < size) (s : σ)
    (symbols : Nat) (probability epsilonProbability : Float) :
    ∃ word : List Char, word.length ≤ q ∧ (∀ a ∈ word, a ∈ letters symbols) ∧
      Path (relation draws s size symbols probability epsilonProbability) 0 word q := by
  induction q using Nat.strongRecOn with
  | ind q ih =>
    rcases Nat.eq_zero_or_pos q with rfl | positive
    · exact ⟨[], Nat.le_refl 0, nofun, .refl⟩
    · obtain ⟨source, hsource, a, ha, step⟩ := exists_incoming bounded positive hq s symbols
        probability epsilonProbability
      obtain ⟨word, length, lettersOnly, path⟩ := ih source hsource (Nat.lt_trans hsource hq)
      refine ⟨word ++ [a], ?_, ?_, path.append (.symbol step .refl)⟩
      · rw [List.length_append, List.length_singleton]
        omega
      · exact List.forall_mem_append.mpr ⟨lettersOnly, List.forall_mem_singleton.mpr ha⟩

/-- **Every state of a random relation is reached.** Whatever is drawn, as long as it keeps its
bounds, and whatever the probabilities are, some word of at most `q` letters leads to a set with the
state `q` in it. -/
theorem exists_word_to_state (bounded : draws.Bounded) (hq : q < size) (s : σ)
    (symbols : Nat) (probability epsilonProbability : Float) :
    ∃ word : List Char, word.length ≤ q ∧ (∀ a ∈ word, a ∈ letters symbols ∧ a ≠ epsilon) ∧
      ∃ reached, ((relation draws s size symbols probability epsilonProbability).determinize 0).run?
        word = some reached ∧ q ∈ reached := by
  obtain ⟨word, length, lettersOnly, path⟩ := exists_path bounded hq s symbols probability
    epsilonProbability
  have wf : (relation draws s size symbols probability epsilonProbability).WellFormed :=
    Relation.wellFormed_addMany _ _
  have regular : ∀ a ∈ word, a ∈ letters symbols ∧ a ≠ epsilon := fun a ha =>
    ⟨lettersOnly a ha, ne_epsilon_of_mem_letters (lettersOnly a ha)⟩
  refine ⟨word, length, regular, ?_⟩
  cases run : ((relation draws s size symbols probability epsilonProbability).determinize 0).run?
      word with
  | none => exact absurd path (wf.run?_eq_none_iff.mp run q)
  | some reached => exact ⟨reached, rfl, ((wf.run?_eq_some_iff.mp run).2 q).mpr path⟩

/-- The last of ten states, when the draws add nothing to the attached transitions. -/
theorem exists_word_to_state_demo : 9 < 10 ∧ ∃ word : List Char, word.length ≤ 9 ∧
    (∀ a ∈ word, a ∈ letters 2 ∧ a ≠ epsilon) ∧ ∃ reached,
      ((relation Generator.draws ⟨7⟩ 10 2 (-1) (0 / 0)).determinize 0).run? word = some reached ∧
        9 ∈ reached :=
  have last : 9 < 10 := by decide
  ⟨last, exists_word_to_state Generator.draws_bounded last _ _ _ _⟩

end Determinize.Random
