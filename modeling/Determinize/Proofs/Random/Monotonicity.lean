import Determinize.Proofs.Random.FloatOrder
import Determinize.Proofs.Relation.Inclusion
import Determinize.Random.Relation

/-!
Random relations with larger probabilities have more transitions.

* A number is drawn for every candidate, so neither the numbers nor the source afterwards depend on
  the probabilities (`select_snd`, `selectFrom_snd`). `regularNumbers` and `silentNumbers` are the
  numbers that are held against the two probabilities.
* A candidate that is kept is kept with every probability that is above its number
  (`select_sublist`, `selectFrom_sublist`). The transitions that are attached in the end are the
  same, because the source is (`transitions_sublist`).
* `relation_monotone` takes this from the lists of transitions to relations and to the automata made
  of them.
-/

namespace Determinize

variable {σ : Type} {draws : Draws σ} {s : σ}

/-! ### Numbers -/

namespace Draws

/-- The source after some numbers have been drawn. -/
def skip (draws : Draws σ) : Nat → σ → σ
  | 0, s => s
  | n + 1, s => draws.skip n (draws.fraction s).2

/-- Some numbers that are drawn one after the other. -/
def fractions (draws : Draws σ) : Nat → σ → List Float
  | 0, _ => []
  | n + 1, s => (draws.fraction s).1 :: draws.fractions n (draws.fraction s).2

end Draws

namespace Random

/-- Those of the numbers that are below `p` are below `p'`. -/
def Keeps (numbers : List Float) (p p' : Float) : Prop := ∀ x ∈ numbers, x < p → x < p'

variable {p p' e e' : Float}

theorem keeps_of_le (h : p ≤ p') (numbers : List Float) : Keeps numbers p p' :=
  fun _ _ below => FloatOrder.lt_of_lt_of_le below h

/-! ### One list of candidates -/

/-- One number is drawn for every candidate, whatever is kept. -/
theorem select_snd (p : Float) (candidates : List (Transition Nat Char)) (s : σ) :
    (select draws p candidates s).2 = draws.skip candidates.length s := by
  induction candidates generalizing s with
  | nil => rfl
  | cons t rest ih => exact ih _

theorem select_sublist {candidates : List (Transition Nat Char)}
    (keeps : Keeps (draws.fractions candidates.length s) p p') :
    (select draws p candidates s).1.Sublist (select draws p' candidates s).1 := by
  induction candidates generalizing s with
  | nil => exact .refl _
  | cons t rest ih =>
    obtain ⟨first, later⟩ := List.forall_mem_cons.mp keeps
    simp only [select]
    by_cases kept : (draws.fraction s).1 < p
    · rw [if_pos kept, if_pos (first kept)]
      exact (ih later).cons_cons t
    · rw [if_neg kept]
      split
      · exact (ih later).cons t
      · exact ih later

/-! ### The candidates of some sources -/

variable {size : Nat} {alphabet : List Char} {sources : List Nat}

/-- The source after the numbers for all candidates that leave `source`. -/
def skipSource (draws : Draws σ) (size : Nat) (alphabet : List Char) (source : Nat) (s : σ) : σ :=
  draws.skip (epsilonCandidates size source).length
    (draws.skip (regularCandidates size alphabet source).length s)

/-- The numbers that are held against the probability of transitions on letters. -/
def regularNumbers (draws : Draws σ) (size : Nat) (alphabet : List Char) : List Nat → σ → List Float
  | [], _ => []
  | source :: sources, s =>
    draws.fractions (regularCandidates size alphabet source).length s ++
      regularNumbers draws size alphabet sources (skipSource draws size alphabet source s)

/-- The numbers that are held against the probability of epsilon transitions. -/
def silentNumbers (draws : Draws σ) (size : Nat) (alphabet : List Char) : List Nat → σ → List Float
  | [], _ => []
  | source :: sources, s =>
    draws.fractions (epsilonCandidates size source).length
        (draws.skip (regularCandidates size alphabet source).length s) ++
      silentNumbers draws size alphabet sources (skipSource draws size alphabet source s)

/-- What is kept has no influence on the source. -/
theorem selectFrom_snd (p e : Float) (sources : List Nat) (s : σ) :
    (selectFrom draws size alphabet p e sources s).2 =
      sources.foldl (fun s source => skipSource draws size alphabet source s) s := by
  induction sources generalizing s with
  | nil => rfl
  | cons source sources ih =>
    simp only [selectFrom, select_snd]
    exact ih _

theorem selectFrom_sublist (regular : Keeps (regularNumbers draws size alphabet sources s) p p')
    (silent : Keeps (silentNumbers draws size alphabet sources s) e e') :
    (selectFrom draws size alphabet p e sources s).1.Sublist
      (selectFrom draws size alphabet p' e' sources s).1 := by
  induction sources generalizing s with
  | nil => exact .refl _
  | cons source sources ih =>
    obtain ⟨regular, regularLater⟩ := List.forall_mem_append.mp regular
    obtain ⟨silent, silentLater⟩ := List.forall_mem_append.mp silent
    simp only [selectFrom, select_snd]
    exact ((select_sublist regular).append (select_sublist silent)).append
      (ih regularLater silentLater)

/-! ### All transitions -/

variable {symbols : Nat}

/-- With larger probabilities some more transitions are made, and all others as before. -/
theorem transitions_sublist
    (regular : Keeps (regularNumbers draws size (letters symbols) (List.range size) s) p p')
    (silent : Keeps (silentNumbers draws size (letters symbols) (List.range size) s) e e') :
    (transitions draws s size symbols p e).Sublist (transitions draws s size symbols p' e') := by
  simp only [transitions, selectFrom_snd]
  exact (selectFrom_sublist regular silent).append (.refl _)

/-- **Random relations grow with the probabilities.** Suppose that every number that is held against
a probability and is below it is also below another one, as it is if that one is not smaller. Then
the other probabilities lose no transition and do not count fewer of them, and every word that can be
read can still be read and leads to at least the same states. -/
theorem relation_monotone (draws : Draws σ) (s : σ) (size symbols : Nat) :
    (∀ (numbers : List Float) (p p' : Float), p ≤ p' → Keeps numbers p p') ∧
    ∀ p p' e e' : Float,
      Keeps (regularNumbers draws size (letters symbols) (List.range size) s) p p' →
      Keeps (silentNumbers draws size (letters symbols) (List.range size) s) e e' →
        Relation.Included (relation draws s size symbols p e)
          (relation draws s size symbols p' e') ∧
        (relation draws s size symbols p e).transitions ≤
          (relation draws s size symbols p' e').transitions ∧
        ∀ word reached,
          ((relation draws s size symbols p e).determinize 0).run? word = some reached →
          ∃ reached',
            ((relation draws s size symbols p' e').determinize 0).run? word = some reached' ∧
              ∀ q ∈ reached, q ∈ reached' := by
  refine ⟨fun numbers p p' h => keeps_of_le h numbers, fun p p' e e' regular silent => ?_⟩
  have included : Relation.Included (relation draws s size symbols p e)
      (relation draws s size symbols p' e') :=
    Relation.included_addMany (transitions_sublist regular silent).subset _
  refine ⟨included, ?_, fun word reached run => ?_⟩
  · exact included.transitions_le (Relation.holds_addMany _ _) (Relation.holds_addMany _ _)
  · exact included.run? (Relation.wellFormed_addMany _ _) (Relation.wellFormed_addMany _ _) run

/-- With one letter transition in five a relation has at least what it has with one in ten. -/
theorem relation_monotone_demo :
    Relation.Included (relation Generator.draws ⟨7⟩ 10 2 0.1 0.05)
      (relation Generator.draws ⟨7⟩ 10 2 0.2 0.05) ∧
    (relation Generator.draws ⟨7⟩ 10 2 0.1 0.05).transitions ≤
      (relation Generator.draws ⟨7⟩ 10 2 0.2 0.05).transitions := by
  obtain ⟨keeps, grows⟩ := relation_monotone Generator.draws ⟨7⟩ 10 2
  have regular : (0.1 : Float) ≤ 0.2 := by decide +kernel
  have silent : (0.05 : Float) ≤ 0.05 := by decide +kernel
  obtain ⟨included, counts, -⟩ := grows _ _ _ _ (keeps _ _ _ regular) (keeps _ _ _ silent)
  exact ⟨included, counts⟩

end Random

end Determinize
