import Determinize.Proofs.SetAutomaton.Successor
import Determinize.Relation.Path

/-!
The subset construction keeps the language.

* `path_cons_iff`: a path on a word that begins with `a` follows epsilon transitions, then a
  transition on `a`, and goes on with the rest of the word.
* `mem_stepWord_iff`: reading a word set by set from a closed set reaches exactly the states that
  paths from its members reach. The induction is on the word; closedness is what lets a path
  begin with epsilon transitions.
* `foldlM_successor?`: from a discovered set the automaton reaches the same set by its look-ups,
  and gets stuck exactly if that set is empty.
* `WellFormed.run?_eq_some_iff`, `WellFormed.run?_eq_none_iff` and `WellFormed.accepts_iff` put
  both together for the initial set; `language_determinize` is their sum.
-/

namespace Determinize

variable {Q S : Type} [TotalOrd Q] [TotalOrd S] {r : Relation Q S} {start : Q}
  {states : StateSet Q}

/-! ### Paths that read a symbol -/

/-- A path on `a :: word` reads `a` after some epsilon transitions. -/
theorem path_cons_iff {p q : Q} {a : S} {word : List S} :
    Path r p (a :: word) q ↔
      ∃ m n, EpsilonReachable r p m ∧ n ∈ r.nextStates m a ∧ Path r n word q := by
  constructor
  · intro h
    generalize hw : a :: word = whole at h
    induction h with
    | refl => cases hw
    | @epsilon p p' q whole hstep _ ih =>
      obtain ⟨m, n, hm, hn, hpath⟩ := ih hw
      exact ⟨m, n, EpsilonReachable.trans (.step .refl hstep) hm, hn, hpath⟩
    | @symbol p p' q b rest hstep hrest =>
      cases hw
      exact ⟨p, p', .refl, hstep, hrest⟩
  · rintro ⟨m, n, hm, hn, hpath⟩
    exact Path.append (EpsilonReachable.path hm) (.symbol hn hpath)

namespace Relation

/-! ### Reading words set by set -/

/-- The set that is reached from `states` by reading `word` symbol by symbol. -/
def stepWord (r : Relation Q S) (states : StateSet Q) (word : List S) : StateSet Q :=
  word.foldl r.stepSet states

theorem stepWord_cons (a : S) (word : List S) :
    r.stepWord states (a :: word) = r.stepWord (r.stepSet states a) word := rfl

theorem mem_of_epsilonReachable (closed : r.epsilonClosure states = states) {p q : Q}
    (hp : p ∈ states) (h : EpsilonReachable r p q) : q ∈ states := by
  rw [← closed]
  exact mem_epsilonClosure_iff.mpr ⟨p, hp, h⟩

/-- Paths on `a :: word` from a closed set are paths on `word` from the next set. -/
theorem exists_path_cons_iff (closed : r.epsilonClosure states = states) {q : Q} {a : S}
    {word : List S} :
    (∃ p ∈ states, Path r p (a :: word) q) ↔ ∃ p ∈ r.stepSet states a, Path r p word q := by
  constructor
  · rintro ⟨p, hp, hpath⟩
    obtain ⟨m, n, hm, hn, hrest⟩ := path_cons_iff.mp hpath
    have hmem : n ∈ r.nextStatesFromSet states a :=
      mem_nextStatesFromSet.mpr ⟨m, mem_of_epsilonReachable closed hp hm, hn⟩
    exact ⟨n, subset_epsilonClosure hmem, hrest⟩
  · rintro ⟨p, hp, hpath⟩
    obtain ⟨n, hn, hnp⟩ := mem_epsilonClosure_iff.mp hp
    obtain ⟨m, hm, hmn⟩ := mem_nextStatesFromSet.mp hn
    exact ⟨m, hm, .symbol hmn (Path.append (EpsilonReachable.path hnp) hpath)⟩

/-- Reading a word from a closed set reaches what paths from its members reach. -/
theorem mem_stepWord_iff (closed : r.epsilonClosure states = states) {q : Q} {word : List S} :
    q ∈ r.stepWord states word ↔ ∃ p ∈ states, Path r p word q := by
  induction word generalizing states with
  | nil =>
    constructor
    · intro hq
      exact ⟨q, hq, .refl⟩
    · rintro ⟨p, hp, hpath⟩
      exact mem_of_epsilonReachable closed hp (path_nil_iff.mp hpath)
  | cons a word ih =>
    rw [stepWord_cons, ih (epsilonClosure_stepSet states a), exists_path_cons_iff closed]

theorem stepSet_empty (a : S) : r.stepSet ∅ a = ∅ := by
  have nothing : r.nextStatesFromSet ∅ a = ∅ := by
    apply SortedSet.eq_empty_iff.mpr
    intro q hq
    obtain ⟨p, hp, -⟩ := mem_nextStatesFromSet.mp hq
    exact SortedSet.not_mem_empty p hp
  rw [stepSet, nothing, epsilonClosure_empty]

theorem stepWord_empty (word : List S) : r.stepWord ∅ word = ∅ := by
  induction word with
  | nil => rfl
  | cons a word ih =>
    rw [stepWord_cons, stepSet_empty, ih]

/-- A symbol that cannot be read in a set leads nowhere. -/
theorem WellFormed.stepSet_eq_empty (wf : r.WellFormed) {a : S}
    (h : ¬ a ∈ r.edgesFromSet states) : r.stepSet states a = ∅ := by
  have nothing : r.nextStatesFromSet states a = ∅ := by
    apply SortedSet.eq_empty_iff.mpr
    intro q hq
    exact h (wf.mem_edgesFromSet_iff.mpr ⟨q, hq⟩)
  rw [stepSet, nothing, epsilonClosure_empty]

/-! ### Reading words by look-ups -/

/-- From a discovered set, the look-ups follow the steps of the construction as long as they lead
somewhere. -/
theorem foldlM_successor? (wf : r.WellFormed) (h : Discovered r start states) (word : List S) :
    word.foldlM (r.determinize start).successor? states =
      if r.stepWord states word = ∅ then none else some (r.stepWord states word) := by
  induction word generalizing states with
  | nil => exact (if_neg (h.ne_empty wf)).symm
  | cons a word ih =>
    rw [List.foldlM_cons, stepWord_cons]
    by_cases hread : a ∈ r.edgesFromSet states
    · rw [successor?_of_discovered h hread]
      exact ih (.step h hread)
    · rw [successor?_of_not_mem hread, wf.stepSet_eq_empty hread, stepWord_empty]
      rfl

theorem run?_determinize (wf : r.WellFormed) (start : Q) (word : List S) :
    (r.determinize start).run? word =
      if r.stepWord (r.epsilonClosureOf start) word = ∅ then none
      else some (r.stepWord (r.epsilonClosureOf start) word) :=
  foldlM_successor? wf .initial word

theorem mem_stepWord_initial_iff {q : Q} {word : List S} :
    q ∈ r.stepWord (r.epsilonClosureOf start) word ↔ Path r start word q := by
  rw [mem_stepWord_iff (epsilonClosure_epsilonClosureOf start)]
  constructor
  · rintro ⟨p, hp, hpath⟩
    exact Path.append (EpsilonReachable.path (mem_epsilonClosureOf_iff.mp hp)) hpath
  · intro hpath
    exact ⟨start, mem_epsilonClosureOf_iff.mpr .refl, hpath⟩

/-! ### The language -/

/-- The word can be read exactly if there is a path on it, and then it leads to the set of all
states that such paths reach. -/
theorem WellFormed.run?_eq_some_iff (wf : r.WellFormed) {word : List S} {reached : StateSet Q} :
    (r.determinize start).run? word = some reached ↔
      (∃ q, Path r start word q) ∧ ∀ q, q ∈ reached ↔ Path r start word q := by
  rw [run?_determinize wf]
  split
  next hempty =>
    refine iff_of_false (by simp) ?_
    rintro ⟨⟨q, hq⟩, -⟩
    exact SortedSet.eq_empty_iff.mp hempty q (mem_stepWord_initial_iff.mpr hq)
  next hfull =>
    rw [Option.some_inj]
    constructor
    · rintro rfl
      obtain ⟨q, hq⟩ := SortedSet.ne_empty_iff.mp hfull
      exact ⟨⟨q, mem_stepWord_initial_iff.mp hq⟩, fun _ => mem_stepWord_initial_iff⟩
    · rintro ⟨-, hreached⟩
      ext p
      rw [mem_stepWord_initial_iff, hreached]

theorem WellFormed.run?_eq_none_iff (wf : r.WellFormed) {word : List S} :
    (r.determinize start).run? word = none ↔ ∀ q, ¬ Path r start word q := by
  rw [run?_determinize wf]
  split
  next hempty =>
    refine iff_of_true rfl fun q hq => ?_
    exact SortedSet.eq_empty_iff.mp hempty q (mem_stepWord_initial_iff.mpr hq)
  next hfull =>
    obtain ⟨q, hq⟩ := SortedSet.ne_empty_iff.mp hfull
    exact iff_of_false (by simp) fun nowhere => nowhere q (mem_stepWord_initial_iff.mp hq)

/-- A word is accepted exactly if some path on it ends in an accepting state. -/
theorem WellFormed.accepts_iff (wf : r.WellFormed) {word : List S} {accepting : Q → Bool} :
    (r.determinize start).accepts word accepting = true ↔
      ∃ q, Path r start word q ∧ accepting q = true := by
  unfold SetAutomaton.accepts
  cases hrun : (r.determinize start).run? word with
  | none =>
    have nowhere := wf.run?_eq_none_iff.mp hrun
    refine iff_of_false (by simp) ?_
    rintro ⟨q, hq, -⟩
    exact nowhere q hq
  | some reached =>
    obtain ⟨-, hreached⟩ := wf.run?_eq_some_iff.mp hrun
    rw [Option.any_some, List.any_eq_true]
    exact exists_congr fun q => and_congr_left fun _ => hreached q

/-- **The subset construction keeps the language.** The automaton reaches a set by a word exactly
if the set is not empty and holds what paths on the word reach; it gets stuck exactly if there is
no such path; and it accepts a word exactly if a path on it ends in an accepting state. -/
theorem language_determinize (h : r.Reachable) (start : Q) (word : List S) :
    (∀ reached, (r.determinize start).run? word = some reached ↔
      (∃ q, Path r start word q) ∧ ∀ q, q ∈ reached ↔ Path r start word q) ∧
    ((r.determinize start).run? word = none ↔ ∀ q, ¬ Path r start word q) ∧
    ∀ accepting : Q → Bool, (r.determinize start).accepts word accepting = true ↔
      ∃ q, Path r start word q ∧ accepting q = true := by
  have wf := h.wellFormed
  exact ⟨fun _ => wf.run?_eq_some_iff, wf.run?_eq_none_iff, fun _ => wf.accepts_iff⟩

/-- From its start the demo reads `ba`, by paths to 5, 6 and 7, but not `bb`. -/
theorem language_determinize_demo :
    (∀ q, q ∈ (SortedSet.ofList [5, 6, 7] : StateSet Nat) ↔
      Path Demo.relation Demo.start ['b', 'a'] q) ∧
    (∀ q, ¬ Path Demo.relation Demo.start ['b', 'b'] q) ∧
    ∃ q, Path Demo.relation Demo.start ['b', 'a'] q ∧ decide (q = 7) = true := by
  have read := language_determinize Demo.reachable_relation Demo.start ['b', 'a']
  have stuck := language_determinize Demo.reachable_relation Demo.start ['b', 'b']
  exact ⟨((read.1 _).mp rfl).2, stuck.2.1.mp rfl, (read.2.2 fun q => decide (q = 7)).mp rfl⟩

end Relation

end Determinize
