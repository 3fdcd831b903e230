import Determinize.Proofs.SetAutomaton.WorkList

/-!
The loop of the subset construction under other schedules.

* `Work.turnAt?` is one turn that takes the pair at any place in the queue and lets either the unseen
  pairs of its target wait or all of them (`Pushes`). At the first place, with the unseen pairs, it is
  the turn of the construction (`turnAt?_zero`); with all pairs it is the turn of the plain loop.
* `Work.trim` leaves out the pairs that wait although they have been seen. Whatever the construction
  does in a turn, the plain loop does by some turns, up to trimming (`exists_plainRun_of_turn`). So
  both loops come to the same end (`plainRun_final`).
* `Work.follow?` takes turns at given places. `Sound` is the invariant of every such run and
  `potential` goes down with every turn (`Sound.potential_lt`), so no run is longer than the potential
  at its start. A run that has ended has found every edge once (`Sound.found_perm`).
* `determinize_any_order` collects this.
-/

namespace Determinize

variable {Q S : Type} [TotalOrd Q] [TotalOrd S] {r : Relation Q S} {start : Q}

/-- Which pairs of a target a turn lets wait. -/
inductive Pushes where
  /-- Those that have not been seen. -/
  | unseen
  | all

namespace Work

/-! ### Turns at any place -/

/-- Those of some pairs that have not been seen. -/
def unseen (seen : SortedSet (StateSet Q × S)) (pairs : List (StateSet Q × S)) :
    List (StateSet Q × S) :=
  pairs.filter fun pair => ¬ pair ∈ seen

/-- The pairs of `target` that a turn lets wait if `seen` have been seen. -/
def pushed (r : Relation Q S) (pushes : Pushes) (seen : SortedSet (StateSet Q × S))
    (target : StateSet Q) : List (StateSet Q × S) :=
  match pushes with
  | .unseen => unseen seen (r.pairsOf target)
  | .all => r.pairsOf target

/-- What the loop keeps once `pair` has been worked off, while the pairs in `rest` wait. -/
def workOff (r : Relation Q S) (pushes : Pushes) (w : Work Q S) (pair : StateSet Q × S)
    (rest : List (StateSet Q × S)) : Work Q S :=
  let seen := w.seen.insert pair
  let target := r.epsilonClosure (r.nextStatesFromSet pair.1 pair.2)
  let edge : Edge Q S := ⟨pair.1, pair.2, target⟩
  ⟨(pushed r pushes seen target).reverse ++ rest, seen, w.edges.insert edge, w.found ++ [edge]⟩

/-- One turn that takes the pair at `place` in the queue, if there is one. -/
def turnAt? (r : Relation Q S) (pushes : Pushes) (place : Nat) (w : Work Q S) :
    Option (Work Q S) :=
  match w.queue[place]? with
  | none => none
  | some pair =>
    let rest := w.queue.eraseIdx place
    if pair ∈ w.seen then some { w with queue := rest } else some (w.workOff r pushes pair rest)

/-- The loop of the construction takes the first pair and lets unseen pairs wait. -/
theorem turnAt?_zero (w : Work Q S) : w.turnAt? r .unseen 0 = w.turn? r := by
  obtain ⟨queue, seen, edges, found⟩ := w
  cases queue with
  | nil => rfl
  | cons pair rest => rfl

/-- A turn can be taken wherever a pair waits. -/
theorem isSome_turnAt?_iff {pushes : Pushes} {place : Nat} {w : Work Q S} :
    (w.turnAt? r pushes place).isSome = true ↔ place < w.queue.length := by
  rw [turnAt?]
  split
  next missing => simpa using missing
  next pair waiting =>
    refine iff_of_true ?_ (List.getElem?_eq_some_iff.mp waiting).1
    split <;> rfl

/-- Taking the pair at some place leaves what stands before and after it. -/
theorem exists_split_of_getElem? {α : Type} {l : List α} {i : Nat} {a : α} (h : l[i]? = some a) :
    ∃ before after, before.length = i ∧ l = before ++ a :: after ∧
      l.eraseIdx i = before ++ after := by
  obtain ⟨hi, rfl⟩ := List.getElem?_eq_some_iff.mp h
  refine ⟨l.take i, l.drop (i + 1), List.length_take_of_le (Nat.le_of_lt hi), ?_,
    List.eraseIdx_eq_take_drop_succ ..⟩
  rw [← List.drop_eq_getElem_cons hi, List.take_append_drop]

/-- A turn drops a pair that has been seen, or works off one that has not. -/
theorem turnAt?_cases {pushes : Pushes} {place : Nat} {w w' : Work Q S}
    (turn : w.turnAt? r pushes place = some w') :
    ∃ before pair after, before.length = place ∧ w.queue = before ++ pair :: after ∧
      ((pair ∈ w.seen ∧ w' = { w with queue := before ++ after }) ∨
        (¬ pair ∈ w.seen ∧ w' = w.workOff r pushes pair (before ++ after))) := by
  rw [turnAt?] at turn
  split at turn
  next => cases turn
  next pair waiting =>
    obtain ⟨before, after, length, queued, left⟩ := exists_split_of_getElem? waiting
    refine ⟨before, pair, after, length, queued, ?_⟩
    rw [← left]
    by_cases known : pair ∈ w.seen
    · rw [if_pos known] at turn
      exact .inl ⟨known, (Option.some.inj turn).symm⟩
    · rw [if_neg known] at turn
      exact .inr ⟨known, (Option.some.inj turn).symm⟩

/-! ### The plain loop -/

/-- One turn of the loop that lets all pairs of a target wait. -/
def plainTurn? (r : Relation Q S) (w : Work Q S) : Option (Work Q S) := w.turnAt? r .all 0

/-- The plain loop gets from one state to another by some number of turns. -/
abbrev PlainRun (r : Relation Q S) : Work Q S → Work Q S → Prop :=
  Relation.ReflTransGen fun w w' => w.plainTurn? r = some w'

/-- What the loop keeps, without the pairs that wait although they have been seen. -/
def trim (w : Work Q S) : Work Q S := { w with queue := unseen w.seen w.queue }

section

variable {seen : SortedSet (StateSet Q × S)} {pair : StateSet Q × S}
  {pairs : List (StateSet Q × S)}

theorem mem_unseen {next : StateSet Q × S} :
    next ∈ unseen seen pairs ↔ next ∈ pairs ∧ ¬ next ∈ seen := by
  rw [unseen, List.mem_filter, decide_eq_true_iff]

theorem unseen_cons_of_mem (known : pair ∈ seen) :
    unseen seen (pair :: pairs) = unseen seen pairs :=
  List.filter_cons_of_neg (by simpa using known)

theorem unseen_cons_of_not_mem (fresh : ¬ pair ∈ seen) :
    unseen seen (pair :: pairs) = pair :: unseen seen pairs :=
  List.filter_cons_of_pos (by simpa using fresh)

theorem unseen_append (pairs pairs' : List (StateSet Q × S)) :
    unseen seen (pairs ++ pairs') = unseen seen pairs ++ unseen seen pairs' :=
  List.filter_append ..

/-- What is unseen once one more pair has been seen. -/
theorem unseen_insert :
    unseen (seen.insert pair) pairs = (unseen seen pairs).filter fun next => ¬ next = pair := by
  unfold unseen
  rw [List.filter_filter]
  apply List.filter_congr
  intro next _
  simp [not_or]

/-- Which pairs a turn lets wait does not show in the unseen ones. -/
theorem unseen_pushed (pushes : Pushes) (target : StateSet Q) :
    unseen seen (pushed r pushes seen target).reverse =
      (unseen seen (r.pairsOf target)).reverse := by
  unfold unseen
  rw [List.filter_reverse]
  cases pushes with
  | all => rfl
  | unseen => rw [pushed, unseen, List.filter_filter]; simp

end

theorem trim_of_mem {pair : StateSet Q × S} {rest : List (StateSet Q × S)} {w : Work Q S}
    (queued : w.queue = pair :: rest) (known : pair ∈ w.seen) :
    trim { w with queue := rest } = w.trim := by
  rw [trim, trim, queued, unseen_cons_of_mem known]

/-- Up to trimming, working off a pair shows neither which pairs of its target wait then nor which
seen pairs waited before. -/
theorem trim_workOff {pushes pushes' : Pushes} {w : Work Q S} {pair : StateSet Q × S}
    {rest rest' queue' : List (StateSet Q × S)} (same : unseen w.seen rest = unseen w.seen rest') :
    (w.workOff r pushes pair rest).trim =
      (workOff r pushes' { w with queue := queue' } pair rest').trim := by
  have sameLater : unseen (w.seen.insert pair) rest = unseen (w.seen.insert pair) rest' := by
    rw [unseen_insert, same, ← unseen_insert]
  simp only [trim, workOff, unseen_append, unseen_pushed, sameLater]

/-- Pairs that have been seen are dropped one after the other. -/
theorem plainRun_skip {skipped rest : List (StateSet Q × S)} {w : Work Q S}
    (queued : w.queue = skipped ++ rest) (known : ∀ pair ∈ skipped, pair ∈ w.seen) :
    PlainRun r w { w with queue := rest } := by
  induction skipped generalizing w with
  | nil =>
    obtain ⟨queue, seen, edges, found⟩ := w
    cases queued
    exact .refl
  | cons pair skipped ih =>
    have dropped : w.plainTurn? r = some { w with queue := skipped ++ rest } := by
      rw [plainTurn?, turnAt?, queued]
      exact if_pos (known pair List.mem_cons_self)
    exact .head dropped (ih rfl fun next hnext => known next (List.mem_cons_of_mem _ hnext))

/-- The plain loop follows the turns of the construction. Where the construction drops a pair it need
not do anything, and before it works off a pair it drops all that stand above it. -/
theorem exists_plainRun_of_turn {w w' v : Work Q S} (same : w.trim = v.trim)
    (turn : w.turn? r = some w') : ∃ v', PlainRun r v v' ∧ w'.trim = v'.trim := by
  rw [← turnAt?_zero] at turn
  obtain ⟨before, pair, rest, first, queued, cases⟩ := turnAt?_cases turn
  obtain rfl := List.eq_nil_of_length_eq_zero first
  rcases cases with ⟨known, rfl⟩ | ⟨fresh, rfl⟩
  · exact ⟨v, .refl, (trim_of_mem queued known).trans same⟩
  · obtain ⟨queue, seen, edges, found⟩ := v
    simp only [trim, queued, List.nil_append, Work.mk.injEq] at same
    obtain ⟨sameQueue, rfl, rfl, rfl⟩ := same
    rw [unseen_cons_of_not_mem fresh] at sameQueue
    obtain ⟨skipped, rest', split, seenBefore, -, left⟩ :=
      List.filter_eq_cons_iff.mp sameQueue.symm
    have skip : PlainRun r ⟨queue, w.seen, w.edges, w.found⟩
        ⟨pair :: rest', w.seen, w.edges, w.found⟩ :=
      plainRun_skip split fun next hnext => by simpa using seenBefore next hnext
    have visit : plainTurn? r ⟨pair :: rest', w.seen, w.edges, w.found⟩ =
        some (workOff r .all ⟨pair :: rest', w.seen, w.edges, w.found⟩ pair rest') :=
      if_neg fresh
    exact ⟨_, skip.tail visit, trim_workOff left.symm⟩

theorem exists_plainRun_of_run {w v w' : Work Q S} (same : w.trim = v.trim) (run : Run r w w') :
    ∃ v', PlainRun r v v' ∧ w'.trim = v'.trim := by
  induction run with
  | refl => exact ⟨v, .refl, same⟩
  | tail _ turn ih =>
    obtain ⟨u, before, sameBefore⟩ := ih
    obtain ⟨v', later, sameAfter⟩ := exists_plainRun_of_turn sameBefore turn
    exact ⟨v', before.trans later, sameAfter⟩

/-- The plain loop comes to the end of the construction. -/
theorem plainRun_final (r : Relation Q S) (start : Q) :
    PlainRun r (initial r start) (final r start) := by
  have whole : Run r (initial r start) (final r start) := run_final_of_run .refl
  obtain ⟨v, run, same⟩ := exists_plainRun_of_run rfl whole
  obtain ⟨queue, seen, edges, found⟩ := v
  simp only [trim, final, ofProgress, Work.mk.injEq] at same
  obtain ⟨nothing, rfl, rfl, rfl⟩ := same
  have known := List.filter_eq_nil_iff.mp nothing.symm
  refine run.trans (plainRun_skip (List.append_nil queue).symm ?_)
  intro pair hpair
  simpa using known pair hpair

/-! ### Runs in any order -/

/-- Takes turns at the places that `choices` gives one after the other, as long as pairs wait
there. -/
def follow? (r : Relation Q S) (pushes : Pushes) (choices : List Nat) (w : Work Q S) :
    Option (Work Q S) :=
  choices.foldlM (fun w place => w.turnAt? r pushes place) w

/-- The invariant of every run: the loop has come to `w` by a search for pairs that is
consistent. -/
def Sound (r : Relation Q S) (start : Q) (w : Work Q S) : Prop :=
  ∃ p, Search.Consistent r.pairStep (r.pairsOf (r.epsilonClosureOf start)) p ∧ w = ofProgress r p

theorem sound_initial (r : Relation Q S) (start : Q) : Sound r start (initial r start) :=
  ⟨_, Search.Consistent.start, rfl⟩

/-- A turn is about the pairs that a turn of a search in any order may be about. -/
theorem Sound.turnAt? {pushes : Pushes} {place : Nat} {w w' : Work Q S} (h : Sound r start w)
    (turn : w.turnAt? r pushes place = some w') : Sound r start w' := by
  obtain ⟨⟨pending, visited⟩, state, rfl⟩ := h
  obtain ⟨before, pair, after, -, queued, ⟨known, rfl⟩ | ⟨fresh, rfl⟩⟩ := turnAt?_cases turn
  · obtain rfl : pending = before ++ pair :: after := queued
    have visitedBefore : pair ∈ visited := SortedSet.mem_ofList.mp known
    exact ⟨_, state.skip visitedBefore, rfl⟩
  · obtain rfl : pending = before ++ pair :: after := queued
    have notVisited : ¬ pair ∈ visited := mt SortedSet.mem_ofList.mpr fresh
    let added := pushed r pushes (.ofList (visited ++ [pair])) (r.stepSet pair.1 pair.2)
    refine ⟨⟨added.reverse ++ (before ++ after), visited ++ [pair]⟩,
      state.visit notVisited ?_ ?_, ?_⟩
    · intro next hnext
      cases pushes with
      | unseen => exact (mem_unseen.mp (List.mem_reverse.mp hnext)).1
      | all => exact List.mem_reverse.mp hnext
    · intro next hnext
      cases pushes with
      | unseen =>
        by_cases hv : next ∈ visited ++ [pair]
        · exact .inr hv
        · refine .inl (List.mem_reverse.mpr (List.mem_filter.mpr ⟨hnext, ?_⟩))
          simpa using hv
      | all => exact .inl (List.mem_reverse.mpr hnext)
    · simp only [ofProgress, workOff, List.map_append, List.map_cons, List.map_nil,
        SortedSet.ofList_concat, added]
      rfl

/-! ### How long a run can be -/

/-- What is left for a run to do: every pair that has not been worked off can make all symbols wait
and must be taken itself, and every waiting pair must be taken. -/
def potential (r : Relation Q S) (start : Q) (w : Work Q S) : Nat :=
  ((r.pairsWithin (r.states.insert start)).length - w.found.length) * (r.alphabet.size + 1) +
    w.queue.length

/-- No more pairs are worked off than there are. -/
theorem Sound.length_found_le {w : Work Q S} (h : Sound r start w) :
    w.found.length ≤ (r.pairsWithin (r.states.insert start)).length := by
  obtain ⟨p, state, rfl⟩ := h
  have sub : p.visited ⊆ r.pairsWithin (r.states.insert start) := by
    intro pair hpair
    exact (Relation.encloses_pairStep r start).mem_of_reached (state.reached hpair)
  rw [ofProgress, List.length_map]
  exact (state.nodup.subperm sub).length_le

theorem length_pushed_le (pushes : Pushes) (seen : SortedSet (StateSet Q × S))
    (target : StateSet Q) : (pushed r pushes seen target).length ≤ r.alphabet.size := by
  have readable : (r.pairsOf target).length ≤ r.alphabet.size := by
    rw [Relation.pairsOf, List.length_map]
    exact SortedSet.size_le_length fun _ => Relation.mem_alphabet_of_mem_edgesFromSet
  cases pushes with
  | unseen => exact Nat.le_trans (List.length_filter_le ..) readable
  | all => exact readable

/-- Every turn leaves less to do. -/
theorem Sound.potential_lt {pushes : Pushes} {place : Nat} {w w' : Work Q S} (h : Sound r start w)
    (turn : w.turnAt? r pushes place = some w') :
    w'.potential r start < w.potential r start := by
  have later := (h.turnAt? turn).length_found_le
  obtain ⟨before, pair, after, -, queued, ⟨-, rfl⟩ | ⟨-, rfl⟩⟩ := turnAt?_cases turn
  · simp only [potential, queued, List.length_append, List.length_cons]
    omega
  · have few := length_pushed_le (r := r) pushes (w.seen.insert pair)
      (r.epsilonClosure (r.nextStatesFromSet pair.1 pair.2))
    simp only [workOff, List.length_append, List.length_singleton] at later
    have oneLess : (r.pairsWithin (r.states.insert start)).length - w.found.length =
        (r.pairsWithin (r.states.insert start)).length - (w.found.length + 1) + 1 := by
      omega
    simp only [potential, queued, workOff, List.length_append, List.length_cons, List.length_nil,
      List.length_reverse, Nat.zero_add, oneLess, Nat.succ_mul]
    omega

/-- A run keeps the invariant and is no longer than what it has done. -/
theorem Sound.follow? {pushes : Pushes} {choices : List Nat} {w w' : Work Q S}
    (h : Sound r start w) (run : w.follow? r pushes choices = some w') :
    Sound r start w' ∧ choices.length + w'.potential r start ≤ w.potential r start := by
  induction choices generalizing w with
  | nil =>
    cases run
    exact ⟨h, by simp⟩
  | cons place choices ih =>
    rw [Work.follow?, List.foldlM_cons] at run
    obtain ⟨next, turn, rest⟩ := Option.bind_eq_some_iff.mp run
    obtain ⟨sound, short⟩ := ih (h.turnAt? turn) rest
    have less := h.potential_lt turn
    refine ⟨sound, ?_⟩
    rw [List.length_cons]
    omega

/-- A run that has ended has found the edges that the construction finds, in some order. -/
theorem Sound.found_perm {w : Work Q S} (h : Sound r start w) (done : w.queue = []) :
    w.found.Perm (r.discoveries start) := by
  obtain ⟨⟨pending, visited⟩, state, rfl⟩ := h
  obtain rfl : pending = [] := done
  have pairs : visited.Perm (r.explored start) := by
    apply (List.perm_ext_iff_of_nodup state.nodup (Relation.nodup_explored r start)).mpr
    intro pair
    rw [state.mem_visited_iff, (Relation.consistent_explored r start).mem_visited_iff]
  exact pairs.map r.edgeOf

/-- A run that has ended has the edges of the automaton. -/
theorem Sound.edges_eq {w : Work Q S} (h : Sound r start w) (done : w.queue = []) :
    w.edges = (r.determinize start).edges := by
  have found := h.found_perm done
  obtain ⟨p, -, rfl⟩ := h
  ext e
  rw [Relation.determinize, ofProgress, SortedSet.mem_ofList, SortedSet.mem_ofList]
  exact found.mem_iff

end Work

namespace Relation

/-- **The order of the work does not matter.** The plain loop, which lets all pairs of a target wait,
comes to the same end as the construction, having worked off the same pairs in the same order.
And if any waiting pair may be taken in every turn, whether all pairs of a target are let wait or the
unseen ones only, then no run is longer than some number of turns, a run can go on wherever a pair
waits, and once none waits it has found the edges of the construction, in some order, and made the
same automaton. -/
theorem determinize_any_order (r : Relation Q S) (start : Q) :
    (∃ last : Work Q S,
      (∀ w, Work.Run r (.initial r start) w → Work.Run r w last) ∧ last.turn? r = none ∧
      (∀ w, Work.PlainRun r (.initial r start) w → Work.PlainRun r w last) ∧
      last.plainTurn? r = none ∧
      (last.found.map fun e => (e.source, e.symbol)) = r.explored start) ∧
    ∀ pushes : Pushes,
      (∃ most, ∀ choices w,
        (Work.initial r start).follow? r pushes choices = some w → choices.length ≤ most) ∧
      ∀ choices w, (Work.initial r start).follow? r pushes choices = some w →
        (∀ place, (w.turnAt? r pushes place).isSome = true ↔ place < w.queue.length) ∧
        (w.queue = [] → w.found.Perm (r.discoveries start) ∧
          ⟨r.epsilonClosureOf start, w.edges⟩ = r.determinize start) := by
  refine ⟨⟨.final r start, ?_, rfl, ?_, rfl, map_pair_discoveries r start⟩, fun pushes => ⟨?_, ?_⟩⟩
  · intro w run
    exact Work.run_final_of_run run
  · intro w run
    exact Search.run_of_stuck (Work.plainRun_final r start) rfl run
  · refine ⟨(Work.initial r start).potential r start, fun choices w run => ?_⟩
    obtain ⟨-, short⟩ := (Work.sound_initial r start).follow? run
    omega
  · intro choices w run
    obtain ⟨sound, -⟩ := (Work.sound_initial r start).follow? run
    refine ⟨fun place => Work.isSome_turnAt?_iff, fun done => ⟨sound.found_perm done, ?_⟩⟩
    rw [sound.edges_eq done]
    rfl

end Relation

/-- From 0 the symbol `a` leads to a set that leads to itself on `a` and back to 0 on `b`. -/
def Demo.merging : Relation Nat Char :=
  (Relation.withEpsilon 'e').addMany
    [⟨0, 'a', 0⟩, ⟨0, 'a', 1⟩, ⟨1, 'b', 0⟩, ⟨1, 'e', 2⟩, ⟨2, 'a', 2⟩]

/-- A plain run takes the pair that has waited longest until all are seen, and then drops the three
that still wait. It has the edges of the construction. -/
theorem Relation.determinize_any_order_demo :
    ∃ w, (Work.initial Demo.merging 0).follow? Demo.merging .all [0, 1, 2, 0, 0, 0] = some w ∧
      w.found.Perm (Demo.merging.discoveries 0) ∧
      w.edges = (Demo.merging.determinize 0).edges := by
  have ended : ((Work.initial Demo.merging 0).follow? Demo.merging .all [0, 1, 2, 0, 0, 0]).map
      Work.queue = some [] := by
    decide +kernel
  obtain ⟨w, run, done⟩ := Option.map_eq_some_iff.mp ended
  obtain ⟨found, same⟩ :=
    (((Relation.determinize_any_order Demo.merging 0).2 .all).2 _ w run).2 done
  exact ⟨w, run, found, congrArg SetAutomaton.edges same⟩

end Determinize
