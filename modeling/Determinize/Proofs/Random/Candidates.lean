import Determinize.Proofs.Random.Monotonicity
import Determinize.Proofs.Random.Reachability
import Mathlib.Data.List.ProdSigma

/-!
The candidates of a random relation, and how many there are.

* `mem_candidates_iff`: the candidates are all transitions on a letter between any states, and all
  epsilon transitions between different ones. `regularTriples` and `silentPairs` list what they say,
  each once (`nodup_regularTriples`, `nodup_silentPairs`), so they can be counted.
* `selectFrom_sublist_candidates`: only candidates are kept. All of them are if every number is below
  its probability (`selectFrom_eq_candidates`), and none if no number is (`selectFrom_eq_nil`).
-/

namespace Determinize.Random

variable {σ : Type} {draws : Draws σ} {s : σ} {p e : Float} {size symbols : Nat}
  {alphabet : List Char} {t : Transition Nat Char} {sources : List Nat}

/-! ### Letters -/

/-- The lower-case letter with an index. -/
def letter (i : Nat) : Char := Char.ofNat ('a'.toNat + i)

/-- How many letters there are if some number of symbols is asked for: one at least, and no more than
the alphabet has. -/
def letterCount (symbols : Nat) : Nat := max 1 (min symbols 26)

theorem letters_eq (symbols : Nat) :
    letters symbols = (List.range (letterCount symbols)).map letter := by
  have all : "abcdefghijklmnopqrstuvwxyz".toList = (List.range 26).map letter := by decide
  rw [letters, all, ← List.map_take, List.take_range]
  congr 2
  simp only [letterCount]
  omega

theorem length_letters (symbols : Nat) : (letters symbols).length = letterCount symbols := by
  rw [letters_eq, List.length_map, List.length_range]

theorem nodup_letters (symbols : Nat) : (letters symbols).Nodup :=
  List.Nodup.sublist (List.take_sublist _ _) (by decide)

/-! ### Candidates -/

theorem mem_regularCandidates {source : Nat} : t ∈ regularCandidates size alphabet source ↔
    t.source = source ∧ t.symbol ∈ alphabet ∧ t.target < size := by
  simp only [regularCandidates, List.mem_flatMap, List.mem_map, List.mem_range]
  constructor
  · rintro ⟨a, ha, q, hq, rfl⟩
    exact ⟨rfl, ha, hq⟩
  · rintro ⟨rfl, ha, hq⟩
    exact ⟨t.symbol, ha, t.target, hq, rfl⟩

theorem mem_epsilonCandidates {source : Nat} : t ∈ epsilonCandidates size source ↔
    t.source = source ∧ t.symbol = epsilon ∧ t.target < size ∧ t.target ≠ source := by
  simp only [epsilonCandidates, List.mem_map, List.mem_filter, List.mem_range, decide_eq_true_eq]
  constructor
  · rintro ⟨q, ⟨hq, ne⟩, rfl⟩
    exact ⟨rfl, rfl, hq, ne⟩
  · obtain ⟨q, a, q'⟩ := t
    rintro ⟨rfl, rfl, hq, ne⟩
    exact ⟨q', ⟨hq, ne⟩, rfl⟩

/-- All candidates that leave some states, in the order in which numbers are drawn for them. -/
def candidates (size : Nat) (alphabet : List Char) (sources : List Nat) :
    List (Transition Nat Char) :=
  sources.flatMap fun source => regularCandidates size alphabet source ++
    epsilonCandidates size source

theorem mem_candidates_iff : t ∈ candidates size alphabet (List.range size) ↔
    t.source < size ∧ t.target < size ∧
      (t.symbol ∈ alphabet ∨ t.symbol = epsilon ∧ t.target ≠ t.source) := by
  simp only [candidates, List.mem_flatMap, List.mem_range, List.mem_append, mem_regularCandidates,
    mem_epsilonCandidates]
  constructor
  · rintro ⟨q, hq, ⟨rfl, ha, ht⟩ | ⟨rfl, ha, ht, ne⟩⟩
    · exact ⟨hq, ht, .inl ha⟩
    · exact ⟨hq, ht, .inr ⟨ha, ne⟩⟩
  · rintro ⟨hq, ht, ha | ⟨ha, ne⟩⟩
    · exact ⟨t.source, hq, .inl ⟨rfl, ha, ht⟩⟩
    · exact ⟨t.source, hq, .inr ⟨rfl, ha, ht, ne⟩⟩

/-! ### What is kept -/

theorem length_fractions (n : Nat) (s : σ) : (draws.fractions n s).length = n := by
  induction n generalizing s with
  | zero => rfl
  | succ n ih => exact congrArg (· + 1) (ih _)

/-- Each candidate is kept or dropped by a number of its own. -/
theorem select_fst (p : Float) (l : List (Transition Nat Char)) (s : σ) :
    (select draws p l s).1 =
      ((l.zip (draws.fractions l.length s)).filter fun x => x.2 < p).map Prod.fst := by
  induction l generalizing s with
  | nil => rfl
  | cons t rest ih =>
    simp only [select, ih, List.length_cons, Draws.fractions, List.zip_cons_cons,
      List.filter_cons, decide_eq_true_eq]
    split <;> rfl

theorem map_fst_zip_fractions (l : List (Transition Nat Char)) (s : σ) :
    (l.zip (draws.fractions l.length s)).map Prod.fst = l :=
  List.map_fst_zip (Nat.le_of_eq (length_fractions l.length s).symm)

theorem select_sublist_self (p : Float) (l : List (Transition Nat Char)) (s : σ) :
    (select draws p l s).1.Sublist l := by
  have part := (List.filter_sublist (p := fun x => x.2 < p)
    (l := l.zip (draws.fractions l.length s))).map Prod.fst
  rwa [← select_fst, map_fst_zip_fractions] at part

theorem select_eq_self {l : List (Transition Nat Char)}
    (all : ∀ x ∈ draws.fractions l.length s, x < p) : (select draws p l s).1 = l := by
  rw [select_fst, List.filter_eq_self.mpr, map_fst_zip_fractions]
  exact fun x hx => decide_eq_true (all x.2 (List.of_mem_zip hx).2)

theorem select_eq_nil {l : List (Transition Nat Char)}
    (none : ∀ x ∈ draws.fractions l.length s, ¬ x < p) : (select draws p l s).1 = [] := by
  rw [select_fst, List.filter_eq_nil_iff.mpr, List.map_nil]
  exact fun x hx => by simpa using none x.2 (List.of_mem_zip hx).2

theorem selectFrom_sublist_candidates (p e : Float) (sources : List Nat) (s : σ) :
    (selectFrom draws size alphabet p e sources s).1.Sublist
      (candidates size alphabet sources) := by
  induction sources generalizing s with
  | nil => exact .refl _
  | cons source sources ih =>
    exact ((select_sublist_self p _ _).append (select_sublist_self e _ _)).append (ih _)

theorem selectFrom_eq_candidates
    (regular : ∀ x ∈ regularNumbers draws size alphabet sources s, x < p)
    (silent : ∀ x ∈ silentNumbers draws size alphabet sources s, x < e) :
    (selectFrom draws size alphabet p e sources s).1 = candidates size alphabet sources := by
  induction sources generalizing s with
  | nil => rfl
  | cons source sources ih =>
    obtain ⟨regular, regularLater⟩ := List.forall_mem_append.mp regular
    obtain ⟨silent, silentLater⟩ := List.forall_mem_append.mp silent
    simp only [selectFrom, select_snd, select_eq_self regular, select_eq_self silent]
    exact congrArg (_ ++ ·) (ih regularLater silentLater)

theorem selectFrom_eq_nil
    (regular : ∀ x ∈ regularNumbers draws size alphabet sources s, ¬ x < p)
    (silent : ∀ x ∈ silentNumbers draws size alphabet sources s, ¬ x < e) :
    (selectFrom draws size alphabet p e sources s).1 = [] := by
  induction sources generalizing s with
  | nil => rfl
  | cons source sources ih =>
    obtain ⟨regular, regularLater⟩ := List.forall_mem_append.mp regular
    obtain ⟨silent, silentLater⟩ := List.forall_mem_append.mp silent
    simp only [selectFrom, select_snd, select_eq_nil regular, select_eq_nil silent]
    exact ih regularLater silentLater

/-! ### Counting -/

/-- The transitions on letters between the first `size` states. -/
def regularTriples (size : Nat) (alphabet : List Char) : List (Nat × Char × Nat) :=
  List.range size ×ˢ alphabet ×ˢ List.range size

/-- The pairs of different states among the first `size` ones. -/
def silentPairs (size : Nat) : List (Nat × Nat) :=
  (List.range size).flatMap fun q => ((List.range size).erase q).map fun p => (q, p)

theorem mem_regularTriples {q q' : Nat} {a : Char} :
    (q, a, q') ∈ regularTriples size alphabet ↔ q < size ∧ a ∈ alphabet ∧ q' < size := by
  simp [regularTriples]

theorem mem_silentPairs {q q' : Nat} :
    (q, q') ∈ silentPairs size ↔ q < size ∧ q' < size ∧ q' ≠ q := by
  simp only [silentPairs, List.mem_flatMap, List.mem_range, List.mem_map, Prod.mk.injEq,
    List.nodup_range.mem_erase_iff]
  constructor
  · rintro ⟨_, hq, _, ⟨ne, hq'⟩, rfl, rfl⟩
    exact ⟨hq, hq', ne⟩
  · rintro ⟨hq, hq', ne⟩
    exact ⟨q, hq, q', ⟨ne, hq'⟩, rfl, rfl⟩

theorem nodup_regularTriples (h : alphabet.Nodup) : (regularTriples size alphabet).Nodup :=
  List.nodup_range.product (h.product List.nodup_range)

theorem nodup_silentPairs (size : Nat) : (silentPairs size).Nodup := by
  refine List.nodup_flatMap.mpr ⟨fun q _ => ?_, List.nodup_range.imp fun {q q'} ne => ?_⟩
  · exact (List.nodup_range.erase q).map fun p p' same => (Prod.mk.inj same).2
  · intro pair hq hq'
    obtain ⟨p, -, rfl⟩ := List.mem_map.mp hq
    obtain ⟨p', -, same⟩ := List.mem_map.mp hq'
    exact ne (Prod.mk.inj same).1.symm

theorem length_regularTriples (size : Nat) (alphabet : List Char) :
    (regularTriples size alphabet).length = alphabet.length * size ^ 2 := by
  rw [regularTriples, List.length_product, List.length_product, List.length_range, Nat.pow_two,
    Nat.mul_left_comm]

theorem length_silentPairs (size : Nat) : (silentPairs size).length = size * (size - 1) := by
  have each : ∀ q ∈ List.range size,
      (((List.range size).erase q).map fun p => (q, p)).length = size - 1 := fun q hq => by
    rw [List.length_map, List.length_erase_of_mem hq, List.length_range]
  rw [silentPairs, List.length_flatMap, List.map_congr_left each, List.map_const',
    List.length_range, List.sum_replicate_nat]

end Determinize.Random
