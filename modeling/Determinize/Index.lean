import Determinize.SortedSet.Lemmas

/-!
An index files values under keys: each key has the set of the values filed under it. Entries are
kept in ascending order of their keys, so an index has one representation only.

`mem_lookup_add` says what filing one value does to the look-up of every key.
-/

universe u v

namespace Determinize

/-- Sets of values of type `ν`, by keys of type `κ`. -/
structure Index (κ : Type u) (ν : Type v) [TotalOrd κ] [TotalOrd ν] where
  entries : List (κ × SortedSet ν)
  ascending : (entries.map Prod.fst).Pairwise Before

namespace Index

variable {κ : Type u} {ν : Type v} [TotalOrd κ] [TotalOrd ν]

def empty : Index κ ν := ⟨[], Ascending.pairwise_nil⟩

instance : EmptyCollection (Index κ ν) := ⟨empty⟩

/-! ### Looking values up -/

/-- The set filed under `k`, if `k` is a key. -/
def find? (index : Index κ ν) (k : κ) : Option (SortedSet ν) :=
  (index.entries.find? fun e => e.1 = k).map Prod.snd

/-- The set filed under `k`; nothing is filed under a missing key. -/
def lookup (index : Index κ ν) (k : κ) : SortedSet ν := (index.find? k).getD ∅

def keys (index : Index κ ν) : List κ := index.entries.map Prod.fst

/-- The union of all sets in the index. -/
def values (index : Index κ ν) : SortedSet ν :=
  .ofList (index.entries.flatMap fun e => e.2.toList)

/-- The number of pairs of a key and a value filed under it. -/
def size (index : Index κ ν) : Nat := index.entries.foldr (fun e rest => e.2.size + rest) 0

/-! ### Filing values -/

/-- Files `v` under `k` in a list of entries with ascending keys. -/
def file (k : κ) (v : ν) : List (κ × SortedSet ν) → List (κ × SortedSet ν)
  | [] => [(k, .singleton v)]
  | e :: rest =>
    match compare k e.1 with
    | .lt => (k, .singleton v) :: e :: rest
    | .eq => (e.1, e.2.insert v) :: rest
    | .gt => e :: file k v rest

theorem keys_file (k : κ) (v : ν) (l : List (κ × SortedSet ν)) :
    (file k v l).map Prod.fst = Ascending.place k (l.map Prod.fst) := by
  induction l with
  | nil => rfl
  | cons e rest ih => cases h : compare k e.1 <;> simp [file, Ascending.place, h, ih]

def add (index : Index κ ν) (k : κ) (v : ν) : Index κ ν where
  entries := file k v index.entries
  ascending := keys_file k v index.entries ▸ Ascending.pairwise_place k index.ascending

/-! ### What filing does -/

section

variable {index other : Index κ ν} {k x : κ} {v w : ν}

theorem singleton_eq_insert (v : ν) : SortedSet.singleton v = (∅ : SortedSet ν).insert v := rfl

/-- A key below all keys of a list has no entry in it. -/
theorem find_eq_none_of_before {l : List (κ × SortedSet ν)}
    (h : ∀ y ∈ l.map Prod.fst, Before k y) : (l.find? fun e => e.1 = k) = none := by
  refine List.find?_eq_none.mpr fun e he => ?_
  simpa using (Before.ne (h e.1 (List.mem_map_of_mem he))).symm

theorem find_file {l : List (κ × SortedSet ν)} (hl : (l.map Prod.fst).Pairwise Before) :
    ((file k v l).find? fun e => e.1 = x).map Prod.snd =
      if x = k then some ((((l.find? fun e => e.1 = k).map Prod.snd).getD ∅).insert v)
      else (l.find? fun e => e.1 = x).map Prod.snd := by
  induction l with
  | nil =>
    by_cases hx : x = k
    · simp [file, hx, singleton_eq_insert]
    · simp [file, hx, Ne.symm hx]
  | cons e rest ih =>
    obtain ⟨he, hrest⟩ := List.pairwise_cons.mp hl
    cases hk : compare k e.1 with
    | lt =>
      have absent : ((e :: rest).find? fun e => e.1 = k) = none :=
        find_eq_none_of_before fun y hy => by
          rcases List.mem_cons.mp hy with rfl | hy
          · exact hk
          · exact Before.trans hk (he y hy)
      rw [absent]
      by_cases hx : x = k
      · simp [file, hk, hx, singleton_eq_insert]
      · simp [file, hk, hx, Ne.symm hx]
    | eq =>
      obtain rfl := compare_eq_iff.mp hk
      by_cases hx : x = e.1
      · simp [file, hx]
      · simp [file, hx, Ne.symm hx]
    | gt =>
      have hne : ¬ e.1 = k := Before.ne (compare_gt_iff.mp hk)
      by_cases hx : e.1 = x
      · subst hx
        simp [file, hk, hne]
      · simp [file, hk, hne, hx, ih hrest]

/-- Filing a value changes the set under its own key and no other. -/
theorem find?_add : (index.add k v).find? x =
    if x = k then some ((index.lookup k).insert v) else index.find? x :=
  find_file index.ascending

theorem lookup_add : (index.add k v).lookup x =
    if x = k then (index.lookup k).insert v else index.lookup x := by
  unfold lookup
  rw [find?_add]
  split <;> rfl

@[simp]
theorem mem_lookup_add :
    w ∈ (index.add k v).lookup x ↔ (x = k ∧ w = v) ∨ w ∈ index.lookup x := by
  rw [lookup_add]
  split
  next h => subst h; simp
  next h => simp [h]

@[simp]
theorem not_mem_lookup_empty : ¬ w ∈ (∅ : Index κ ν).lookup x := SortedSet.not_mem_empty w

theorem mem_keys_add : x ∈ (index.add k v).keys ↔ x = k ∨ x ∈ index.keys := by
  simp only [keys, add, keys_file, Ascending.mem_place]

end

end Index

end Determinize
