import Determinize.Index
import Determinize.Proofs.SortedSet.Size
import Mathlib.Algebra.GroupWithZero.Nat

/-!
What an index contains.

* `Filled` says that something is filed under every key. Filing keeps it (`Filled.add`), and then
  the keys are exactly those under which something is found (`Filled.mem_keys_iff`).
* `size_add`: filing a value makes an index larger by one exactly if the value is new.
* `mem_values_iff`: `values` holds what is found under some key. `contents` lists the values with
  their repetitions; there are `size` of them.
* `Filled.eq_of_lookup`: filled indices with the same look-ups are equal.
-/

universe u v

namespace Determinize.Index

variable {κ : Type u} {ν : Type v} [TotalOrd κ] [TotalOrd ν] {index : Index κ ν} {k : κ} {v : ν}

/-! ### Entries and look-ups -/

/-- The entry of a key is what is found under it. -/
theorem lookup_of_mem_entries {e : κ × SortedSet ν} (he : e ∈ index.entries) :
    index.lookup e.1 = e.2 := by
  obtain ⟨before, after, split⟩ := List.append_of_mem he
  have hfirst : index.entries.find? (fun f => f.1 = e.1) = some e := by
    have sorted := index.ascending
    rw [split, List.map_append, List.map_cons, List.pairwise_append] at sorted
    rw [split]
    refine List.find?_eq_some_iff_append.mpr ⟨by simp, before, after, rfl, ?_⟩
    intro f hf
    have : Before f.1 e.1 := sorted.2.2 _ (List.mem_map_of_mem hf) _ List.mem_cons_self
    simpa using this.ne
  rw [lookup, find?, hfirst]
  rfl

/-- What is found under a key is filed in an entry of that key. -/
theorem mem_entries_of_mem_lookup (h : v ∈ index.lookup k) :
    (k, index.lookup k) ∈ index.entries := by
  cases hfind : index.entries.find? fun e => e.1 = k with
  | none =>
    rw [lookup, find?, hfind] at h
    exact absurd h (SortedSet.not_mem_empty v)
  | some e =>
    have he : e ∈ index.entries := List.mem_of_find?_eq_some hfind
    have hk : e.1 = k := by simpa using List.find?_some hfind
    rw [← hk, lookup_of_mem_entries he]
    exact he

/-- What is found under a key is a member of the set that is filed there. -/
theorem mem_lookup_iff : v ∈ index.lookup k ↔ ∃ found, index.find? k = some found ∧ v ∈ found := by
  rw [lookup]
  cases index.find? k with
  | none => simp
  | some found => simp

theorem mem_keys_of_mem_lookup (h : v ∈ index.lookup k) : k ∈ index.keys :=
  List.mem_map.mpr ⟨_, mem_entries_of_mem_lookup h, rfl⟩

/-! ### No empty entries -/

/-- Something is filed under every key. -/
def Filled (index : Index κ ν) : Prop := ∀ e ∈ index.entries, e.2 ≠ ∅

theorem filled_empty : (∅ : Index κ ν).Filled := by
  intro e he
  exact absurd he List.not_mem_nil

theorem Filled.add (h : index.Filled) : (index.add k v).Filled := by
  intro e he
  rw [← lookup_of_mem_entries he, lookup_add]
  split
  next =>
    exact SortedSet.ne_empty_of_mem (SortedSet.mem_insert.mpr (.inl rfl))
  next hne =>
    have hkey : e.1 ∈ (index.add k v).keys := List.mem_map_of_mem he
    obtain ⟨f, hf, hfe⟩ := List.mem_map.mp ((mem_keys_add.mp hkey).resolve_left hne)
    rw [← hfe, lookup_of_mem_entries hf]
    exact h f hf

/-- The keys of a filled index are those under which something is found. -/
theorem Filled.mem_keys_iff (h : index.Filled) : k ∈ index.keys ↔ ∃ v, v ∈ index.lookup k := by
  constructor
  · intro hk
    obtain ⟨e, he, rfl⟩ := List.mem_map.mp hk
    rw [lookup_of_mem_entries he]
    exact SortedSet.ne_empty_iff.mp (h e he)
  · rintro ⟨v, hv⟩
    exact mem_keys_of_mem_lookup hv

/-! ### One representation for each index -/

/-- The entries are the keys, each with what is found under it. -/
theorem entries_eq (index : Index κ ν) :
    index.entries = index.keys.map fun k => (k, index.lookup k) := by
  rw [keys, List.map_map]
  conv_lhs => rw [← List.map_id index.entries]
  apply List.map_congr_left
  intro e he
  simp [lookup_of_mem_entries he]

/-- Filled indices with the same look-ups are equal. -/
theorem Filled.eq_of_lookup {other : Index κ ν} (h : index.Filled) (h' : other.Filled)
    (same : ∀ k, index.lookup k = other.lookup k) : index = other := by
  have keys : index.keys = other.keys := by
    refine Ascending.eq_of_ascending index.ascending other.ascending fun k => ?_
    show k ∈ index.keys ↔ k ∈ other.keys
    rw [h.mem_keys_iff, h'.mem_keys_iff, same]
  have entries : index.entries = other.entries := by
    rw [index.entries_eq, other.entries_eq, keys]
    simp [same]
  cases index
  cases other
  simp_all

/-! ### Counting -/

theorem size_eq_sum : index.size = (index.entries.map fun e => e.2.size).sum := by
  rw [size, List.sum, List.foldr_map]

theorem sum_file {l : List (κ × SortedSet ν)} (hl : (l.map Prod.fst).Pairwise Before) :
    ((file k v l).map fun e => e.2.size).sum =
      if v ∈ ((l.find? fun e => e.1 = k).map Prod.snd).getD ∅ then (l.map fun e => e.2.size).sum
      else (l.map fun e => e.2.size).sum + 1 := by
  induction l with
  | nil => simp [file, SortedSet.size, SortedSet.singleton]
  | cons e rest ih =>
    obtain ⟨he, hrest⟩ := List.pairwise_cons.mp hl
    cases hk : compare k e.1 with
    | lt =>
      have absent : ((e :: rest).find? fun e => e.1 = k) = none :=
        find_eq_none_of_before fun y hy => by
          rcases List.mem_cons.mp hy with rfl | hy
          · exact hk
          · exact Before.trans hk (he y hy)
      rw [absent]
      simp [file, hk, SortedSet.size, SortedSet.singleton, Nat.add_comm]
    | eq =>
      obtain rfl := compare_eq_iff.mp hk
      have hfile : file e.1 v (e :: rest) = (e.1, e.2.insert v) :: rest := by simp [file]
      rw [hfile, List.map_cons, List.sum_cons, SortedSet.size_insert]
      by_cases hv : v ∈ e.2
      · simp [hv]
      · simp [hv]
        omega
    | gt =>
      have hne : ¬ e.1 = k := Before.ne (compare_gt_iff.mp hk)
      have hfile : file k v (e :: rest) = e :: file k v rest := by simp [file, hk]
      rw [hfile, List.map_cons, List.sum_cons, ih hrest, List.find?_cons_of_neg (by simpa using hne),
        List.map_cons, List.sum_cons]
      split <;> omega

/-- Filing a value makes an index larger by one exactly if the value is new under its key. -/
theorem size_add :
    (index.add k v).size = if v ∈ index.lookup k then index.size else index.size + 1 := by
  rw [size_eq_sum, size_eq_sum]
  exact sum_file index.ascending

/-! ### All values -/

/-- The values in an index, each as often as it is filed. -/
def contents (index : Index κ ν) : List ν := index.entries.flatMap fun e => e.2.toList

theorem length_contents : index.contents.length = index.size := by
  rw [contents, List.length_flatMap, size_eq_sum]
  rfl

theorem mem_contents_iff : v ∈ index.contents ↔ ∃ k, v ∈ index.lookup k := by
  rw [contents, List.mem_flatMap]
  constructor
  · rintro ⟨e, he, hv⟩
    refine ⟨e.1, ?_⟩
    rw [lookup_of_mem_entries he]
    exact hv
  · rintro ⟨k, hv⟩
    exact ⟨_, mem_entries_of_mem_lookup hv, hv⟩

theorem mem_values_iff : v ∈ index.values ↔ ∃ k, v ∈ index.lookup k := by
  rw [values, SortedSet.mem_ofList]
  exact mem_contents_iff

/-- A filled index of size zero has no keys. -/
theorem Filled.keys_eq_nil (h : index.Filled) (hsize : index.size = 0) : index.keys = [] := by
  have nothing : index.contents = [] := by
    rw [← List.length_eq_zero_iff, length_contents]
    exact hsize
  apply List.eq_nil_iff_forall_not_mem.mpr
  intro k hk
  obtain ⟨v, hv⟩ := h.mem_keys_iff.mp hk
  have : v ∈ index.contents := mem_contents_iff.mpr ⟨k, hv⟩
  rw [nothing] at this
  exact List.not_mem_nil this

end Determinize.Index
