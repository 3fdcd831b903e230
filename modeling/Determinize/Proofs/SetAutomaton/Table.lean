import Determinize.Proofs.SetAutomaton.Lookup
import Determinize.Proofs.SetAutomaton.Legibility
import Determinize.SetAutomaton.Table

/-!
The transition table as a picture of an automaton.

* `Shows` says of records, that is, of texts in rows and columns, that they are a picture of an
  automaton: which texts stand in the header and in front of the rows, what the cell of a state and a
  symbol holds, and how many cells hold something else than a dash.
* `Deterministic.shows_table`: the records of the table of a deterministic automaton are a picture
  of it. What is counted and what is looked up are two traversals of the edges; they agree because
  the pairs of a state and a symbol whose cell is no dash are those of the edges whose target is not
  written as one (`Deterministic.countP_table`).
* `TellsApart` says that the arrow and the dash are no texts of states, so that they mark the initial
  row and the missing edges. `Deterministic.tellsApart_table` has this for states that are written
  plainly, whose sets begin with a brace. Other states can have sets that are written as a dash, or as
  the label with the arrow (`not_forall_tellsApart`).
* `Shows.eq`: if states are legible, then records are a picture of one automaton only. First the
  symbols are read off the header, then the states off the labels, among them the initial one, and
  then the edges off the cells.
* `table_faithful` says all of this of subset constructions.
-/

namespace Determinize

open Text

/-! ### Texts in rows and columns -/

namespace Text

/-- The texts of a grid, row by row, the header first. -/
def Grid.records (grid : Grid) : List (List (List Char)) :=
  (grid.header :: grid.rows).map fun row => row.map Cell.written

/-- The text in a row and a column, both counted from zero. -/
def textAt (records : List (List (List Char))) (row column : Nat) : Option (List Char) :=
  records[row]?.bind fun record => record[column]?

/-- A bold label with an arrow in front. -/
def highlighted (label : String) : List Char := (Cell.bold ("→ " ++ label)).written

theorem highlighted_injective : highlighted.Injective := by
  intro label label' same
  have texts : ("→ " ++ label).toList = ("→ " ++ label').toList :=
    List.append_cancel_left (List.append_cancel_right same)
  rw [String.toList_append, String.toList_append] at texts
  exact String.toList_inj.mp (List.append_cancel_left texts)

end Text

namespace SetAutomaton

variable {Q S : Type} [TotalOrd Q] [TotalOrd S]

theorem source_mem_states {a : SetAutomaton Q S} {e : Edge Q S} (he : e ∈ a.edges) :
    e.source ∈ a.states := by
  rw [states, SortedSet.mem_ofList]
  exact List.mem_cons_of_mem _ (List.mem_flatMap.mpr ⟨e, he, List.mem_cons_self⟩)

theorem initial_mem_states (a : SetAutomaton Q S) : a.initial ∈ a.states := by
  rw [states, SortedSet.mem_ofList]
  exact List.mem_cons_self

theorem symbol_mem_alphabet {a : SetAutomaton Q S} {e : Edge Q S} (he : e ∈ a.edges) :
    e.symbol ∈ a.alphabet := SortedSet.mem_map.mpr ⟨e, he, rfl⟩

/-- A source has at most one edge on a symbol. -/
def Deterministic (a : SetAutomaton Q S) : Prop :=
  ∀ e ∈ a.edges, ∀ f ∈ a.edges, e.source = f.source → e.symbol = f.symbol → e = f

theorem Deterministic.successor?_of_mem {a : SetAutomaton Q S} (deterministic : a.Deterministic)
    {source target : StateSet Q} {symbol : S} (edge : ⟨source, symbol, target⟩ ∈ a.edges) :
    a.successor? source symbol = some target := by
  refine successor?_eq_some_iff.mpr ⟨edge, fun other hother => .inl ?_⟩
  exact congrArg Edge.target (deterministic _ hother _ edge rfl rfl)

/-- An edge is known by its source and its symbol. -/
theorem Deterministic.nodup_map {a : SetAutomaton Q S} (deterministic : a.Deterministic)
    {es : List (Edge Q S)} (sub : es.Sublist a.edges.toList) :
    (es.map fun e => (e.source, e.symbol)).Nodup := by
  refine List.Nodup.map_on ?_ (a.edges.nodup_toList.sublist sub)
  intro e he f hf same
  exact deterministic e (sub.subset he) f (sub.subset hf) (congrArg Prod.fst same)
    (congrArg Prod.snd same)

/-- The pairs of a state and a symbol, row by row. -/
def pairs (a : SetAutomaton Q S) : List (StateSet Q × S) := a.states.toList ×ˢ a.alphabet.toList

theorem mem_pairs {a : SetAutomaton Q S} {e : Edge Q S} (he : e ∈ a.edges) :
    (e.source, e.symbol) ∈ a.pairs :=
  List.mem_product.mpr ⟨source_mem_states he, symbol_mem_alphabet he⟩

theorem nodup_pairs (a : SetAutomaton Q S) : a.pairs.Nodup :=
  a.states.nodup_toList.product a.alphabet.nodup_toList

variable [Display Q] [Display S] {a b : SetAutomaton Q S}

/-- The records are a picture of the automaton: below a header with the symbols there is a row for
every state, and in it a label and a cell for every symbol, all in ascending order. -/
structure Shows (records : List (List (List Char))) (a : SetAutomaton Q S) : Prop where
  height : records.length = a.states.size + 1
  width : ∀ record ∈ records, record.length = a.alphabet.size + 1
  header : records[0]? =
    some ("State".toList :: a.alphabet.toList.map fun symbol => (display symbol).toList)
  label : ∀ (row : Nat) (state : StateSet Q), a.states.toList[row]? = some state →
    state ≠ a.initial → textAt records (row + 1) 0 = some (display state).toList
  initial : ∀ row, a.states.toList[row]? = some a.initial →
    textAt records (row + 1) 0 = some (highlighted (display a.initial))
  cell : ∀ (row column : Nat) (state : StateSet Q) (symbol : S),
    a.states.toList[row]? = some state → a.alphabet.toList[column]? = some symbol →
      (∀ target, ⟨state, symbol, target⟩ ∈ a.edges →
        textAt records (row + 1) (column + 1) = some (display target).toList) ∧
      ((∀ target, ¬ ⟨state, symbol, target⟩ ∈ a.edges) →
        textAt records (row + 1) (column + 1) = some ['-'])
  filled : (records.tail.flatMap List.tail).countP (fun text => text ≠ ['-']) =
    a.edges.toList.countP fun e => (display e.target).toList ≠ ['-']

/-- The arrow stands in the row of the initial state only, and a dash in place of missing edges only,
so that there are as many other cells as edges. -/
structure TellsApart (records : List (List (List Char))) (a : SetAutomaton Q S) : Prop where
  arrow : ∃ row, a.states.toList[row]? = some a.initial ∧ ∀ i text,
    textAt records i 0 = some text → ((∃ label, text = highlighted label) ↔ i = row + 1)
  no_dash : ∀ target : StateSet Q, (display target).toList ≠ ['-']
  count : (records.tail.flatMap List.tail).countP (fun text => text ≠ ['-']) = a.edges.size

/-! ### Texts in the table -/

section

omit [Display S]

theorem display_ne_highlighted [PlainDisplay Q] (state : StateSet Q) (label : String) :
    (display state).toList ≠ highlighted label := by
  rw [toList_displaySet]
  intro same
  cases (List.cons.inj same).1

theorem display_ne_dash [PlainDisplay Q] (state : StateSet Q) : (display state).toList ≠ ['-'] := by
  rw [toList_displaySet]
  intro same
  cases (List.cons.inj same).1

theorem written_rowLabel_initial (a : SetAutomaton Q S) :
    (a.rowLabel a.initial).written = highlighted (display a.initial) := by
  rw [rowLabel, if_pos rfl, highlighted]

theorem written_rowLabel {state : StateSet Q} (h : state ≠ a.initial) :
    (a.rowLabel state).written = (display state).toList := by
  rw [rowLabel, if_neg h, Cell.written]

/-- The arrow is in front of the label of the initial state only. -/
theorem highlighted_rowLabel_iff [PlainDisplay Q] {state : StateSet Q} :
    (∃ label, (a.rowLabel state).written = highlighted label) ↔ state = a.initial := by
  constructor
  · rintro ⟨label, same⟩
    by_contra ne
    rw [written_rowLabel ne] at same
    exact display_ne_highlighted state label same
  · rintro rfl
    exact ⟨_, written_rowLabel_initial a⟩

variable {state target : StateSet Q} {symbol : S}

theorem written_cell_of_some (found : a.successor? state symbol = some target) :
    (a.cell state symbol).written = (display target).toList := by
  rw [cell, found]
  rfl

theorem written_cell_of_none (missing : a.successor? state symbol = none) :
    (a.cell state symbol).written = ['-'] := by
  simp [cell, missing, Cell.written]

/-- A cell holds something else than a dash exactly if there is an edge to a state that is written as
something else. -/
theorem Deterministic.written_cell_ne_dash_iff (deterministic : a.Deterministic) :
    (a.cell state symbol).written ≠ ['-'] ↔
      ∃ target, ⟨state, symbol, target⟩ ∈ a.edges ∧ (display target).toList ≠ ['-'] := by
  cases found : a.successor? state symbol with
  | none =>
    refine iff_of_false (fun full => full (written_cell_of_none found)) ?_
    rintro ⟨target, edge, -⟩
    exact successor?_eq_none_iff.mp found target edge
  | some target =>
    rw [written_cell_of_some found]
    constructor
    · exact fun full => ⟨target, mem_edges_of_successor? found, full⟩
    · rintro ⟨other, edge, full⟩
      rw [deterministic.successor?_of_mem edge] at found
      exact Option.some.inj found ▸ full

/-- The pairs whose cell is no dash are those of the edges to states that are not written as one. -/
theorem Deterministic.filter_pairs_perm (deterministic : a.Deterministic) :
    (a.pairs.filter fun pair => (a.cell pair.1 pair.2).written ≠ ['-']).Perm
      ((a.edges.toList.filter fun e => (display e.target).toList ≠ ['-']).map
        fun e => (e.source, e.symbol)) := by
  apply (List.perm_ext_iff_of_nodup (a.nodup_pairs.filter _)
    (deterministic.nodup_map List.filter_sublist)).mpr
  rintro ⟨state, symbol⟩
  rw [List.mem_filter, List.mem_map]
  constructor
  · rintro ⟨-, full⟩
    obtain ⟨target, edge, shown⟩ :=
      deterministic.written_cell_ne_dash_iff.mp (of_decide_eq_true full)
    exact ⟨_, List.mem_filter.mpr ⟨edge, decide_eq_true shown⟩, rfl⟩
  · rintro ⟨e, he, same⟩
    cases same
    obtain ⟨edge, shown⟩ := List.mem_filter.mp he
    refine ⟨mem_pairs edge, decide_eq_true ?_⟩
    exact deterministic.written_cell_ne_dash_iff.mpr ⟨e.target, edge, of_decide_eq_true shown⟩

end

theorem records_table (a : SetAutomaton Q S) : a.table.records =
    ("State".toList :: a.alphabet.toList.map fun symbol => (display symbol).toList) ::
      a.states.toList.map fun state => (a.rowLabel state).written ::
        a.alphabet.toList.map fun symbol => (a.cell state symbol).written := by
  simp [Grid.records, table, row, Cell.written, Function.comp_def]

theorem textAt_label (a : SetAutomaton Q S) (row : Nat) :
    textAt a.table.records (row + 1) 0 =
      a.states.toList[row]?.map fun state => (a.rowLabel state).written := by
  cases h : a.states.toList[row]? with
  | none => simp [textAt, records_table, h]
  | some state => simp [textAt, records_table, h]

theorem textAt_cell {row column : Nat} {state : StateSet Q} {symbol : S}
    (h : a.states.toList[row]? = some state) (h' : a.alphabet.toList[column]? = some symbol) :
    textAt a.table.records (row + 1) (column + 1) = some (a.cell state symbol).written := by
  simp [textAt, records_table, h, h']

theorem cells_table (a : SetAutomaton Q S) : a.table.records.tail.flatMap List.tail =
    a.pairs.map fun pair => (a.cell pair.1 pair.2).written := by
  simp [records_table, pairs, SProd.sprod, List.product, List.map_flatMap, List.flatMap_map,
    Function.comp_def]

/-- There is one text that is no dash for every edge to a state that is not written as one. -/
theorem Deterministic.countP_table (deterministic : a.Deterministic) :
    (a.table.records.tail.flatMap List.tail).countP (fun text => text ≠ ['-']) =
      a.edges.toList.countP fun e => (display e.target).toList ≠ ['-'] := by
  rw [cells_table, List.countP_map, List.countP_eq_length_filter, List.countP_eq_length_filter]
  exact deterministic.filter_pairs_perm.length_eq.trans (List.length_map _)

/-! ### The table as a picture -/

theorem Deterministic.shows_table (deterministic : a.Deterministic) : Shows a.table.records a where
  height := by simp [records_table, SortedSet.size]
  width := by
    rw [records_table]
    simp [SortedSet.size]
  header := by rw [records_table]; rfl
  label row state h ne := by rw [textAt_label, h, Option.map_some, written_rowLabel ne]
  initial row h := by rw [textAt_label, h, Option.map_some, written_rowLabel_initial]
  cell row column state symbol h h' := by
    rw [textAt_cell h h']
    refine ⟨fun target edge => ?_, fun missing => ?_⟩
    · rw [written_cell_of_some (deterministic.successor?_of_mem edge)]
    · rw [written_cell_of_none (successor?_eq_none_iff.mpr missing)]
  filled := deterministic.countP_table

theorem Deterministic.tellsApart_table [PlainDisplay Q] (deterministic : a.Deterministic) :
    TellsApart a.table.records a where
  arrow := by
    obtain ⟨row, h⟩ := List.mem_iff_getElem?.mp a.initial_mem_states
    refine ⟨row, h, fun i text htext => ?_⟩
    cases i with
    | zero =>
      have corner : text = "State".toList := by
        simpa [textAt, records_table] using htext.symm
      refine iff_of_false ?_ (by omega)
      rintro ⟨label, same⟩
      cases (List.cons.inj (corner.symm.trans same)).1
    | succ i =>
      rw [textAt_label, Option.map_eq_some_iff] at htext
      obtain ⟨state, hstate, rfl⟩ := htext
      rw [highlighted_rowLabel_iff, Nat.succ_inj]
      constructor
      · rintro rfl
        exact (List.getElem?_inj (List.getElem?_eq_some_iff.mp hstate).1 a.states.nodup_toList).mp
          (hstate.trans h.symm)
      · rintro rfl
        exact Option.some.inj (hstate.symm.trans h)
  no_dash := display_ne_dash
  count := by
    rw [deterministic.countP_table, SortedSet.size]
    exact List.countP_eq_length.mpr fun e _ => decide_eq_true (display_ne_dash e.target)

/-! ### Reading a table -/

section

variable {a b : SetAutomaton Q Char} {records : List (List (List Char))}

theorem Shows.alphabet_eq (h : Shows records a) (h' : Shows records b) :
    a.alphabet = b.alphabet := by
  have headers := (List.cons.inj (Option.some.inj (h.header.symm.trans h'.header))).2
  refine SortedSet.toList_inj (List.map_injective_iff.mpr ?_ headers)
  intro c d same
  exact List.singleton_inj.mp (by simpa [display] using same)

variable [PlainDisplay Q]

/-- The rows stand for the same states. -/
theorem Shows.state_eq (legible : Legible Q) (h : Shows records a) (h' : Shows records b)
    {row : Nat} {state state' : StateSet Q} (hs : a.states.toList[row]? = some state)
    (hs' : b.states.toList[row]? = some state') :
    state = state' ∧ (state = a.initial ↔ state' = b.initial) := by
  by_cases first : state = a.initial
  · subst first
    have text := h.initial row hs
    by_cases first' : state' = b.initial
    · subst first'
      have same := highlighted_injective (Option.some.inj (text.symm.trans (h'.initial row hs')))
      exact ⟨legible.eq_of_display_eq same, iff_of_true rfl rfl⟩
    · have same := Option.some.inj (text.symm.trans (h'.label row state' hs' first'))
      exact absurd same.symm (display_ne_highlighted state' _)
  · have text := h.label row state hs first
    by_cases first' : state' = b.initial
    · subst first'
      have same := Option.some.inj (text.symm.trans (h'.initial row hs'))
      exact absurd same (display_ne_highlighted state _)
    · have same := Option.some.inj (text.symm.trans (h'.label row state' hs' first'))
      exact ⟨legible.eq_of_display_eq (String.toList_inj.mp same), iff_of_false first first'⟩

theorem Shows.states_eq (legible : Legible Q) (h : Shows records a) (h' : Shows records b) :
    a.states = b.states := by
  have size : a.states.toList.length = b.states.toList.length :=
    Nat.succ.inj (h.height.symm.trans h'.height)
  refine SortedSet.toList_inj (List.ext_getElem size fun row hrow hrow' => ?_)
  exact (h.state_eq legible h' (List.getElem?_eq_getElem hrow) (List.getElem?_eq_getElem hrow')).1

theorem Shows.initial_eq (legible : Legible Q) (h : Shows records a) (h' : Shows records b) :
    a.initial = b.initial := by
  obtain ⟨row, hs⟩ := List.mem_iff_getElem?.mp a.initial_mem_states
  have hs' : b.states.toList[row]? = some a.initial := by rw [← h.states_eq legible h', hs]
  exact (h.state_eq legible h' hs hs').2.mp rfl

theorem Shows.mem_edges (legible : Legible Q) (h : Shows records a) (h' : Shows records b)
    {e : Edge Q Char} (he : e ∈ a.edges) : e ∈ b.edges := by
  obtain ⟨row, hs⟩ := List.mem_iff_getElem?.mp (source_mem_states he)
  obtain ⟨column, hc⟩ := List.mem_iff_getElem?.mp (symbol_mem_alphabet he)
  have text := (h.cell row column e.source e.symbol hs hc).1 e.target he
  rw [h.states_eq legible h'] at hs
  rw [h.alphabet_eq h'] at hc
  obtain ⟨full, empty⟩ := h'.cell row column e.source e.symbol hs hc
  by_cases other : ∃ target, ⟨e.source, e.symbol, target⟩ ∈ b.edges
  · obtain ⟨target, edge⟩ := other
    have same := String.toList_inj.mp (Option.some.inj (text.symm.trans (full target edge)))
    rw [← legible.eq_of_display_eq same] at edge
    exact edge
  · have dash := Option.some.inj (text.symm.trans (empty (not_exists.mp other)))
    exact absurd dash (display_ne_dash e.target)

/-- Records are a picture of one automaton only. -/
theorem Shows.eq (legible : Legible Q) (h : Shows records a) (h' : Shows records b) : a = b := by
  have initial := h.initial_eq legible h'
  have edges : a.edges = b.edges := by
    ext e
    exact ⟨h.mem_edges legible h', h'.mem_edges legible h⟩
  cases a
  cases b
  cases initial
  cases edges
  rfl

end

end SetAutomaton

open SetAutomaton (Shows TellsApart)

theorem Relation.deterministic_determinize {Q S : Type} [TotalOrd Q] [TotalOrd S]
    (r : Relation Q S) (start : Q) : (r.determinize start).Deterministic :=
  fun _ he _ hf sameSource sameSymbol => eq_of_mem_edges he hf sameSource sameSymbol

/-- **The transition table is a faithful picture.** The records of the table of a subset construction
show its automaton, whatever its states and symbols are. If states are written plainly, then they tell
the initial row from the others and edges from missing ones. If moreover the states are written as
numerals and the symbols are characters, then constructions with the same records are the same. -/
theorem table_faithful :
    (∀ {Q S : Type} [TotalOrd Q] [TotalOrd S] [Display Q] [Display S] (r : Relation Q S)
      (start : Q), Shows (r.determinize start).table.records (r.determinize start)) ∧
    (∀ {Q S : Type} [TotalOrd Q] [TotalOrd S] [Display Q] [Display S] [PlainDisplay Q]
      (r : Relation Q S) (start : Q),
        TellsApart (r.determinize start).table.records (r.determinize start)) ∧
    ∀ {Q : Type} [TotalOrd Q] [Display Q], Numeric Q →
      ∀ (r r' : Relation Q Char) (start start' : Q),
        (r.determinize start).table.records = (r'.determinize start').table.records →
          r.determinize start = r'.determinize start' := by
  refine ⟨fun r start => (r.deterministic_determinize start).shows_table,
    fun r start => (r.deterministic_determinize start).tellsApart_table, ?_⟩
  intro Q _ _ numeric r r' start start' same
  have := numeric.plain
  have shows := (r.deterministic_determinize start).shows_table
  have shows' := (r'.deterministic_determinize start').shows_table
  rw [← same] at shows'
  exact shows.eq numeric.legible shows'

/-- The demo's table has three filled cells in four rows. A transition from a state that is not
reached does not change it, so it does not change the automaton either. -/
theorem table_faithful_demo :
    (Demo.relation.determinize Demo.start).table.records.length = 5 ∧
    ((Demo.relation.determinize Demo.start).table.records.tail.flatMap List.tail).countP
      (fun text => text ≠ ['-']) = 3 ∧
    textAt (Demo.relation.determinize Demo.start).table.records 1 0 =
      some (highlighted "\x7b1,2,3\x7d") ∧
    (Demo.relation.add ⟨20, 'a', 1⟩).determinize Demo.start =
      Demo.relation.determinize Demo.start := by
  obtain ⟨shown, told, unique⟩ := table_faithful
  have picture := shown Demo.relation Demo.start
  have marks := told Demo.relation Demo.start
  refine ⟨picture.height.trans (by decide +kernel), marks.count.trans (by decide +kernel),
    (picture.initial 0 (by decide +kernel)).trans (by decide +kernel), ?_⟩
  exact unique numeric_nat _ _ _ _ (by decide +kernel)

/-! ### States with a way of their own -/

/-- Numbers whose collections are all written as `text`. -/
def Demo.Uniform (_text : String) : Type := Nat

instance (text : String) : TotalOrd (Demo.Uniform text) := inferInstanceAs (TotalOrd Nat)

instance (text : String) (n : Nat) : OfNat (Demo.Uniform text) n := ⟨n⟩

instance (text : String) : Display (Demo.Uniform text) where
  display := Nat.repr
  displayAll _ := text

/-- An edge between two sets that are both written as `text`. -/
def Demo.uniform (text : String) : SetAutomaton (Uniform text) Char :=
  ((Relation.withEpsilon 'e').add ⟨1, 'a', 2⟩).determinize 1

/-- If sets of states are written as a dash, then the cell of an edge cannot be told from an empty
one. If they are written as the label with the arrow, then there is more than one such label. -/
theorem not_forall_tellsApart :
    ⟨.ofList [1], 'a', .ofList [2]⟩ ∈ (Demo.uniform "-").edges ∧
    ((Demo.uniform "-").table.records.tail.flatMap List.tail).countP
      (fun text => text ≠ ['-']) = 0 ∧
    textAt (Demo.uniform (.ofList (highlighted "1"))).table.records 1 0 =
      some (highlighted (.ofList (highlighted "1"))) ∧
    textAt (Demo.uniform (.ofList (highlighted "1"))).table.records 2 0 =
      some (highlighted "1") ∧
    ¬ ∀ {Q S : Type} [TotalOrd Q] [TotalOrd S] [Display Q] [Display S] (r : Relation Q S)
      (start : Q), TellsApart (r.determinize start).table.records (r.determinize start) := by
  refine ⟨by decide +kernel, by decide +kernel, by decide +kernel, by decide +kernel,
    fun claimed => ?_⟩
  have apart : TellsApart (Demo.uniform "-").table.records (Demo.uniform "-") := claimed _ _
  exact absurd apart.count (by decide +kernel)

end Determinize
