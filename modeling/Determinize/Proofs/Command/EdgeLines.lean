import Determinize.Proofs.Command.Conversion
import Determinize.Proofs.SetAutomaton.Printing
import Determinize.Proofs.SetAutomaton.States

/-!
What a conversion prints without a table: one line for every edge, in three words.

The names and symbols in a list of transitions are without blanks, since its lines were cut at them.
The start comes from the command line and can be any text. But where a set has an edge, the start is
a state of the relation (`Discovered.start_mem_states`), and then all discovered sets consist of
states of the relation (`Discovered.subset_states`). So a start with blanks is in no edge, and
`visible_of_mem_edges` says of every conversion what `SetAutomaton.splitLines_display` asks for.
`convert_edge_lines` collects what follows for the text that is printed.
-/

namespace Determinize

open Text

variable {epsilon : Char} {input : List UInt8} {r : Relation String Char}

/-- Whatever the start is, no edge is written with a blank in its sets or for its symbol. -/
theorem TransitionList.visible_of_mem_edges (accepted : readRelation epsilon input = .ok r)
    {start : String} {e : Edge String Char} (he : e ∈ (r.determinize start).edges) :
    e.Visible := by
  obtain ⟨ts, h, rfl⟩ := readRelation_eq_ok_iff.mp accepted
  have named := h.wellNamed
  have wf : ((Relation.withEpsilon epsilon).addMany ts).WellFormed :=
    Relation.wellFormed_addMany (some epsilon) ts
  obtain ⟨hdisc, hread, htarget⟩ := Relation.mem_edges_determinize_iff.mp he
  -- an edge starts here, so the start is a state of the relation and has a name from the list
  have known := hdisc.start_mem_states wf hread
  constructor
  · intro q hq
    exact (isWord_of_mem_states named (hdisc.subset_states known q hq)).not_blank
  · obtain ⟨p, hp⟩ := wf.mem_edgesFromSet_iff.mp hread
    obtain ⟨q, -, hstep⟩ := Relation.mem_nextStatesFromSet.mp hp
    exact (named _ (Relation.mem_nextStates_addMany.mp hstep).2).symbol_not_blank
  · intro q hq
    rw [htarget] at hq
    exact (isWord_of_mem_states named (Relation.subset_stepSet_states hq)).not_blank

namespace Command

open TransitionList (readRelation visible_of_mem_edges)

/-- **The printed edges are lines of three words.** Whatever the start is, a conversion without a
table can be asked for, and on a list that can be read it succeeds and prints one line for every
edge, with a line feed behind each. The edges come in strictly ascending order. The words of a line
are the source and the symbol, each with a comma behind it, and the target. So the number of edges
and their symbols can be read off the text. -/
theorem convert_edge_lines (accepted : readRelation epsilon input = .ok r) (start : String) :
    (∃ arguments limit,
      Request.ofArguments arguments = .ok (.perform limit (.convert epsilon start false))) ∧
    (∀ arguments limit,
      Request.ofArguments arguments = .ok (.perform limit (.convert epsilon start false)) →
      (run arguments input).exitCode = 0 ∧
        (run arguments input).output = display (r.determinize start)) ∧
    splitLines (display (r.determinize start)).toList =
      ((r.determinize start).edges.toList.map fun e => (display e).toList) ++ [[]] ∧
    (r.determinize start).edges.toList.Pairwise (fun e f =>
      Before (e.source, e.symbol, e.target) (f.source, f.symbol, f.target)) ∧
    (∀ e ∈ (r.determinize start).edges, ∀ found, Runs (display e).toList found ↔
      found = [(display e.source).toList ++ [','], [e.symbol, ','], (display e.target).toList]) ∧
    (display (r.determinize start)).toList.count '\n' = (r.determinize start).edges.size ∧
    symbolsIn (display (r.determinize start)).toList =
      (r.determinize start).edges.toList.map Edge.symbol := by
  have visible : ∀ e ∈ (r.determinize start).edges, e.Visible := by
    intro e he
    exact visible_of_mem_edges accepted he
  refine ⟨?_, ?_, SetAutomaton.splitLines_display visible, ?_, ?_,
    SetAutomaton.count_display visible, SetAutomaton.symbolsIn_display visible⟩
  · exact ⟨_, .warn, ofArguments_convertArguments nofun⟩
  · intro arguments limit request
    exact run_of_read accepted request
  · exact (r.determinize start).edges.ascending
  · intro e he found
    rw [runs_iff, (visible e he).words_display]
    rfl

end Command

/-- Names and a symbol that are made of the signs in which edges are written. -/
def Demo.punctuatedDocument : List UInt8 :=
  Text.encode "\x7bp , q,\nq, a \x7bp\n".toList

/-- The signs do not get in the way, and from a start that is no state nothing is printed. -/
theorem Command.convert_edge_lines_demo :
    ∃ r, TransitionList.readRelation '_' Demo.punctuatedDocument = .ok r ∧
      (run ["convert", "-e", "_", "-s", "q,"] Demo.punctuatedDocument).output =
        "\x7bq,\x7d, a, \x7b\x7bp\x7d\n\x7b\x7bp\x7d, ,, \x7bq,\x7d\n" ∧
      symbolsIn (display (r.determinize "q,")).toList = ['a', ','] ∧
      (display (r.determinize "q,\n \x7bp")).toList.count '\n' = 0 := by
  obtain ⟨r, accepted, odd, known, symbols⟩ : ∃ r,
      TransitionList.readRelation '_' Demo.punctuatedDocument = .ok r ∧
      (r.determinize "q,\n \x7bp").edges.size = 0 ∧
      display (r.determinize "q,") =
        "\x7bq,\x7d, a, \x7b\x7bp\x7d\n\x7b\x7bp\x7d, ,, \x7bq,\x7d\n" ∧
      (r.determinize "q,").edges.toList.map Edge.symbol = ['a', ','] :=
    ⟨_, rfl, by decide +kernel, by decide +kernel, by decide +kernel⟩
  obtain ⟨-, runs, -, -, -, -, read⟩ := Command.convert_edge_lines accepted "q,"
  obtain ⟨-, -, -, -, -, count, -⟩ := Command.convert_edge_lines accepted "q,\n \x7bp"
  obtain ⟨-, output⟩ := runs ["convert", "-e", "_", "-s", "q,"] .warn (by decide +kernel)
  exact ⟨r, accepted, output.trans known, read.trans symbols, count.trans odd⟩

end Determinize
