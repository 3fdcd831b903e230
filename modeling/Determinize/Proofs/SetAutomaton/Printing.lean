import Determinize.Proofs.Text.Lines
import Determinize.Proofs.Text.Words
import Determinize.SetAutomaton.Basic

/-!
How automata over characters are written, and what can be read back from that.

* `isWord_display`: a set is written as one word if its members are written without blanks. Whether
  the members can be told apart in it is another matter, since a name can have commas and braces.
* `Edge.Visible` says that nothing in an edge is written with a blank. Such an edge is written in
  three words, which are its `tokens` (`Edge.Visible.words_display`), and on one line.
* `SetAutomaton.splitLines_display`: if all edges are visible, then the lines of an automaton are
  its edges, and `symbolsIn` reads their symbols off (`SetAutomaton.symbolsIn_display`).
-/

namespace Determinize

open Text

variable {Q : Type} [TotalOrd Q] [Display Q]

/-! ### Sets -/

theorem toList_displaySet [PlainDisplay Q] (states : StateSet Q) :
    (display states).toList =
      ['\x7b'] ++ [','].intercalate (states.toList.map fun q => (display q).toList) ++ ['\x7d'] := by
  have written : display states = displayAll states.toList := rfl
  rw [written, PlainDisplay.displayAll_eq]
  simp [inBraces, Function.comp_def]

/-- A set is written as one word if its members are written without blanks. -/
theorem isWord_display [PlainDisplay Q] {states : StateSet Q}
    (visible : ∀ q ∈ states, ∀ c ∈ (display q).toList, isBlank c = false) :
    IsWord (display states).toList where
  ne_nil := by simp [toList_displaySet]
  not_blank := by
    have comma : ∀ c ∈ [','], isBlank c = false := List.forall_mem_singleton.mpr (by decide)
    rw [toList_displaySet, List.forall_mem_append, List.forall_mem_append,
      List.forall_mem_singleton, List.forall_mem_singleton]
    refine ⟨⟨by decide, ?_⟩, by decide⟩
    intro c hc
    rcases mem_intercalate hc with hc | ⟨piece, hpiece, hc⟩
    · exact comma c hc
    · obtain ⟨q, hq, rfl⟩ := List.mem_map.mp hpiece
      exact visible q hq c hc

/-! ### Edges -/

namespace Edge

variable {e : Edge Q Char}

/-- The words in which an edge is written: its source and its symbol, each with a comma behind it,
and its target. -/
def tokens (e : Edge Q Char) : List (List Char) :=
  [(display e.source).toList ++ [','], [e.symbol, ','], (display e.target).toList]

/-- The symbol of an edge and the members of its sets are written without blanks. -/
structure Visible (e : Edge Q Char) : Prop where
  source : ∀ q ∈ e.source, ∀ c ∈ (display q).toList, isBlank c = false
  symbol : isBlank e.symbol = false
  target : ∀ q ∈ e.target, ∀ c ∈ (display q).toList, isBlank c = false

theorem toList_display (e : Edge Q Char) :
    (display e).toList = [' '].intercalate e.tokens := by
  simp [display, tokens]

variable [PlainDisplay Q]

theorem Visible.isWord_tokens (h : e.Visible) : ∀ word ∈ e.tokens, IsWord word := by
  have comma : ∀ c ∈ [','], isBlank c = false := List.forall_mem_singleton.mpr (by decide)
  have source := isWord_display h.source
  have target := isWord_display h.target
  simp only [tokens, List.forall_mem_cons]
  refine ⟨⟨by simp, ?_⟩, ⟨by simp, ?_⟩, target, nofun⟩
  · exact List.forall_mem_append.mpr ⟨source.not_blank, comma⟩
  · exact List.forall_mem_cons.mpr ⟨h.symbol, comma⟩

theorem Visible.words_display (h : e.Visible) : words (display e).toList = e.tokens := by
  rw [toList_display, words_intercalate h.isWord_tokens]

/-- An edge is written on one line. -/
theorem Visible.feed_not_mem (h : e.Visible) : ¬ '\n' ∈ (display e).toList := by
  intro feed
  rw [toList_display] at feed
  -- a line feed is not the blank between two words, and no other blanks are written
  rcases mem_intercalate feed with feed | ⟨word, hword, feed⟩
  · cases List.mem_singleton.mp feed
  · have blank : isBlank '\n' = true := by decide
    have visible := (h.isWord_tokens word hword).not_blank '\n' feed
    rw [blank] at visible
    cases visible

end Edge

/-! ### Automata -/

/-- The symbol of the edge that is written in some words. -/
def symbolOf? : List (List Char) → Option Char
  | [_, symbol :: _, _] => some symbol
  | _ => none

/-- The symbols of the edges that are written in a text, one on every line. -/
def symbolsIn (text : List Char) : List Char :=
  (splitLines text).filterMap fun line => symbolOf? (words line)

namespace SetAutomaton

variable {a : SetAutomaton Q Char}

theorem toList_display (a : SetAutomaton Q Char) :
    (display a).toList =
      (a.edges.toList.map fun e => (display e).toList).flatMap (· ++ ['\n']) := by
  simp [display, String.toList_join, List.flatMap_map]

variable [PlainDisplay Q] (visible : ∀ e ∈ a.edges, e.Visible)

include visible

/-- Every edge is a line, and nothing stands behind the last line feed. -/
theorem splitLines_display :
    splitLines (display a).toList =
      (a.edges.toList.map fun e => (display e).toList) ++ [[]] := by
  rw [toList_display, splitLines_flatMap]
  intro line hline
  obtain ⟨e, he, rfl⟩ := List.mem_map.mp hline
  exact (visible e he).feed_not_mem

/-- There is one line feed for every edge. -/
theorem count_display : (display a).toList.count '\n' = a.edges.size := by
  have pieces := length_splitLines (display a).toList
  rw [splitLines_display visible, List.length_append, List.length_map] at pieces
  exact (Nat.succ.inj pieces).symm

theorem symbolsIn_display :
    symbolsIn (display a).toList = a.edges.toList.map Edge.symbol := by
  have read : ∀ e ∈ a.edges.toList, symbolOf? (words (display e).toList) = some e.symbol := by
    intro e he
    rw [(visible e he).words_display]
    rfl
  rw [symbolsIn, splitLines_display visible, List.filterMap_append, List.filterMap_map]
  -- the empty piece behind the last line feed has no words
  calc _ = a.edges.toList.filterMap (some ∘ Edge.symbol) ++ [] :=
        congrArg (· ++ []) (List.filterMap_congr read)
    _ = a.edges.toList.map Edge.symbol := by rw [List.append_nil, List.filterMap_eq_map]

end SetAutomaton

end Determinize
