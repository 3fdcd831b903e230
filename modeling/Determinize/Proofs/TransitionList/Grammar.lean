import Determinize.Proofs.Relation.Transitions
import Determinize.Proofs.Text.Lines
import Determinize.Proofs.Text.Words

/-!
Reading a list of transitions follows its format.

* `lineMeans_iff`: a line means one thing, which is what `readLine` finds.
* `readLines_append` and `readLines_of_bad` say what reading does at good lines and at a bad one,
  and `linesHold_cases` that lines are good throughout or up to a first bad one. So
  `readRelation_cases` says all that reading a whole list can do.
* `WellNamed` is what the names of a transition in a good line are like.
* `readRelation_grammar` collects what is accepted and what relation is made then.
-/

namespace Determinize

namespace TransitionList

open Text

variable {line : List UInt8} {content : List Char} {t : Transition String Char}
  {value : Except LineError (Option (Transition String Char))} {good : List (List UInt8)}
  {ts : List (Transition String Char)}

/-! ### One line -/

theorem readLine_encode (text : List Char) : readLine (encode text) = readContent (trim text) := by
  have code : decode? (encode text) = some (.ofList text) := by
    rw [decode?_eq_some_iff, String.toList_ofList]
  simp only [readLine, code, String.toList_ofList]

/-- A content that is neither blank nor a comment is judged by its words. -/
theorem readContent_of_words (ne : content ≠ []) (head : content.head? ≠ some '#') :
    readContent content =
      match words content with
      | [source, [symbol], target] => .ok (some ⟨.ofList source, symbol, .ofList target⟩)
      | [_, symbol, _] => .error (.badSymbol (.ofList symbol))
      | _ => .error (.malformed (.ofList content)) := by
  rewrite [readContent, if_neg (by simp [ne, head])]
  rfl

theorem lineMeans_readLine (line : List UInt8) : LineMeans line (readLine line) := by
  by_cases code : ∃ text, encode text = line
  · obtain ⟨text, rfl⟩ := code
    rw [readLine_encode]
    have trimmed := trimmed_trim text
    generalize trim text = content at trimmed ⊢
    rcases eq_or_ne content [] with rfl | ne
    · exact .blank trimmed
    · by_cases head : content.head? = some '#'
      · obtain ⟨remark, rfl⟩ := List.head?_eq_some_iff.mp head
        exact .comment trimmed
      · have runs := runs_words content
        rw [readContent_of_words ne head]
        split
        · next found =>
          rw [found] at runs
          exact .transition trimmed head runs
        · next symbol _ other found =>
          rw [found] at runs
          refine .badSymbol trimmed head runs ?_
          intro one
          obtain ⟨c, rfl⟩ := List.length_eq_one_iff.mp one
          exact other c rfl
        · next other =>
          refine .malformed trimmed ne head runs ?_
          intro three
          obtain ⟨source, symbol, target, found⟩ := List.length_eq_three.mp three
          exact other source symbol target found
  · have none : decode? line = none := decode?_eq_none_iff.mpr (not_exists.mp code)
    simp only [readLine, none]
    exact .notText (not_exists.mp code)

/-- A line means nothing else. -/
theorem LineMeans.eq_readLine (h : LineMeans line value) : value = readLine line := by
  cases h with
  | notText none => simp only [readLine, decode?_eq_none_iff.mpr none]
  | blank trimmed =>
    rw [readLine_encode, ← trimmed.eq_trim]
    rfl
  | comment trimmed =>
    rw [readLine_encode, ← trimmed.eq_trim]
    rfl
  | transition trimmed head runs =>
    rw [readLine_encode, ← trimmed.eq_trim, readContent_of_words runs.ne_nil head, runs.words_eq]
  | malformed trimmed ne head runs count =>
    rw [readLine_encode, ← trimmed.eq_trim, readContent_of_words ne head, runs.words_eq]
    split
    · exact absurd rfl count
    · exact absurd rfl count
    · rfl
  | badSymbol trimmed head runs more =>
    rw [readLine_encode, ← trimmed.eq_trim, readContent_of_words runs.ne_nil head, runs.words_eq]
    split
    · next found =>
      cases found
      exact absurd rfl more
    · next found =>
      cases found
      rfl
    · next other => exact absurd rfl (other _ _ _)

theorem lineMeans_iff : LineMeans line value ↔ value = readLine line := by
  constructor
  · exact LineMeans.eq_readLine
  · rintro rfl
    exact lineMeans_readLine line

/-- The names of a transition and its symbol are words, and the source does not start a comment. -/
structure WellNamed (t : Transition String Char) : Prop where
  source_isWord : IsWord t.source.toList
  source_head : t.source.toList.head? ≠ some '#'
  symbol_not_blank : isBlank t.symbol = false
  target_isWord : IsWord t.target.toList

theorem LineMeans.wellNamed (h : LineMeans line (.ok (some t))) : WellNamed t := by
  cases h with
  | @transition _ content source target symbol trimmed head runs =>
    have words := runs.isWord
    constructor
    · simpa using words source (by simp)
    · simpa [runs.head?_eq trimmed.head_not_blank] using head
    · exact (words [symbol] (by simp)).not_blank symbol (by simp)
    · simpa using words target (by simp)

/-! ### Several lines -/

/-- Good lines are read to their end, and reading goes on behind them. -/
theorem readLines_append (h : LinesHold good ts) (number : Nat) (more : List (List UInt8)) :
    readLines number (good ++ more) =
      ⟨ts ++ (readLines (number + good.length) more).transitions,
        (readLines (number + good.length) more).failure⟩ := by
  induction h generalizing number with
  | nil => rfl
  | skip hline _ ih =>
    rw [List.cons_append, readLines, ← hline.eq_readLine]
    simp only [ih, List.length_cons, Nat.add_right_comm, Nat.add_assoc]
  | transition hline _ ih =>
    rw [List.cons_append, readLines, ← hline.eq_readLine]
    simp only [ih, List.length_cons, Nat.add_right_comm, Nat.add_assoc, List.cons_append]

/-- Reading does not go on behind a bad line. -/
theorem readLines_of_bad {bad : List UInt8} {cause : LineError}
    (h : LineMeans bad (.error cause)) (number : Nat) (more : List (List UInt8)) :
    readLines number (bad :: more) = ⟨[], some ⟨number, cause⟩⟩ := by
  rw [readLines, ← h.eq_readLine]

theorem LinesHold.cons {held : Option (Transition String Char)}
    (hline : LineMeans line (.ok held)) (h : LinesHold good ts) :
    LinesHold (line :: good) (held.toList ++ ts) := by
  cases held with
  | none => exact .skip hline h
  | some t => exact .transition hline h

/-- Lines are good throughout, or there is a first bad one. -/
theorem linesHold_cases (found : List (List UInt8)) :
    (∃ ts, LinesHold found ts) ∨ ∃ good ts bad cause more,
      found = good ++ bad :: more ∧ LinesHold good ts ∧ LineMeans bad (.error cause) := by
  induction found with
  | nil => exact .inl ⟨[], .nil⟩
  | cons line found ih =>
    have means := lineMeans_readLine line
    cases value : readLine line with
    | error cause =>
      rw [value] at means
      exact .inr ⟨[], [], line, cause, found, rfl, .nil, means⟩
    | ok held =>
      rw [value] at means
      rcases ih with ⟨ts, h⟩ | ⟨good, ts, bad, cause, more, rfl, h, hbad⟩
      · exact .inl ⟨held.toList ++ ts, h.cons means⟩
      · exact .inr ⟨line :: good, held.toList ++ ts, bad, cause, more, rfl, h.cons means, hbad⟩

theorem LinesHold.forall_good (h : LinesHold good ts) :
    ∀ line ∈ good, ∃ held, LineMeans line (.ok held) := by
  induction h with
  | nil => simp
  | skip hline _ ih => exact List.forall_mem_cons.mpr ⟨⟨none, hline⟩, ih⟩
  | transition hline _ ih => exact List.forall_mem_cons.mpr ⟨⟨some _, hline⟩, ih⟩

theorem exists_linesHold_iff {found : List (List UInt8)} :
    (∃ ts, LinesHold found ts) ↔ ∀ line ∈ found, ∃ held, LineMeans line (.ok held) := by
  constructor
  · rintro ⟨ts, h⟩
    exact h.forall_good
  · intro all
    rcases linesHold_cases found with h | ⟨good, ts, bad, cause, more, rfl, -, hbad⟩
    · exact h
    · obtain ⟨held, hgood⟩ := all bad (by simp)
      cases hgood.eq_readLine.trans hbad.eq_readLine.symm

theorem LinesHold.wellNamed (h : LinesHold good ts) : ∀ t ∈ ts, WellNamed t := by
  induction h with
  | nil => simp
  | skip _ _ ih => exact ih
  | transition hline _ ih => exact List.forall_mem_cons.mpr ⟨hline.wellNamed, ih⟩

/-! ### A whole list -/

variable {epsilon : Char} {input : List UInt8} {r : Relation String Char} {e : InputError}

theorem readRelation_of_good (epsilon : Char) (h : LinesHold (lines input) ts) :
    readRelation epsilon input = .ok ((Relation.withEpsilon epsilon).addMany ts) := by
  have reading := readLines_append h 1 []
  rw [List.append_nil] at reading
  simp [readRelation, read, reading, readLines]

theorem readRelation_of_bad (epsilon : Char) {bad : List UInt8} {cause : LineError}
    {more : List (List UInt8)} (split : lines input = good ++ bad :: more) (h : LinesHold good ts)
    (hbad : LineMeans bad (.error cause)) :
    readRelation epsilon input = .error ⟨good.length + 1, cause⟩ := by
  have reading := readLines_append h 1 (bad :: more)
  rw [readLines_of_bad hbad] at reading
  simp [readRelation, read, split, reading, Nat.add_comm]

/-- Reading a list of transitions makes a relation of good lines, or it fails at the first bad
one. -/
theorem readRelation_cases (epsilon : Char) (input : List UInt8) :
    (∃ ts, LinesHold (lines input) ts ∧
      readRelation epsilon input = .ok ((Relation.withEpsilon epsilon).addMany ts)) ∨
    ∃ good ts bad cause more, lines input = good ++ bad :: more ∧ LinesHold good ts ∧
      LineMeans bad (.error cause) ∧
      readRelation epsilon input = .error ⟨good.length + 1, cause⟩ := by
  rcases linesHold_cases (lines input) with
    ⟨ts, h⟩ | ⟨good, ts, bad, cause, more, split, h, hbad⟩
  · exact .inl ⟨ts, h, readRelation_of_good epsilon h⟩
  · exact .inr ⟨good, ts, bad, cause, more, split, h, hbad,
      readRelation_of_bad epsilon split h hbad⟩

theorem readRelation_eq_ok_iff :
    readRelation epsilon input = .ok r ↔
      ∃ ts, LinesHold (lines input) ts ∧ r = (Relation.withEpsilon epsilon).addMany ts := by
  constructor
  · intro accepted
    rcases readRelation_cases epsilon input with
      ⟨ts, h, result⟩ | ⟨good, ts, bad, cause, more, -, -, -, result⟩
    · cases accepted.symm.trans result
      exact ⟨ts, h, rfl⟩
    · cases accepted.symm.trans result
  · rintro ⟨ts, h, rfl⟩
    exact readRelation_of_good epsilon h

theorem readRelation_eq_error_iff :
    readRelation epsilon input = .error e ↔
      ∃ good ts bad more, lines input = good ++ bad :: more ∧ LinesHold good ts ∧
        LineMeans bad (.error e.cause) ∧ e.line = good.length + 1 := by
  constructor
  · intro failed
    rcases readRelation_cases epsilon input with
      ⟨ts, -, result⟩ | ⟨good, ts, bad, cause, more, split, h, hbad, result⟩
    · cases failed.symm.trans result
    · cases failed.symm.trans result
      exact ⟨good, ts, bad, more, split, h, hbad, rfl⟩
  · rintro ⟨good, ts, bad, more, split, h, hbad, number⟩
    rw [readRelation_of_bad epsilon split h hbad, ← number]

/-! ### Names in the relation -/

section

variable (named : ∀ t ∈ ts, WellNamed t) {q p : String} {a : Char}

include named

theorem isWord_of_mem_states (hq : q ∈ ((Relation.withEpsilon epsilon).addMany ts).states) :
    IsWord q.toList := by
  obtain ⟨t, ht, rfl | rfl⟩ := Relation.mem_states_addMany.mp hq
  · exact (named t ht).source_isWord
  · exact (named t ht).target_isWord

/-- A state with transitions of either kind does not start a comment. -/
theorem head_of_source
    (h : (∃ a, p ∈ ((Relation.withEpsilon epsilon).addMany ts).nextStates q a) ∨
      p ∈ ((Relation.withEpsilon epsilon).addMany ts).epsilonSuccessors q) :
    q.toList.head? ≠ some '#' := by
  rcases h with ⟨a, hp⟩ | hp
  · exact (named _ (Relation.mem_nextStates_addMany.mp hp).2).source_head
  · obtain ⟨a, -, ht⟩ := Relation.mem_epsilonSuccessors_addMany.mp hp
    exact (named _ ht).source_head

/-- A blank marks no transition, since it is no symbol of any. -/
theorem epsilonSuccessors_of_blank (blank : isBlank epsilon = true) (q : String) :
    ((Relation.withEpsilon epsilon).addMany ts).epsilonSuccessors q = ∅ := by
  rw [SortedSet.eq_empty_iff]
  intro p hp
  obtain ⟨a, symbol, ht⟩ := Relation.mem_epsilonSuccessors_addMany.mp hp
  cases symbol
  have visible := (named _ ht).symbol_not_blank
  rw [blank] at visible
  cases visible

end

/-! ### The format -/

/-- **A list of transitions is accepted exactly if every line is good.** A line is good if it
encodes a text that is blank, starts with `#` behind its blanks, or has three words of which the
second is one character. What is made then is the relation to which the transitions of the lines
are added in order. Its states are words, those with transitions do not start with `#`, and it has
no epsilon transitions if a blank marks them. -/
theorem readRelation_grammar (epsilon : Char) (input : List UInt8) :
    (∀ found, Cut input found ↔ found = lines input) ∧
    ((∃ r, readRelation epsilon input = .ok r) ↔
      ∀ line ∈ lines input, ∃ held, LineMeans line (.ok held)) ∧
    ∀ r, readRelation epsilon input = .ok r →
      (∃ ts, LinesHold (lines input) ts ∧ r = (Relation.withEpsilon epsilon).addMany ts) ∧
      (∀ q ∈ r.states, IsWord q.toList) ∧
      (∀ q p, (∃ a, p ∈ r.nextStates q a) ∨ p ∈ r.epsilonSuccessors q →
        q.toList.head? ≠ some '#') ∧
      (isBlank epsilon = true → ∀ q, r.epsilonSuccessors q = ∅) := by
  refine ⟨fun found => cut_iff, ?_, ?_⟩
  · rw [← exists_linesHold_iff]
    simp only [readRelation_eq_ok_iff]
    constructor
    · rintro ⟨r, ts, h, -⟩
      exact ⟨ts, h⟩
    · rintro ⟨ts, h⟩
      exact ⟨_, ts, h, rfl⟩
  · intro r accepted
    obtain ⟨ts, h, rfl⟩ := readRelation_eq_ok_iff.mp accepted
    have named := h.wellNamed
    refine ⟨⟨ts, h, rfl⟩, ?_, ?_, ?_⟩
    · intro q hq
      exact isWord_of_mem_states named hq
    · intro q p hp
      exact head_of_source named hp
    · intro blank q
      exact epsilonSuccessors_of_blank named blank q

end TransitionList

/-- A comment, a transition among blanks of several kinds, an empty line, and a last line without a
line feed. Two of the lines end with a carriage return. -/
def Demo.document : List UInt8 :=
  Text.encode "  # a remark\r\n\u00a0q0 ä\tq1\r\n\nq1 _ q2".toList

/-- The document is accepted, so its lines are good. -/
theorem TransitionList.readRelation_grammar_demo :
    ∃ r, readRelation '_' Demo.document = .ok r ∧ r.states = .ofList ["q0", "q1", "q2"] ∧
      r.epsilonSuccessors "q1" = .singleton "q2" ∧
      ∀ line ∈ Text.lines Demo.document, ∃ held, LineMeans line (.ok held) :=
  ⟨_, rfl, by decide +kernel, by decide +kernel,
    (readRelation_grammar '_' Demo.document).2.1.mp ⟨_, rfl⟩⟩

end Determinize
