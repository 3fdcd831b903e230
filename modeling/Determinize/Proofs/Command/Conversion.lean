import Determinize.Proofs.Command.CommandLine
import Determinize.Proofs.Relation.Building
import Determinize.Proofs.TransitionList.Grammar

/-!
What a conversion prints depends on the transitions in its input, and on nothing else about it.

* `Mentions` says that a line of a list holds a transition. `readRelation_eq_of_mentions`: lists
  that mention the same transitions make the same relation, whatever else their lines are like, in
  whatever order they come and however often they are repeated.
* `run_of_read`: on a list that can be read the program succeeds, and it prints the automaton of the
  relation that the list makes. The level of the log does not enter.
* `convert_output_determined` puts both together for two runs, and adds that every choice of a
  conversion can be made by a command line.
-/

namespace Determinize

open Text

namespace TransitionList

variable {input input' : List UInt8} {t : Transition String Char} {epsilon : Char}
  {r r' : Relation String Char}

/-! ### Lists that mention the same transitions -/

/-- Some line of a list holds the transition. -/
def Mentions (input : List UInt8) (t : Transition String Char) : Prop :=
  ∃ line ∈ lines input, LineMeans line (.ok (some t))

/-- Good lines hold the transitions that they mean. -/
theorem LinesHold.mem_iff {good : List (List UInt8)} {ts : List (Transition String Char)}
    (h : LinesHold good ts) : t ∈ ts ↔ ∃ line ∈ good, LineMeans line (.ok (some t)) := by
  induction h with
  | nil => simp
  | skip hline _ ih =>
    rw [ih, List.exists_mem_cons_iff]
    refine (or_iff_right ?_).symm
    intro means
    cases hline.eq_readLine.trans means.eq_readLine.symm
  | @transition _ _ held _ hline _ ih =>
    rw [List.mem_cons, List.exists_mem_cons_iff, ih]
    refine or_congr_left ⟨?_, ?_⟩
    · rintro rfl
      exact hline
    · intro means
      cases means.eq_readLine.trans hline.eq_readLine.symm
      rfl

/-- Without a bad line, the transitions that are read are those that the lines hold. -/
theorem linesHold_read (complete : (read input).failure = none) :
    LinesHold (lines input) (read input).transitions := by
  rcases linesHold_cases (lines input) with ⟨ts, h⟩ | ⟨good, ts, bad, cause, more, split, h, hbad⟩
  · have reading := readLines_append h 1 []
    rw [List.append_nil] at reading
    simpa [read, reading, readLines] using h
  · have reading := readLines_append h 1 (bad :: more)
    rw [readLines_of_bad hbad] at reading
    simp [read, split, reading] at complete

/-- Lists that mention the same transitions make the same relation. -/
theorem readRelation_eq_of_mentions (accepted : readRelation epsilon input = .ok r)
    (accepted' : readRelation epsilon input' = .ok r')
    (same : ∀ t, Mentions input t ↔ Mentions input' t) : r = r' := by
  obtain ⟨ts, h, rfl⟩ := readRelation_eq_ok_iff.mp accepted
  obtain ⟨ts', h', rfl⟩ := readRelation_eq_ok_iff.mp accepted'
  have members : ∀ t, t ∈ ts ↔ t ∈ ts' := by
    intro t
    rw [h.mem_iff, h'.mem_iff]
    exact same t
  rw [Relation.withEpsilon, ← Relation.insertMany_map_add, ← Relation.insertMany_map_add]
  apply Relation.insertMany_eq_of_mem_iff
  intro i
  simp only [List.mem_map, members]

end TransitionList

namespace Command

open TransitionList (readRelation Mentions)

variable {epsilon : Char} {input input' : List UInt8} {r : Relation String Char}
  {arguments : List String} {limit : Level} {start : String} {table : Bool}

/-! ### Running the program -/

theorem runConvert_of_read (accepted : readRelation epsilon input = .ok r) (start : String)
    (table : Bool) :
    (runConvert epsilon start table input).exitCode = 0 ∧
      (runConvert epsilon start table input).output =
        printAutomaton (r.determinize start) table := by
  simp only [readRelation] at accepted
  split at accepted
  · cases accepted
  · next failure =>
    cases accepted
    simp [runConvert, failure, construct, Outcome.after]

/-- On a list that can be read the program succeeds and prints the automaton. -/
theorem run_of_read (accepted : readRelation epsilon input = .ok r)
    (request :
      Request.ofArguments arguments = .ok (.perform limit (.convert epsilon start table))) :
    (run arguments input).exitCode = 0 ∧
      (run arguments input).output = printAutomaton (r.determinize start) table := by
  simp only [run, request]
  exact runConvert_of_read accepted start table

/-- **The output of a conversion depends on the transitions alone.** If two lists can be read and
mention the same transitions, then any two command lines that ask for the same conversion succeed on
them and print the same, whatever they say about the log. Every conversion can be asked for, with
every level but the one that shows errors only. -/
theorem convert_output_determined (accepted : ∃ r, readRelation epsilon input = .ok r)
    (accepted' : ∃ r, readRelation epsilon input' = .ok r)
    (same : ∀ t, Mentions input t ↔ Mentions input' t) (start : String) (table : Bool) :
    (∀ arguments arguments' limit limit',
      Request.ofArguments arguments = .ok (.perform limit (.convert epsilon start table)) →
      Request.ofArguments arguments' = .ok (.perform limit' (.convert epsilon start table)) →
      (run arguments input).exitCode = 0 ∧ (run arguments' input').exitCode = 0 ∧
        (run arguments input).output = (run arguments' input').output) ∧
    ∀ limit, limit ≠ .error → ∃ arguments,
      Request.ofArguments arguments = .ok (.perform limit (.convert epsilon start table)) := by
  obtain ⟨r, accepted⟩ := accepted
  obtain ⟨r', accepted'⟩ := accepted'
  constructor
  · intro arguments arguments' limit limit' request request'
    obtain ⟨success, output⟩ := run_of_read accepted request
    obtain ⟨success', output'⟩ := run_of_read accepted' request'
    have relation : r = r' := TransitionList.readRelation_eq_of_mentions accepted accepted' same
    refine ⟨success, success', ?_⟩
    rw [output, output', relation]
  · intro limit h
    exact ⟨_, ofArguments_convertArguments h⟩

end Command

namespace Demo

/-- Two transitions, each on a line of its own. -/
def plainDocument : List UInt8 := Text.encode "q0 a q1\nq1 _ q2\n".toList

/-- The same transitions the other way round, one of them twice, among a remark, an empty line, tabs
and carriage returns. -/
def untidyDocument : List UInt8 :=
  Text.encode "# a remark\r\n\tq1 _\u00a0q2\r\n\nq0 a q1\n  q0\ta  q1".toList

end Demo

/-- The two documents are printed alike, once as a quiet run with short options and once with a full
log and long ones. -/
theorem Command.convert_output_determined_demo :
    (∀ t, TransitionList.Mentions Demo.plainDocument t ↔
      TransitionList.Mentions Demo.untidyDocument t) ∧
    (run ["convert", "-e", "_", "-s", "q0"] Demo.plainDocument).exitCode = 0 ∧
    (run ["convert", "-e", "_", "-s", "q0"] Demo.plainDocument).output =
      (run ["-v=trace", "convert", "--start=q0", "--epsilon", "_"] Demo.untidyDocument).output := by
  have same : ∀ t, TransitionList.Mentions Demo.plainDocument t ↔
      TransitionList.Mentions Demo.untidyDocument t := by
    intro t
    have tidy : TransitionList.Mentions Demo.plainDocument t ↔
        t ∈ [⟨"q0", 'a', "q1"⟩, ⟨"q1", '_', "q2"⟩] :=
      (TransitionList.linesHold_read rfl).mem_iff.symm
    have untidy : TransitionList.Mentions Demo.untidyDocument t ↔
        t ∈ [⟨"q1", '_', "q2"⟩, ⟨"q0", 'a', "q1"⟩, ⟨"q0", 'a', "q1"⟩] :=
      (TransitionList.linesHold_read rfl).mem_iff.symm
    rw [tidy, untidy]
    simp [or_comm]
  have accepted : ∃ r, TransitionList.readRelation '_' Demo.plainDocument = .ok r := ⟨_, rfl⟩
  have accepted' : ∃ r, TransitionList.readRelation '_' Demo.untidyDocument = .ok r := ⟨_, rfl⟩
  obtain ⟨runs, -⟩ := Command.convert_output_determined accepted accepted' same "q0" false
  obtain ⟨success, -, output⟩ := runs ["convert", "-e", "_", "-s", "q0"]
    ["-v=trace", "convert", "--start=q0", "--epsilon", "_"] .warn .trace (by decide +kernel)
    (by decide +kernel)
  exact ⟨same, success, output⟩

end Determinize
