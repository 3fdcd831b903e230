import Determinize.Command.Run
import Determinize.Proofs.TransitionList.Grammar

/-!
The first bad line of a list of transitions decides how reading it fails.

* `lineMeans_dropReturn_iff`: a carriage return at the end of a line is a blank, so it makes no
  difference to what the line means, and neither does the line feed that would take it away.
* `exists_head_of_error`: reading fails the same way whatever comes behind the first bad line.
* `readRelation_first_fault` adds which line that is, what is reported about it, and what the
  program does then.
-/

namespace Determinize

namespace TransitionList

open Text

variable {piece : List UInt8} {cause : LineError} {epsilon : Char} {input : List UInt8}
  {e : InputError}

/-! ### The end of a line -/

theorem readLine_dropReturn (piece : List UInt8) :
    readLine (dropReturn piece) = readLine piece := by
  unfold dropReturn
  split
  · next last =>
    obtain ⟨line, rfl⟩ := List.getLast?_eq_some_iff.mp last
    rw [List.dropLast_concat]
    by_cases code : ∃ text, encode text = line
    · obtain ⟨text, rfl⟩ := code
      have longer : encode (text ++ ['\r']) = encode text ++ [13] :=
        encode_eq_append_return_iff.mpr ⟨text, rfl, rfl⟩
      have gap : Gap ['\r'] := by
        rw [gap_cons]
        exact ⟨by decide, gap_nil⟩
      rw [← longer, readLine_encode, readLine_encode,
        ← ((trimmed_trim text).append_gap gap).eq_trim]
    · have none : LineMeans line (.error .notText) := .notText (not_exists.mp code)
      have none' : LineMeans (line ++ [13]) (.error .notText) := by
        refine .notText fun text same => code ?_
        obtain ⟨front, -, same⟩ := encode_eq_append_return_iff.mp same
        exact ⟨front, same⟩
      rw [← none.eq_readLine, ← none'.eq_readLine]
  · rfl

theorem lineMeans_dropReturn_iff {value : Except LineError (Option (Transition String Char))} :
    LineMeans (dropReturn piece) value ↔ LineMeans piece value := by
  rw [lineMeans_iff, lineMeans_iff, readLine_dropReturn]

/-- A bad line is not empty. -/
theorem LineMeans.ne_nil (h : LineMeans piece (.error cause)) : piece ≠ [] := by
  rintro rfl
  cases h.eq_readLine

/-- A bad piece without line feeds is a bad line for the same cause, whatever is behind it. -/
theorem exists_bad_line (h : LineMeans piece (.error cause)) (absent : ¬ 10 ∈ piece)
    {rest : List UInt8} (hrest : LineEnd rest) :
    ∃ bad more, lines (piece ++ rest) = bad :: more ∧ LineMeans bad (.error cause) := by
  obtain ⟨bad, more, split, rfl | rfl⟩ := exists_lines_piece h.ne_nil absent hrest
  · exact ⟨_, more, split, h⟩
  · exact ⟨_, more, split, lineMeans_dropReturn_iff.mpr h⟩

/-! ### Reading that fails -/

/-- The first bad line and what stands before it make reading fail, whatever comes behind. -/
theorem exists_head_of_error (epsilon : Char) {good more : List (List UInt8)} {bad : List UInt8}
    {ts : List (Transition String Char)} (split : lines input = good ++ bad :: more)
    (h : LinesHold good ts) (hbad : LineMeans bad (.error cause)) :
    ∃ head rest, input = head ++ rest ∧ LineEnd rest ∧ head.count 10 = good.length ∧
      ∀ rest', LineEnd rest' →
        readRelation epsilon (head ++ rest') = .error ⟨good.length + 1, cause⟩ := by
  obtain ⟨front, piece, rest, rfl, count, stay, absent, hrest, same⟩ := exists_front_of_lines split
  have hpiece : LineMeans piece (.error cause) := by
    rcases same with rfl | rfl
    · exact hbad
    · exact lineMeans_dropReturn_iff.mp hbad
  refine ⟨front ++ piece, rest, (List.append_assoc ..).symm, hrest, ?_, ?_⟩
  · rw [List.count_append, count, List.count_eq_zero.mpr absent, Nat.add_zero]
  · intro rest' hrest'
    obtain ⟨bad', more', found, hbad'⟩ := exists_bad_line hpiece absent hrest'
    have split' : lines (front ++ piece ++ rest') = good ++ bad' :: more' := by
      rw [List.append_assoc, stay, found]
    exact readRelation_of_bad epsilon split' h hbad'

theorem failure_read_of_error (failed : readRelation epsilon input = .error e) :
    (read input).failure = some e := by
  simp only [readRelation] at failed
  split at failed
  · next h =>
    cases failed
    exact h
  · cases failed

/-- The program prints nothing and reports failure if the input cannot be read. -/
theorem run_of_error (failed : readRelation epsilon input = .error e) {arguments : List String}
    {limit : Level} {start : String} {table : Bool}
    (request : Command.Request.ofArguments arguments =
      .ok (.perform limit (.convert epsilon start table))) :
    (Command.run arguments input).exitCode = 1 ∧ (Command.run arguments input).output = "" := by
  have failure := failure_read_of_error failed
  simp [Command.run, request, Command.Request.run, Command.Task.run, Command.runConvert, failure,
    Command.Outcome.after]

/-- **The first bad line decides the error.** If a list of transitions cannot be read, its lines are
good up to a bad one; the number of that line and what is wrong with it are reported. Nothing behind
that line matters, and the program prints nothing and reports failure. -/
theorem readRelation_first_fault (failed : readRelation epsilon input = .error e) :
    (∃ good ts bad more, Cut input (good ++ bad :: more) ∧ LinesHold good ts ∧
      LineMeans bad (.error e.cause) ∧ e.line = good.length + 1 ∧
      ∃ head rest, input = head ++ rest ∧ LineEnd rest ∧ head.count 10 = good.length ∧
        ∀ rest', LineEnd rest' → readRelation epsilon (head ++ rest') = .error e) ∧
    ∀ arguments limit start table,
      Command.Request.ofArguments arguments =
        .ok (.perform limit (.convert epsilon start table)) →
      (Command.run arguments input).exitCode = 1 ∧ (Command.run arguments input).output = "" := by
  constructor
  · obtain ⟨good, ts, bad, more, split, h, hbad, number⟩ := readRelation_eq_error_iff.mp failed
    refine ⟨good, ts, bad, more, cut_iff.mpr split.symm, h, hbad, number, ?_⟩
    have decided := exists_head_of_error epsilon split h hbad
    rwa [← number] at decided
  · intro arguments limit start table request
    exact run_of_error failed request

end TransitionList

/-- A comment, a transition, and a line with two words; the line behind it encodes no text. -/
def Demo.faultyDocument : List UInt8 :=
  Text.encode "# a remark\nq0 a q1\n q1 \u03b1\r\n".toList ++ [0xFF, 10]

/-- The third line is the first bad one; what comes behind it does not matter, and the program fails
because of it. -/
theorem TransitionList.readRelation_first_fault_demo :
    let e : InputError := ⟨3, .malformed "q1 \u03b1"⟩
    readRelation '_' Demo.faultyDocument = .error e ∧
      (∃ head rest, Demo.faultyDocument = head ++ rest ∧ Text.LineEnd rest ∧ head.count 10 = 2 ∧
        ∀ rest', Text.LineEnd rest' → readRelation '_' (head ++ rest') = .error e) ∧
      (Command.run ["convert", "-e", "_", "-s", "q0"] Demo.faultyDocument).exitCode = 1 ∧
      (Command.run ["convert", "-e", "_", "-s", "q0"] Demo.faultyDocument).output = "" := by
  intro e
  have failed : readRelation '_' Demo.faultyDocument = .error e := rfl
  obtain ⟨⟨good, -, -, -, -, -, -, number, head, rest, split, hrest, count, stays⟩, fails⟩ :=
    readRelation_first_fault failed
  have two : good.length = 2 := by
    have three : 3 = good.length + 1 := number
    omega
  refine ⟨failed, ⟨head, rest, split, hrest, count.trans two, stays⟩, ?_⟩
  exact fails ["convert", "-e", "_", "-s", "q0"] .warn "q0" false (by decide +kernel)

end Determinize
