import Determinize.Proofs.SetAutomaton.Printing
import Std.Data.String.ToInt

/-!
When nothing is lost in the text of an automaton.

A set is written without marks that would say where a member ends, and an edge without marks that
would say where its symbol ends, so that the symbol can be any sign that the rest is made of. What
is written can be told apart all the same if the members of sets are `Legible`: the text of a member
ends where the next comma or closing brace follows it.

* `Numeric.legible`: numerals are legible, because they have no commas and braces in them.
* `Legible.cancel_set`: then a set ends where its text says, whatever follows. So sets of legible
  values are legible themselves (`Legible.stateSet`), and this can be repeated.
* `Legible.cancel_edge`: an edge ends where its text says too, since a symbol is one character. So
  the lines of an automaton are told apart without a look at the line feeds between them
  (`Legible.edges_eq`), which is as well, for a line feed can be a symbol.
-/

namespace Determinize

open Text

/-! ### Numerals -/

/-- The values are written as the decimal numerals of different integers, and collections of them in
braces and with commas. -/
structure Numeric (Q : Type) [Display Q] : Prop where
  numerals : ∃ value : Q → Int, value.Injective ∧ ∀ q, display q = decimal (value q)
  plain : PlainDisplay Q

theorem numeric_int : Numeric Int where
  numerals := ⟨id, Function.injective_id, fun _ => rfl⟩
  plain := inferInstance

theorem numeric_nat : Numeric Nat where
  numerals := ⟨Int.ofNat, fun _ _ => Int.ofNat.inj, fun _ => rfl⟩
  plain := inferInstance

theorem decimal_injective : decimal.Injective := by
  have eq_repr (n : Int) : decimal n = n.repr := by cases n <;> rfl
  intro n m same
  rw [eq_repr, eq_repr] at same
  exact Int.repr_injective same

theorem decimal_ne_nil (n : Int) : (decimal n).toList ≠ [] := by
  cases n with
  | ofNat n =>
    rw [decimal, Nat.toList_repr]
    exact Nat.toDigits_ne_nil
  | negSucc n => simp [decimal]

/-- A numeral is made of digits and, possibly, a sign. -/
theorem minus_or_digit_of_mem_decimal {n : Int} {c : Char} (hc : c ∈ (decimal n).toList) :
    c = '-' ∨ c.isDigit = true := by
  have digit {n : Nat} (hc : c ∈ n.repr.toList) : c.isDigit = true := by
    rw [Nat.toList_repr] at hc
    exact Nat.isDigit_of_mem_toDigits (by decide) (by decide) hc
  cases n with
  | ofNat n => exact .inr (digit hc)
  | negSucc n =>
    rw [decimal, String.toList_append, List.mem_append] at hc
    exact hc.imp List.mem_singleton.mp digit

/-! ### Members of sets -/

/-- What stands behind the text of a member of a set. -/
def isEnd (c : Char) : Bool := c == ',' || c == '\x7d'

/-- A text that can follow the text of a member. -/
def MemberEnd (rest : List Char) : Prop := ∃ c tail, rest = c :: tail ∧ isEnd c = true

/-- The text of a value shows where it ends if it stands in a set, and which value it is. No text
looks like the end of a set. -/
structure Legible (Q : Type) [Display Q] : Prop where
  begins : ∀ q : Q, ∃ c text, (display q).toList = c :: text ∧ c ≠ '\x7d'
  cancel : ∀ {q p : Q} {rest rest' : List Char}, MemberEnd rest → MemberEnd rest' →
    (display q).toList ++ rest = (display p).toList ++ rest' → q = p ∧ rest = rest'

/-- A text without commas and braces ends in front of the first of them. -/
theorem cancel_of_no_end {text text' rest rest' : List Char}
    (inside : ∀ c ∈ text, isEnd c = false) (inside' : ∀ c ∈ text', isEnd c = false)
    (behind : MemberEnd rest) (behind' : MemberEnd rest') (same : text ++ rest = text' ++ rest') :
    text = text' ∧ rest = rest' := by
  have front {text rest : List Char} (inside : ∀ c ∈ text, isEnd c = false)
      (behind : MemberEnd rest) : (text ++ rest).takeWhile (fun c => !isEnd c) = text := by
    obtain ⟨c, tail, rfl, hc⟩ := behind
    rw [List.takeWhile_append_of_pos (by simpa using inside)]
    simp [hc]
  have texts : text = text' := by
    rw [← front inside behind, same, front inside' behind']
  subst texts
  exact ⟨rfl, List.append_cancel_left same⟩

section

variable {Q : Type} [Display Q]

theorem Numeric.legible (numeric : Numeric Q) : Legible Q := by
  obtain ⟨value, injective, written⟩ := numeric.numerals
  have inside (q : Q) : ∀ c ∈ (display q).toList, isEnd c = false := by
    intro c hc
    rw [written] at hc
    rcases minus_or_digit_of_mem_decimal hc with rfl | digit
    · rfl
    · refine Bool.eq_false_iff.mpr fun hend => ?_
      rcases (by simpa [isEnd] using hend : c = ',' ∨ c = '\x7d') with rfl | rfl
      · cases digit
      · cases digit
  constructor
  · intro q
    obtain ⟨c, text, text_eq⟩ := List.exists_cons_of_ne_nil (written q ▸ decimal_ne_nil (value q))
    refine ⟨c, text, text_eq, ?_⟩
    rintro rfl
    cases inside q _ (text_eq ▸ List.mem_cons_self)
  · intro q p rest rest' behind behind' same
    obtain ⟨texts, rests⟩ := cancel_of_no_end (inside q) (inside p) behind behind' same
    have values : decimal (value q) = decimal (value p) := by
      rw [← written, ← written]
      exact String.toList_inj.mp texts
    exact ⟨injective (decimal_injective values), rests⟩

/-! ### Sets -/

/-- The text behind the first member of a set: the other members, each with a comma in front, the
closing brace, and `rest`. -/
def behindFirst : List Q → List Char → List Char
  | [], rest => '\x7d' :: rest
  | q :: members, rest => ',' :: ((display q).toList ++ behindFirst members rest)

/-- The text behind the opening brace of a set. -/
def behindBrace : List Q → List Char → List Char
  | [], rest => '\x7d' :: rest
  | q :: members, rest => (display q).toList ++ behindFirst members rest

theorem memberEnd_behindFirst (members : List Q) (rest : List Char) :
    MemberEnd (behindFirst members rest) := by
  cases members with
  | nil => exact ⟨_, _, rfl, rfl⟩
  | cons q members => exact ⟨_, _, rfl, rfl⟩

variable {members members' : List Q} {rest rest' : List Char}

theorem Legible.cancel_behindFirst (legible : Legible Q)
    (same : behindFirst members rest = behindFirst members' rest') :
    members = members' ∧ rest = rest' := by
  induction members generalizing members' with
  | nil =>
    cases members' with
    | nil => exact ⟨rfl, (List.cons.inj same).2⟩
    | cons p members' => cases (List.cons.inj same).1
  | cons q members ih =>
    cases members' with
    | nil => cases (List.cons.inj same).1
    | cons p members' =>
      obtain ⟨rfl, behind⟩ := legible.cancel (memberEnd_behindFirst members rest)
        (memberEnd_behindFirst members' rest') (List.cons.inj same).2
      obtain ⟨rfl, rests⟩ := ih behind
      exact ⟨rfl, rests⟩

theorem Legible.cancel_behindBrace (legible : Legible Q)
    (same : behindBrace members rest = behindBrace members' rest') :
    members = members' ∧ rest = rest' := by
  -- a brace that closes the empty set is not the beginning of a member
  have nonempty {q : Q} {tail rest : List Char} : (display q).toList ++ tail ≠ '\x7d' :: rest := by
    obtain ⟨c, text, text_eq, hc⟩ := legible.begins q
    rw [text_eq]
    exact fun same => hc (List.cons.inj same).1
  cases members with
  | nil =>
    cases members' with
    | nil => exact ⟨rfl, (List.cons.inj same).2⟩
    | cons p members' => exact absurd same.symm nonempty
  | cons q members =>
    cases members' with
    | nil => exact absurd same nonempty
    | cons p members' =>
      obtain ⟨rfl, behind⟩ := legible.cancel (memberEnd_behindFirst members rest)
        (memberEnd_behindFirst members' rest') same
      obtain ⟨rfl, rests⟩ := legible.cancel_behindFirst behind
      exact ⟨rfl, rests⟩

theorem intercalate_append_brace (q : Q) (members : List Q) (rest : List Char) :
    [','].intercalate ((q :: members).map fun q => (display q).toList) ++ '\x7d' :: rest =
      (display q).toList ++ behindFirst members rest := by
  induction members generalizing q with
  | nil => simp [behindFirst]
  | cons p members ih => simpa [behindFirst] using ih p

end

section

variable {Q : Type} [TotalOrd Q] [Display Q] [PlainDisplay Q] {states states' : StateSet Q}
  {rest rest' : List Char}

theorem toList_displaySet_append (states : StateSet Q) (rest : List Char) :
    (display states).toList ++ rest = '\x7b' :: behindBrace states.toList rest := by
  rw [toList_displaySet]
  cases states.toList with
  | nil => rfl
  | cons q members => simpa [behindBrace] using intercalate_append_brace q members rest

/-- A set ends where its text says, whatever follows it. -/
theorem Legible.cancel_set (legible : Legible Q)
    (same : (display states).toList ++ rest = (display states').toList ++ rest') :
    states = states' ∧ rest = rest' := by
  rw [toList_displaySet_append, toList_displaySet_append] at same
  obtain ⟨members, rests⟩ := legible.cancel_behindBrace (List.cons.inj same).2
  exact ⟨SortedSet.toList_inj members, rests⟩

/-- Sets of legible values are legible themselves. -/
theorem Legible.stateSet (legible : Legible Q) : Legible (StateSet Q) where
  begins states := ⟨'\x7b', behindBrace states.toList [], by
    rw [← toList_displaySet_append, List.append_nil], by decide⟩
  cancel _ _ same := legible.cancel_set same

theorem Legible.eq_of_display_eq (legible : Legible Q) (same : display states = display states') :
    states = states' := by
  have texts : (display states).toList ++ [] = (display states').toList ++ [] := by rw [same]
  exact (legible.cancel_set texts).1

/-! ### Edges -/

/-- An edge ends where its text says, whatever its symbol is and whatever follows it. -/
theorem Legible.cancel_edge (legible : Legible Q) {e f : Edge Q Char}
    (same : (display e).toList ++ rest = (display f).toList ++ rest') : e = f ∧ rest = rest' := by
  have text (e : Edge Q Char) (rest : List Char) : (display e).toList ++ rest =
      (display e.source).toList ++ ',' :: ' ' :: e.symbol :: ',' :: ' ' ::
        ((display e.target).toList ++ rest) := by
    simp [display]
  rw [text, text] at same
  obtain ⟨sources, same⟩ := legible.cancel_set same
  obtain ⟨symbols, same⟩ := List.cons.inj (List.cons.inj (List.cons.inj same).2).2
  obtain ⟨targets, rests⟩ := legible.cancel_set (List.cons.inj (List.cons.inj same).2).2
  refine ⟨Edge.triple_inj ?_, rests⟩
  rw [Edge.triple, sources, symbols, targets, Edge.triple]

/-! ### Automata -/

theorem Legible.eq_of_lines_eq (legible : Legible Q) {edges edges' : List (Edge Q Char)}
    (same : edges.flatMap (fun e => (display e).toList ++ ['\n']) =
      edges'.flatMap (fun e => (display e).toList ++ ['\n'])) : edges = edges' := by
  induction edges generalizing edges' with
  | nil =>
    cases edges' with
    | nil => rfl
    | cons f edges' => simp at same
  | cons e edges ih =>
    cases edges' with
    | nil => simp at same
    | cons f edges' =>
      rw [List.flatMap_cons, List.flatMap_cons, List.append_assoc, List.append_assoc] at same
      obtain ⟨rfl, behind⟩ := legible.cancel_edge same
      rw [ih (List.append_cancel_left behind)]

theorem Legible.edges_eq (legible : Legible Q) {a b : SetAutomaton Q Char}
    (same : display a = display b) : a.edges = b.edges := by
  have lines : (display a).toList = (display b).toList := by rw [same]
  rw [SetAutomaton.toList_display, SetAutomaton.toList_display, List.flatMap_map,
    List.flatMap_map] at lines
  exact SortedSet.toList_inj (legible.eq_of_lines_eq lines)

/-! ### Faithful printing -/

/-- Sets, edges and automata that are written alike are the same, but for the initial set of an
automaton, which is not written. -/
structure Faithful (Q : Type) [TotalOrd Q] [Display Q] : Prop where
  sets : ∀ states states' : StateSet Q, display states = display states' → states = states'
  edges : ∀ e f : Edge Q Char, display e = display f → e = f
  automata : ∀ a b : SetAutomaton Q Char, display a = display b → a.edges = b.edges

theorem Legible.faithful (legible : Legible Q) : Faithful Q where
  sets _ _ same := legible.eq_of_display_eq same
  edges e f same := by
    have texts : (display e).toList ++ [] = (display f).toList ++ [] := by rw [same]
    exact (legible.cancel_edge texts).1
  automata _ _ same := legible.edges_eq same

end

/-- **Nothing is lost in print.** If states are written as numerals, or if they are sets of such
states, and symbols are characters of any kind, then the text of a set, of an edge and of an
automaton says which set, which edge and which edges they are. -/
theorem display_faithful {Q : Type} [TotalOrd Q] [Display Q] (numeric : Numeric Q) :
    Faithful Q ∧ Faithful (StateSet Q) := by
  have := numeric.plain
  exact ⟨numeric.legible.faithful, numeric.legible.stateSet.faithful⟩

/-- Signs do not run into numbers, symbols do not run into the lines and sets do not run into the
sets around them. -/
theorem display_faithful_demo :
    display (.ofList [-12, 3] : StateSet Int) ≠ display (.ofList [-1, 23] : StateSet Int) ∧
    (∀ a : SetAutomaton Int Char,
      display a = "\x7b-1\x7d, \n, \x7b2\x7d\n\x7b2\x7d, ,, \x7b\x7d\n" →
      a.edges = .ofList [⟨.ofList [-1], '\n', .ofList [2]⟩, ⟨.ofList [2], ',', ∅⟩]) ∧
    ∀ states : StateSet (StateSet Nat), display states = "\x7b\x7b\x7d,\x7b1,2\x7d\x7d" →
      states = .ofList [∅, .ofList [1, 2]] := by
  obtain ⟨integers, -⟩ := display_faithful numeric_int
  obtain ⟨-, sets⟩ := display_faithful numeric_nat
  refine ⟨mt (integers.sets _ _) (by decide +kernel), fun a text => ?_, fun states text => ?_⟩
  · refine integers.automata a ⟨∅, .ofList [⟨.ofList [-1], '\n', .ofList [2]⟩,
      ⟨.ofList [2], ',', ∅⟩]⟩ (text.trans ?_)
    decide +kernel
  · refine sets.sets states _ (text.trans ?_)
    decide +kernel

end Determinize
