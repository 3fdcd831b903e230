import Determinize.TransitionList.Grammar
import Mathlib.Data.List.Basic

/-!
Lines of bytes and the texts that they encode.

* `lines_cases` says how the lines of a byte stream come about: it is empty, it is one line without
  a line feed, or its first line ends at the first line feed. `cut_iff` follows by induction on the
  length.
* `exists_front_of_lines`: what stands before a line is read as the same lines, whatever comes
  behind.
* `decode?_eq_some_iff` and `decode?_eq_none_iff`: bytes are decoded to the text that they encode,
  if there is one.
* `encode_eq_append_return_iff`: a carriage return at the end of a line is the last character of its
  text, since no other character has this byte in its code.
* `splitLines_flatMap`: lines that are written with a line feed behind each are the pieces of their
  text, so that they can be told apart again.
-/

namespace Determinize.Text

variable {input piece rest : List UInt8} {found : List (List UInt8)} {text text' : List Char}

/-! ### Lines -/

/-- A byte that ends no line belongs to the line behind it. -/
theorem lines_cons {b : UInt8} (feed : b ≠ 10) (inside : ¬ (b = 13 ∧ rest.head? = some 10)) :
    lines (b :: rest) =
      match lines rest with
      | [] => [[b]]
      | line :: more => (b :: line) :: more := by
  rewrite [lines]
  · rfl
  · rintro tail rfl rfl
    exact inside ⟨rfl, rfl⟩
  · exact feed

/-- Without line feeds there is one line. -/
theorem lines_of_not_mem (ne : piece ≠ []) (absent : ¬ 10 ∈ piece) : lines piece = [piece] := by
  induction piece with
  | nil => exact absurd rfl ne
  | cons b piece ih =>
    obtain ⟨hb, absent⟩ := not_or.mp (mt List.mem_cons.mpr absent)
    have head : piece.head? ≠ some 10 := fun h => absent (List.mem_of_mem_head? h)
    rw [lines_cons (Ne.symm hb) fun h => head h.2]
    cases piece with
    | nil => rfl
    | cons d piece => rw [ih (by simp) absent]

theorem dropReturn_cons {b : UInt8} (ne : piece ≠ []) :
    dropReturn (b :: piece) = b :: dropReturn piece := by
  cases piece with
  | nil => exact absurd rfl ne
  | cons d piece =>
    simp only [dropReturn, List.getLast?_cons_cons]
    split <;> rfl

/-- The first line feed ends the first line. -/
theorem lines_feed (absent : ¬ 10 ∈ piece) (rest : List UInt8) :
    lines (piece ++ 10 :: rest) = dropReturn piece :: lines rest := by
  induction piece with
  | nil => rfl
  | cons b piece ih =>
    obtain ⟨hb, absent⟩ := not_or.mp (mt List.mem_cons.mpr absent)
    cases piece with
    | nil =>
      by_cases hreturn : b = 13
      · subst hreturn
        rfl
      · rw [List.cons_append, List.nil_append, lines_cons (Ne.symm hb) fun h => hreturn h.1]
        simp [lines, dropReturn, hreturn]
    | cons d piece =>
      have hd : d ≠ 10 := fun h => absent (h ▸ List.mem_cons_self)
      rw [List.cons_append, lines_cons (Ne.symm hb) (by simp [hd]), ih absent,
        dropReturn_cons (List.cons_ne_nil d piece)]

/-- A byte stream is empty, is one line, or has a first line that a line feed ends. -/
theorem lines_cases (input : List UInt8) :
    (input = [] ∧ lines input = []) ∨ (input ≠ [] ∧ ¬ 10 ∈ input ∧ lines input = [input]) ∨
      ∃ piece rest, ¬ 10 ∈ piece ∧ input = piece ++ 10 :: rest ∧
        lines input = dropReturn piece :: lines rest := by
  by_cases feed : 10 ∈ input
  · obtain ⟨piece, rest, rfl, absent⟩ := List.eq_append_cons_of_mem feed
    exact .inr (.inr ⟨piece, rest, absent, rfl, lines_feed absent rest⟩)
  · rcases eq_or_ne input [] with rfl | ne
    · exact .inl ⟨rfl, rfl⟩
    · exact .inr (.inl ⟨ne, feed, lines_of_not_mem ne feed⟩)

theorem cut_lines (input : List UInt8) : Cut input (lines input) := by
  induction size : input.length using Nat.strongRecOn generalizing input with
  | ind n ih =>
    rcases lines_cases input with ⟨rfl, h⟩ | ⟨ne, absent, h⟩ | ⟨piece, rest, absent, rfl, h⟩
    · rw [h]
      exact .done
    · rw [h]
      exact .last ne absent
    · rw [h]
      have shorter : rest.length < n := by
        rw [← size, List.length_append, List.length_cons]
        omega
      exact .feed absent (ih _ shorter rest rfl)

/-- A byte stream has no other lines. -/
theorem Cut.eq_lines (h : Cut input found) : found = lines input := by
  induction h with
  | done => rfl
  | last ne absent => exact (lines_of_not_mem ne absent).symm
  | feed absent _ ih => rw [lines_feed absent, ih]

theorem cut_iff : Cut input found ↔ found = lines input := by
  constructor
  · exact Cut.eq_lines
  · rintro rfl
    exact cut_lines input

/-- Before a line stand the lines in front of it with their line feeds, and these lines stay as they
are whatever comes behind them. -/
theorem exists_front_of_lines {good more : List (List UInt8)} {bad : List UInt8}
    (split : lines input = good ++ bad :: more) :
    ∃ front piece rest, input = front ++ (piece ++ rest) ∧ front.count 10 = good.length ∧
      (∀ tail, lines (front ++ tail) = good ++ lines tail) ∧
      ¬ 10 ∈ piece ∧ LineEnd rest ∧ (bad = piece ∨ bad = dropReturn piece) := by
  induction good generalizing input with
  | nil =>
    rcases lines_cases input with ⟨-, h⟩ | ⟨-, absent, h⟩ | ⟨piece, rest, absent, rfl, h⟩
    · cases h.symm.trans split
    · obtain ⟨rfl, -⟩ := List.cons.inj (h.symm.trans split)
      exact ⟨[], _, [], by simp, rfl, fun _ => rfl, absent, .inl rfl, .inl rfl⟩
    · obtain ⟨rfl, -⟩ := List.cons.inj (h.symm.trans split)
      exact ⟨[], piece, 10 :: rest, rfl, rfl, fun _ => rfl, absent, .inr ⟨rest, rfl⟩, .inr rfl⟩
  | cons line good ih =>
    rcases lines_cases input with ⟨-, h⟩ | ⟨-, -, h⟩ | ⟨first, later, absent, rfl, h⟩
    · cases h.symm.trans split
    · have one := h.symm.trans split
      simp at one
    · obtain ⟨rfl, following⟩ := List.cons.inj (h.symm.trans split)
      obtain ⟨front, piece, rest, rfl, count, stay, last⟩ := ih following
      refine ⟨first ++ 10 :: front, piece, rest, by simp, ?_, ?_, last⟩
      · simp [List.count_eq_zero.mpr absent, count]
      · intro tail
        rw [List.append_assoc, List.cons_append, lines_feed absent, stay, List.cons_append]

/-- A piece without line feeds is a line, up to the carriage return at its end. -/
theorem exists_lines_piece (ne : piece ≠ []) (absent : ¬ 10 ∈ piece) (hrest : LineEnd rest) :
    ∃ line more, lines (piece ++ rest) = line :: more ∧
      (line = piece ∨ line = dropReturn piece) := by
  rcases hrest with rfl | ⟨tail, rfl⟩
  · exact ⟨piece, [], by rw [List.append_nil, lines_of_not_mem ne absent], .inl rfl⟩
  · exact ⟨dropReturn piece, lines tail, lines_feed absent tail, .inr rfl⟩

/-! ### Texts -/

theorem toByteArray_eq_iff {bytes : List UInt8} {s : String} :
    s.toByteArray = ⟨bytes.toArray⟩ ↔ encode s.toList = bytes := by
  have code : s.toByteArray.data = (encode s.toList).toArray := by
    rw [← String.utf8Encode_toList, List.utf8Encode, List.data_toByteArray]
    rfl
  rw [ByteArray.ext_iff, code]
  simp

theorem decode?_eq_some_iff {s : String} : decode? input = some s ↔ encode s.toList = input := by
  rw [← toByteArray_eq_iff, decode?, String.fromUTF8?]
  constructor
  · intro h
    split at h
    · cases h
      rfl
    · cases h
  · intro h
    rw [← h, dif_pos s.isValidUTF8]
    rfl

theorem decode?_eq_none_iff : decode? input = none ↔ ∀ text, encode text ≠ input := by
  rw [Option.eq_none_iff_forall_ne_some]
  constructor
  · intro h text code
    exact h (.ofList text) (decode?_eq_some_iff.mpr (by rwa [String.toList_ofList]))
  · intro h s hs
    exact h s.toList (decode?_eq_some_iff.mp hs)

theorem encode_append (text text' : List Char) :
    encode (text ++ text') = encode text ++ encode text' :=
  List.flatMap_append

/-- Of all characters, only the carriage return has a code that ends with its byte. -/
theorem eq_return_of_getLast? {c : Char} (h : (String.utf8EncodeChar c).getLast? = some 13) :
    c = '\r' := by
  have value : ∀ n, UInt8.ofNat n = 13 → n % 256 = 13 := by
    intro n hn
    simpa using congrArg UInt8.toNat hn
  apply Char.ext
  apply UInt32.toNat_inj.mp
  show c.val.toNat = 13
  unfold String.utf8EncodeChar at h
  simp only at h
  split at h
  · have byte := value _ (Option.some.inj h)
    omega
  · -- a longer code ends with a byte from 0x80
    have high : c.val.toNat % 64 + 128 = 13 := by
      split at h
      · have byte := value _ (Option.some.inj h)
        omega
      · split at h
        · have byte := value _ (Option.some.inj h)
          omega
        · have byte := value _ (Option.some.inj h)
          omega
    omega

/-- A carriage return at the end of some bytes is the last character of the text that they
encode. -/
theorem encode_eq_append_return_iff {line : List UInt8} :
    encode text = line ++ [13] ↔ ∃ front, text = front ++ ['\r'] ∧ encode front = line := by
  constructor
  · intro h
    rcases List.eq_nil_or_concat text with rfl | ⟨front, c, rfl⟩
    · simp [encode] at h
    · rw [List.concat_eq_append] at h ⊢
      have last : (String.utf8EncodeChar c).getLast? = some 13 := by
        have whole := congrArg List.getLast? h
        rwa [encode_append, show encode [c] = String.utf8EncodeChar c by simp [encode],
          List.getLast?_append_of_ne_nil _ String.utf8EncodeChar_ne_nil, List.getLast?_concat]
          at whole
      obtain rfl := eq_return_of_getLast? last
      rw [encode_append] at h
      exact ⟨front, rfl, List.append_cancel_right h⟩
  · rintro ⟨front, rfl, rfl⟩
    rw [encode_append]
    rfl

/-! ### Pieces of a text -/

/-- The first line feed ends the first piece. -/
theorem splitLines_feed (absent : ¬ '\n' ∈ text) (rest : List Char) :
    splitLines (text ++ '\n' :: rest) = text :: splitLines rest := by
  induction text with
  | nil => rfl
  | cons c text ih =>
    obtain ⟨hc, absent⟩ := not_or.mp (mt List.mem_cons.mpr absent)
    simp [splitLines, Ne.symm hc, ih absent]

/-- Behind the last line feed there is an empty piece. -/
theorem splitLines_flatMap {pieces : List (List Char)}
    (absent : ∀ piece ∈ pieces, ¬ '\n' ∈ piece) :
    splitLines (pieces.flatMap (· ++ ['\n'])) = pieces ++ [[]] := by
  induction pieces with
  | nil => rfl
  | cons piece pieces ih =>
    obtain ⟨hpiece, absent⟩ := List.forall_mem_cons.mp absent
    rw [List.flatMap_cons, List.append_assoc, List.singleton_append, splitLines_feed hpiece,
      ih absent, List.cons_append]

/-- There is one piece more than there are line feeds. -/
theorem length_splitLines (text : List Char) :
    (splitLines text).length = text.count '\n' + 1 := by
  induction text with
  | nil => rfl
  | cons c text ih =>
    by_cases hc : c = '\n'
    · simp [splitLines, hc, ih]
    · cases found : splitLines text with
      | nil => simp [found] at ih
      | cons piece pieces => simpa [splitLines, hc, found] using ih

end Determinize.Text
