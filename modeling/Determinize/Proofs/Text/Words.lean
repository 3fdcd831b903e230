import Determinize.TransitionList.Grammar
import Mathlib.Data.List.TakeWhile

/-!
Trimming and dividing a text do what they are described by.

* `trimmed_trim`, `Trimmed.eq_trim`: a text has one content, which is what `trim` leaves.
* `runs_iff`: a text has one list of longest runs, which are its `words`. For this, `splitWord` is
  told apart at a word and what follows it: `splitWord_append` says that it finds the word, and
  `exists_splitWord` that every text starts with the word that it finds.
* `words_intercalate`: words that are joined by blanks are found again.
-/

namespace Determinize.Text

variable {text content gap rest word : List Char} {found : List (List Char)} {c : Char}

/-! ### Gaps -/

theorem gap_nil : Gap [] := by simp [Gap]

theorem gap_cons : Gap (c :: gap) ↔ isBlank c = true ∧ Gap gap := by simp [Gap]

theorem Gap.reverse (h : Gap gap) : Gap gap.reverse := by simpa [Gap] using h

theorem gap_takeWhile (text : List Char) : Gap (text.takeWhile isBlank) := by
  intro c hc
  exact List.mem_takeWhile_imp hc

/-- A gap in front is dropped, and nothing behind it if no blank follows. -/
theorem dropWhile_gap_append (h : Gap gap)
    (visible : ∀ c, rest.head? = some c → isBlank c = false) :
    (gap ++ rest).dropWhile isBlank = rest := by
  rw [List.dropWhile_append_of_pos h]
  cases rest with
  | nil => rfl
  | cons c rest => simp [visible c rfl]

/-- What is left when the gap in front is dropped does not start with a blank. -/
theorem not_blank_of_head_dropWhile (h : (text.dropWhile isBlank).head? = some c) :
    isBlank c = false := by
  have head := List.head?_dropWhile_not isBlank text
  rw [h] at head
  exact head

/-! ### Content -/

theorem trimmed_trim (text : List Char) : Trimmed text (trim text) := by
  -- the text is a gap in front and `front`, which is the content and a gap behind it
  let front := text.dropWhile isBlank
  let behind := front.reverse.takeWhile isBlank
  have split : front = trim text ++ behind.reverse := by
    rw [← List.reverse_reverse front, ← List.takeWhile_append_dropWhile (p := isBlank)
      (l := front.reverse), List.reverse_append]
    rfl
  refine ⟨⟨text.takeWhile isBlank, behind.reverse, gap_takeWhile text,
    (gap_takeWhile front.reverse).reverse, ?_⟩, ?_, ?_⟩
  · rw [List.append_assoc, ← split, List.takeWhile_append_dropWhile]
  · intro c hc
    have head : front.head? = some c := by
      rw [split, List.head?_append, hc]
      rfl
    exact not_blank_of_head_dropWhile head
  · intro c hc
    rw [trim, List.getLast?_reverse] at hc
    exact not_blank_of_head_dropWhile hc

/-- A text has no other content than the one that `trim` leaves. -/
theorem Trimmed.eq_trim (h : Trimmed text content) : content = trim text := by
  obtain ⟨before, after, hbefore, hafter, rfl⟩ := h.cut
  cases content with
  | nil =>
    have gap : Gap (before ++ [] ++ after) := by
      rw [List.append_nil]
      exact List.forall_mem_append.mpr ⟨hbefore, hafter⟩
    rw [trim, List.dropWhile_eq_nil_iff.mpr gap]
    rfl
  | cons c content =>
    have front :
        (before ++ (c :: content) ++ after).dropWhile isBlank = (c :: content) ++ after := by
      rw [List.append_assoc]
      exact dropWhile_gap_append hbefore fun d hd => h.head_not_blank d hd
    have back : ((c :: content) ++ after).reverse.dropWhile isBlank = (c :: content).reverse := by
      rw [List.reverse_append]
      refine dropWhile_gap_append hafter.reverse fun d hd => h.last_not_blank d ?_
      rwa [List.head?_reverse] at hd
    rw [trim, front, back, List.reverse_reverse]

/-- Blanks behind a text do not change its content. -/
theorem Trimmed.append_gap (h : Trimmed text content) (hgap : Gap gap) :
    Trimmed (text ++ gap) content where
  cut := by
    obtain ⟨before, after, hbefore, hafter, rfl⟩ := h.cut
    exact ⟨before, after ++ gap, hbefore, List.forall_mem_append.mpr ⟨hafter, hgap⟩,
      List.append_assoc ..⟩
  head_not_blank := h.head_not_blank
  last_not_blank := h.last_not_blank

/-! ### Words -/

theorem words_blank (h : isBlank c = true) (rest : List Char) :
    words (c :: rest) = words rest := by
  simp [words, splitWord, h, consWord]

/-- A word is found up to the blank behind it. -/
theorem splitWord_append (hword : ∀ c ∈ word, isBlank c = false) (hrest : WordEnd rest) :
    splitWord (word ++ rest) = (word, words rest) := by
  induction word with
  | nil =>
    cases rest with
    | nil => rfl
    | cons c rest =>
      have blank : isBlank c = true := hrest c rfl
      rw [words_blank blank]
      simp [splitWord, blank, words]
  | cons c word ih =>
    obtain ⟨hc, hword⟩ := List.forall_mem_cons.mp hword
    simp [splitWord, ih hword, hc]

theorem words_gap_append (h : Gap gap) (rest : List Char) : words (gap ++ rest) = words rest := by
  induction gap with
  | nil => rfl
  | cons c gap ih =>
    obtain ⟨hc, hgap⟩ := gap_cons.mp h
    rw [List.cons_append, words_blank hc, ih hgap]

theorem words_word_append (hword : IsWord word) (hrest : WordEnd rest) :
    words (word ++ rest) = word :: words rest := by
  rw [words, splitWord_append hword.not_blank hrest]
  cases word with
  | nil => exact absurd rfl hword.ne_nil
  | cons c word => rfl

theorem Runs.words_eq (h : Runs text found) : words text = found := by
  induction h with
  | gap hgap => simpa [words, splitWord, consWord] using words_gap_append hgap []
  | word hbefore hword hrest _ ih =>
    rw [List.append_assoc, words_gap_append hbefore, words_word_append hword hrest, ih]

theorem Runs.ne_nil (h : Runs text (word :: found)) : text ≠ [] := by
  rintro rfl
  cases h.words_eq

theorem Runs.isWord (h : Runs text found) : ∀ word ∈ found, IsWord word := by
  induction h with
  | gap _ => simp
  | word _ hword _ _ ih => exact List.forall_mem_cons.mpr ⟨hword, ih⟩

/-- A text that does not start with a blank starts with its first word. -/
theorem Runs.head?_eq (h : Runs text (word :: found))
    (front : ∀ c, text.head? = some c → isBlank c = false) : word.head? = text.head? := by
  cases h with
  | @word before _ _ _ hbefore hword _ _ =>
    cases before with
    | nil =>
      obtain ⟨c, word, rfl⟩ := List.exists_cons_of_ne_nil hword.ne_nil
      rfl
    | cons c before =>
      have blank : isBlank c = true := hbefore c List.mem_cons_self
      have visible : isBlank c = false := front c rfl
      rw [blank] at visible
      cases visible

/-- A blank in front belongs to no word. -/
theorem Runs.blank_cons (hc : isBlank c = true) (h : Runs text found) : Runs (c :: text) found := by
  cases h with
  | gap hgap => exact .gap (gap_cons.mpr ⟨hc, hgap⟩)
  | word hbefore hword hrest later =>
    have longer := Runs.word (gap_cons.mpr ⟨hc, hbefore⟩) hword hrest later
    exact longer

/-- A word without a gap in front, or none, and what follows it. -/
theorem Runs.consWord (hword : ∀ c ∈ word, isBlank c = false) (hrest : WordEnd rest)
    (h : Runs rest found) : Runs (word ++ rest) (consWord word found) := by
  cases word with
  | nil => exact h
  | cons c word =>
    have found := Runs.word gap_nil ⟨List.cons_ne_nil c word, hword⟩ hrest h
    exact found

/-- A text starts with the word that `splitWord` finds, and the words of the rest follow. -/
theorem exists_splitWord (text : List Char) :
    ∃ rest, text = (splitWord text).1 ++ rest ∧ (∀ c ∈ (splitWord text).1, isBlank c = false) ∧
      WordEnd rest ∧ Runs rest (splitWord text).2 := by
  induction text with
  | nil => exact ⟨[], rfl, by simp [splitWord], by simp [WordEnd], .gap gap_nil⟩
  | cons c text ih =>
    obtain ⟨rest, split, hword, hrest, runs⟩ := ih
    by_cases hc : isBlank c = true
    · refine ⟨c :: text, by simp [splitWord, hc], by simp [splitWord, hc], by simpa [WordEnd], ?_⟩
      have later := Runs.consWord hword hrest runs
      rw [← split] at later
      simpa [splitWord, hc] using later.blank_cons hc
    · refine ⟨rest, ?_, ?_, hrest, ?_⟩
      · simp [splitWord, hc, ← split]
      · simpa [splitWord, hc] using hword
      · simpa [splitWord, hc] using runs

theorem runs_words (text : List Char) : Runs text (words text) := by
  obtain ⟨rest, split, hword, hrest, runs⟩ := exists_splitWord text
  have found := Runs.consWord hword hrest runs
  rwa [← split] at found

theorem runs_iff : Runs text found ↔ found = words text := by
  constructor
  · intro h
    exact h.words_eq.symm
  · rintro rfl
    exact runs_words text

/-! ### Joined texts -/

theorem mem_intercalate {separator : List Char} (h : c ∈ separator.intercalate found) :
    c ∈ separator ∨ ∃ word ∈ found, c ∈ word := by
  induction found with
  | nil => cases h
  | cons word found ih =>
    cases found with
    | nil => exact .inr ⟨word, List.mem_cons_self, by simpa using h⟩
    | cons next found =>
      rw [List.intercalate_cons_cons, List.mem_append, List.mem_append] at h
      rcases h with (h | h) | h
      · exact .inr ⟨word, List.mem_cons_self, h⟩
      · exact .inl h
      · rcases ih h with h | ⟨later, hlater, h⟩
        · exact .inl h
        · exact .inr ⟨later, List.mem_cons_of_mem _ hlater, h⟩

/-- Words with a blank between them are the words of their text. -/
theorem words_intercalate (h : ∀ word ∈ found, IsWord word) :
    words ([' '].intercalate found) = found := by
  induction found with
  | nil => rfl
  | cons word found ih =>
    obtain ⟨hword, h⟩ := List.forall_mem_cons.mp h
    cases found with
    | nil =>
      have alone : words (word ++ []) = [word] := words_word_append hword (by simp [WordEnd])
      simpa using alone
    | cons next found =>
      have blank : isBlank ' ' = true := by decide
      have behind : WordEnd (' ' :: [' '].intercalate (next :: found)) := by
        simp [WordEnd, blank]
      rw [List.intercalate_cons_cons, List.append_assoc, List.singleton_append,
        words_word_append hword behind, words_blank blank, ih h]

end Determinize.Text
