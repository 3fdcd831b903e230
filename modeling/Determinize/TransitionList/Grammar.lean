import Determinize.TransitionList

/-!
The format of transition lists as relations, beside the functions that read it.

* `Cut` cuts a byte stream into lines at its line feeds.
* `Trimmed` and `Runs` say what the content of a text and its words are.
* `LineMeans` says for every line what it holds or what is wrong with it. Bytes that encode no text
  come first, then blank lines and comments; of the rest the number of words is looked at before
  the symbol. `LinesHold` tells of several lines that they are good.
-/

namespace Determinize.Text

/-! ### Bytes -/

/-- The bytes that encode a text in UTF-8. -/
def encode (text : List Char) : List UInt8 := text.flatMap String.utf8EncodeChar

/-- A line without the carriage return at its end, if there is one. -/
def dropReturn (line : List UInt8) : List UInt8 :=
  if line.getLast? = some 13 then line.dropLast else line

/-- The lines of a byte stream: it is cut at every line feed, one carriage return before a line feed
is dropped, and what follows the last line feed is a line unless it is empty. -/
inductive Cut : List UInt8 → List (List UInt8) → Prop where
  | done : Cut [] []
  | last {piece : List UInt8} : piece ≠ [] → ¬ 10 ∈ piece → Cut piece [piece]
  | feed {piece rest : List UInt8} {more : List (List UInt8)} : ¬ 10 ∈ piece → Cut rest more →
      Cut (piece ++ 10 :: rest) (dropReturn piece :: more)

/-- What stands behind a line in a byte stream: nothing, or a line feed and anything else. -/
def LineEnd (rest : List UInt8) : Prop := rest = [] ∨ ∃ tail, rest = 10 :: tail

/-! ### Words -/

/-- All characters are blank. -/
def Gap (text : List Char) : Prop := ∀ c ∈ text, isBlank c = true

/-- There is a character, and no character is blank. -/
structure IsWord (text : List Char) : Prop where
  ne_nil : text ≠ []
  not_blank : ∀ c ∈ text, isBlank c = false

/-- `content` is what remains of a text without the blanks at its ends. -/
structure Trimmed (text content : List Char) : Prop where
  cut : ∃ before after, Gap before ∧ Gap after ∧ text = before ++ content ++ after
  head_not_blank : ∀ c, content.head? = some c → isBlank c = false
  last_not_blank : ∀ c, content.getLast? = some c → isBlank c = false

/-- What stands behind a word in a text: nothing, or a blank and anything else. -/
def WordEnd (rest : List Char) : Prop := ∀ c, rest.head? = some c → isBlank c = true

/-- The words of a text are its longest runs of characters that are not blank. -/
inductive Runs : List Char → List (List Char) → Prop where
  | gap {text : List Char} : Gap text → Runs text []
  | word {before word rest : List Char} {more : List (List Char)} : Gap before → IsWord word →
      WordEnd rest → Runs rest more → Runs (before ++ word ++ rest) (word :: more)

end Determinize.Text

namespace Determinize.TransitionList

open Text

/-- What a line holds, or what is wrong with it. -/
inductive LineMeans :
    List UInt8 → Except LineError (Option (Transition String Char)) → Prop where
  | notText {line : List UInt8} : (∀ text, encode text ≠ line) → LineMeans line (.error .notText)
  | blank {text : List Char} : Trimmed text [] → LineMeans (encode text) (.ok none)
  | comment {text remark : List Char} : Trimmed text ('#' :: remark) →
      LineMeans (encode text) (.ok none)
  | transition {text content source target : List Char} {symbol : Char} :
      Trimmed text content → content.head? ≠ some '#' → Runs content [source, [symbol], target] →
      LineMeans (encode text) (.ok (some ⟨.ofList source, symbol, .ofList target⟩))
  | malformed {text content : List Char} {found : List (List Char)} :
      Trimmed text content → content ≠ [] → content.head? ≠ some '#' → Runs content found →
      found.length ≠ 3 → LineMeans (encode text) (.error (.malformed (.ofList content)))
  | badSymbol {text content source symbol target : List Char} :
      Trimmed text content → content.head? ≠ some '#' → Runs content [source, symbol, target] →
      symbol.length ≠ 1 → LineMeans (encode text) (.error (.badSymbol (.ofList symbol)))

/-- Lines that are good, and the transitions that they hold, in their order. -/
inductive LinesHold : List (List UInt8) → List (Transition String Char) → Prop where
  | nil : LinesHold [] []
  | skip {line : List UInt8} {more : List (List UInt8)} {ts : List (Transition String Char)} :
      LineMeans line (.ok none) → LinesHold more ts → LinesHold (line :: more) ts
  | transition {line : List UInt8} {more : List (List UInt8)} {t : Transition String Char}
      {ts : List (Transition String Char)} :
      LineMeans line (.ok (some t)) → LinesHold more ts → LinesHold (line :: more) (t :: ts)

end Determinize.TransitionList
