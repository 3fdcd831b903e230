import Determinize.Text.CodeRange

/-!
Blank characters (the property `White_Space` of Unicode), and text cut at them. `words` lists the
longest runs of characters that are not blank, and `trim` drops blanks at both ends.
-/

namespace Determinize.Text

def blankRanges : List (Nat × Nat) := [
  (0x9, 0xD), (0x20, 0x20), (0x85, 0x85), (0xA0, 0xA0), (0x1680, 0x1680), (0x2000, 0x200A),
  (0x2028, 0x2029), (0x202F, 0x202F), (0x205F, 0x205F), (0x3000, 0x3000)]

def isBlank (c : Char) : Bool := inRanges blankRanges c

def trim (text : List Char) : List Char :=
  ((text.dropWhile isBlank).reverse.dropWhile isBlank).reverse

/-- Puts a word in front of other words, unless it is empty. -/
def consWord : List Char → List (List Char) → List (List Char)
  | [], words => words
  | word, words => word :: words

/-- The characters before the first blank, and the words behind it. -/
def splitWord : List Char → List Char × List (List Char)
  | [] => ([], [])
  | c :: rest =>
    let (word, words) := splitWord rest
    if isBlank c then ([], consWord word words) else (c :: word, words)

/-- The longest runs of characters that are not blank. -/
def words (text : List Char) : List (List Char) :=
  consWord (splitWord text).1 (splitWord text).2

end Determinize.Text
