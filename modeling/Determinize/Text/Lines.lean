/-!
Lines. In a byte stream a line ends at a line feed, which does not belong to it, nor does one
carriage return directly before it; what follows the last line feed is a line unless it is empty.
In a text that is to be drawn, line feeds separate lines, so it always has at least one.
-/

namespace Determinize.Text

/-- The lines of a byte stream. -/
def lines : List UInt8 → List (List UInt8)
  | [] => []
  | 13 :: 10 :: rest => [] :: lines rest
  | 10 :: rest => [] :: lines rest
  | b :: rest =>
    match lines rest with
    | [] => [[b]]
    | line :: more => (b :: line) :: more

/-- The text that some bytes encode in UTF-8, if they do. -/
def decode? (bytes : List UInt8) : Option String := String.fromUTF8? ⟨bytes.toArray⟩

/-- The pieces of a text between its line feeds. -/
def splitLines : List Char → List (List Char)
  | [] => [[]]
  | c :: rest =>
    if c = '\n' then [] :: splitLines rest
    else
      match splitLines rest with
      | [] => [[c]]
      | line :: more => (c :: line) :: more

end Determinize.Text
