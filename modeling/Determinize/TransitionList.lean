import Determinize.Relation.Basic
import Determinize.Text.Blank
import Determinize.Text.Lines

/-!
Lists of transitions as text. Every line holds three words, the source, the symbol and the target
of a transition; blank lines and lines that start with `#` hold none. `readLine` says what a
single line holds, and reading stops at the first line that is bad.
-/

namespace Determinize.TransitionList

open Text

/-- What can be wrong with a line. -/
inductive LineError where
  | notText
  | malformed (content : String)
  | badSymbol (symbol : String)
  deriving DecidableEq, Repr

/-- A bad line and its number, the first line having number one. -/
structure InputError where
  line : Nat
  cause : LineError
  deriving DecidableEq, Repr

def InputError.message (e : InputError) : String :=
  match e.cause with
  | .notText => "could not read input: stream did not contain valid UTF-8"
  | .malformed content =>
    "line " ++ e.line.repr ++ ": expected `<from> <symbol> <to>`, found \"" ++ content ++ "\""
  | .badSymbol symbol =>
    "line " ++ e.line.repr ++ ": symbol \"" ++ symbol ++ "\" is not a single character"

/-- The transition that a trimmed line holds, if it holds one. -/
def readContent (content : List Char) :
    Except LineError (Option (Transition String Char)) :=
  if content.isEmpty || content.head? = some '#' then .ok none
  else
    match words content with
    | [source, [symbol], target] =>
      .ok (some ⟨String.ofList source, symbol, String.ofList target⟩)
    | [_, symbol, _] => .error (.badSymbol (String.ofList symbol))
    | _ => .error (.malformed (String.ofList content))

/-- The transition that a line holds, if it holds one. -/
def readLine (line : List UInt8) : Except LineError (Option (Transition String Char)) :=
  match decode? line with
  | none => .error .notText
  | some text => readContent (trim text.toList)

/-- What was read of a list of transitions: the transitions up to the first bad line, and what
is wrong with that line. -/
structure Reading where
  transitions : List (Transition String Char)
  failure : Option InputError

/-- Reads lines, of which the first has the given number. -/
def readLines : Nat → List (List UInt8) → Reading
  | _, [] => ⟨[], none⟩
  | number, line :: more =>
    match readLine line with
    | .error cause => ⟨[], some ⟨number, cause⟩⟩
    | .ok none => readLines (number + 1) more
    | .ok (some t) =>
      let later := readLines (number + 1) more
      { later with transitions := t :: later.transitions }

def read (input : List UInt8) : Reading := readLines 1 (lines input)

/-- The relation that a list of transitions describes. -/
def readRelation (epsilon : Char) (input : List UInt8) :
    Except InputError (Relation String Char) :=
  let reading := read input
  match reading.failure with
  | some e => .error e
  | none => .ok ((Relation.withEpsilon epsilon).addMany reading.transitions)

end Determinize.TransitionList
