import Determinize.Text.ControlSequence
import Determinize.Text.Lines

/-!
Styles of printed text. Control sequences that end in the letter m switch aspects of the style on
and off by their parameters. When a text with styles is cut into lines, every line is made to
stand by itself: it begins by switching on what was on at its beginning and ends by switching off
what is on at its end.

A parameter without a known meaning switches nothing, but the style is then ended by switching
everything off.
-/

namespace Determinize.Text

/-! ### Aspects -/

/-- What a style can change about text. -/
inductive Aspect where
  | bold
  | faint
  | italic
  | underline
  | slowBlink
  | rapidBlink
  | inverse
  | hidden
  | crossedOut
  | font
  | fraktur
  | doubleUnderline
  | proportional
  | foreground
  | background
  | underlineColour
  | framed
  | encircled
  | overlined
  | ideogramUnderline
  | ideogramDoubleUnderline
  | ideogramOverline
  | ideogramDoubleOverline
  | ideogramStress
  | superscript
  | subscript
  deriving DecidableEq, Repr

namespace Aspect

/-- All aspects, in the order in which they are switched on. -/
def all : List Aspect := [
  .bold, .faint, .italic, .underline, .slowBlink, .rapidBlink, .inverse, .hidden, .crossedOut,
  .font, .fraktur, .doubleUnderline, .proportional, .foreground, .background, .underlineColour,
  .framed, .encircled, .overlined, .ideogramUnderline, .ideogramDoubleUnderline,
  .ideogramOverline, .ideogramDoubleOverline, .ideogramStress, .superscript, .subscript]

/-- The number that is written to switch an aspect off. -/
def off : Aspect → Nat
  | .bold | .faint => 22
  | .italic | .fraktur => 23
  | .underline | .doubleUnderline => 24
  | .slowBlink | .rapidBlink => 25
  | .inverse => 27
  | .hidden => 28
  | .crossedOut => 29
  | .font => 10
  | .proportional => 50
  | .foreground => 39
  | .background => 49
  | .underlineColour => 59
  | .framed | .encircled => 54
  | .overlined => 55
  | .ideogramUnderline | .ideogramDoubleUnderline | .ideogramOverline | .ideogramDoubleOverline
  | .ideogramStress => 65
  | .superscript | .subscript => 75

/-- The numbers that switch aspects off, in the order in which they are written. -/
def allOff : List Nat := [10, 22, 23, 24, 25, 27, 28, 29, 39, 49, 50, 54, 55, 65, 59, 75]

/-- Whether a number in a text switches an aspect off. No number does so for fraktur alone. -/
def isEndedBy (aspect : Aspect) (number : Nat) : Bool :=
  aspect ≠ .fraktur && aspect.off = number

/-- The aspect that a number by itself switches on. -/
def ofNumber? (n : Nat) : Option Aspect :=
  match n with
  | 1 => some .bold
  | 2 => some .faint
  | 3 => some .italic
  | 4 => some .underline
  | 5 => some .slowBlink
  | 6 => some .rapidBlink
  | 7 => some .inverse
  | 8 => some .hidden
  | 9 => some .crossedOut
  | 20 => some .fraktur
  | 21 => some .doubleUnderline
  | 26 => some .proportional
  | 51 => some .framed
  | 52 => some .encircled
  | 53 => some .overlined
  | 60 => some .ideogramUnderline
  | 61 => some .ideogramDoubleUnderline
  | 62 => some .ideogramOverline
  | 63 => some .ideogramDoubleOverline
  | 64 => some .ideogramStress
  | 73 => some .superscript
  | 74 => some .subscript
  | _ =>
    if 11 ≤ n && n ≤ 19 then some .font
    else if 30 ≤ n && n ≤ 37 || 90 ≤ n && n ≤ 97 then some .foreground
    else if 40 ≤ n && n ≤ 47 || 100 ≤ n && n ≤ 107 then some .background
    else none

/-- The aspect whose colour is given by the numbers behind a number. -/
def ofColour? (n : Nat) : Option Aspect :=
  match n with
  | 38 => some .foreground
  | 48 => some .background
  | 58 => some .underlineColour
  | _ => none

end Aspect

/-! ### Styles -/

/-- The style at some place of a text. -/
structure Style where
  /-- The aspects that are on, each with the numbers that switched it on. -/
  aspects : List (Aspect × List Nat)
  /-- Whether everything has been switched off by a number before. -/
  cleared : Bool
  /-- Whether there has been a parameter without a known meaning since. -/
  unknown : Bool
  deriving DecidableEq, Repr

/-- The control sequence with some numbers. -/
def styleSequence (numbers : List Nat) : List Char :=
  escapeChar :: '[' :: (";".intercalate (numbers.map Nat.repr)).toList ++ ['m']

/-- The number that some digits are. -/
def number? (digits : List Char) : Option Nat :=
  if digits ≠ [] && digits.all Char.isDigit then
    some (digits.foldl (fun n digit => 10 * n + (digit.toNat - '0'.toNat)) 0)
  else none

/-- The number that some digits are, if it is written in the shortest way. With leading zeros it has
no meaning as a parameter. -/
def shortNumber? (digits : List Char) : Option Nat :=
  (number? digits).filter fun n => Nat.toDigits 10 n = digits

/-- One part of a colour, from 0 to 255. What is no such number counts as 0. -/
def colourPart (parameter : List Char) : Nat :=
  match number? parameter with
  | some n => if n ≤ 255 then n else 0
  | none => 0

namespace Style

/-- The style at the beginning of a text. -/
def initial : Style := ⟨[], false, false⟩

def switchOn (style : Style) (aspect : Aspect) (numbers : List Nat) : Style :=
  { style with aspects := (aspect, numbers) :: style.aspects.filter fun entry => entry.1 ≠ aspect }

def switchOff (style : Style) (number : Nat) : Style :=
  { style with aspects := style.aspects.filter fun entry => !entry.1.isEndedBy number }

/-- The style after one number: 0 switches everything off. -/
def number (style : Style) (n : Nat) : Style :=
  if n = 0 then ⟨[], true, false⟩
  else
    match Aspect.ofNumber? n with
    | some aspect => style.switchOn aspect [n]
    | none =>
      if Aspect.allOff.contains n then style.switchOff n else { style with unknown := true }

/-- The style after one parameter. -/
def parameter (style : Style) (parameter : List Char) : Style :=
  match shortNumber? parameter with
  | some n => style.number n
  | none => { style with unknown := true }

/-- The aspect whose colour is given by the parameters behind one, with the number of it. -/
def colour? (parameter : List Char) : Option (Aspect × Nat) :=
  (shortNumber? parameter).bind fun n => (Aspect.ofColour? n).map fun aspect => (aspect, n)

/-- The style after some parameters. A colour takes one parameter behind 5 and three behind 2; it
takes a parameter that is neither of them without effect, and all the others if they are too
few. -/
def parameters (style : Style) : List (List Char) → Style
  | [] => style
  | first :: rest =>
    match colour? first with
    | none => (style.parameter first).parameters rest
    | some (aspect, n) =>
      match rest with
      | ['5'] :: colour :: rest =>
        (style.switchOn aspect [n, 5, colourPart colour]).parameters rest
      | ['2'] :: red :: green :: blue :: rest =>
        (style.switchOn aspect
          [n, 2, colourPart red, colourPart green, colourPart blue]).parameters rest
      | ['5'] :: _ | ['2'] :: _ | [] => style
      | _ :: rest => style.parameters rest
termination_by parameters => parameters.length

/-- Whether a style is written at all. The font alone is not. -/
def isWritten (style : Style) : Bool :=
  style.cleared || style.aspects.any fun entry => entry.1 ≠ .font

/-- What switches a style on. -/
def opening (style : Style) : List Char :=
  if style.isWritten then
    Aspect.all.flatMap fun aspect => ((style.aspects.lookup aspect).map styleSequence).getD []
  else []

/-- What switches a style off. -/
def closing (style : Style) : List Char :=
  if style.isWritten then
    let numbers := Aspect.allOff.filter fun n => style.aspects.any fun entry => entry.1.off = n
    let before := if style.unknown && style.cleared then [0] else []
    let after := if style.unknown then [0] else []
    (before ++ numbers ++ after).flatMap fun n => styleSequence [n]
  else []

end Style

/-- The parameters of a control sequence for the style, between semicolons. A sequence that does
not begin as such is a single parameter. -/
def styleParameters (sequence : List Char) : List (List Char) :=
  match sequence with
  | '\x1b' :: '[' :: rest => rest.dropLast.splitOn ';'
  | _ => [sequence]

/-- The style behind a piece of a text. -/
def Style.afterPiece (style : Style) : Piece → Style
  | .sequence .style text => style.parameters (styleParameters text)
  | _ => style

/-- The style at the end of a text that begins in `style`. -/
def Style.through (style : Style) (text : List Char) : Style :=
  (pieces text).foldl Style.afterPiece style

/-! ### Lines -/

/-- Makes lines stand by themselves, the first of them beginning in `style`. Empty lines stay
empty. -/
def Style.separate (style : Style) : List (List Char) → List (List Char)
  | [] => []
  | [] :: rest => [] :: style.separate rest
  | line :: rest =>
    let after := style.through line
    (style.opening ++ line ++ after.closing) :: after.separate rest

/-- The lines of a text as they are written: a single line stays as it is. -/
def styledLines (text : List Char) : List (List Char) :=
  match splitLines text with
  | [line] => [line]
  | lines => Style.initial.separate lines

end Determinize.Text
