import Determinize.Text.Silent

/-!
Ligatures of letters. In some scripts two characters are drawn as one sign or below one another,
and such a pair takes fewer columns than its parts. `Ligature` names what the second part of a
pair can be; `Ligature.complete?` says which characters before it complete the pair.
-/

namespace Determinize.Text

/-! ### Letters -/

/-- The letters alef, with or without signs. -/
def isAlef (c : Char) : Bool :=
  inRanges [(0x622, 0x623), (0x625, 0x625), (0x627, 0x627), (0x671, 0x673), (0x675, 0x675),
    (0x773, 0x774), (0x870, 0x882)] c

/-- The letters lam, with or without signs. -/
def isLam (c : Char) : Bool :=
  inRanges [(0x644, 0x644), (0x6B5, 0x6B8), (0x76A, 0x76A), (0x8A6, 0x8A6), (0x8C7, 0x8C7)] c

/-- Khmer letters that can be written below another one. -/
def isSubscriptLetter (c : Char) : Bool :=
  inRanges [(0x1780, 0x1782), (0x1784, 0x1787), (0x1789, 0x178C), (0x178E, 0x1793),
    (0x1795, 0x1798), (0x179B, 0x179D), (0x17A0, 0x17A0), (0x17A2, 0x17A2), (0x17A7, 0x17A7),
    (0x17AB, 0x17AC), (0x17AF, 0x17AF)] c

def isTifinaghConsonant (c : Char) : Bool := inRanges [(0x2D31, 0x2D65), (0x2D6F, 0x2D6F)] c

/-- Tone letters of Lisu that can be the first of two. -/
def isFirstTone (c : Char) : Bool := inRanges [(0xA4F8, 0xA4FB)] c

/-- Tone letters of Lisu that can be the second of two. -/
def isSecondTone (c : Char) : Bool := inRanges [(0xA4FC, 0xA4FD)] c

/-! ### Pairs -/

/-- What the second part of a ligature can be. -/
inductive Ligature where
  /-- A Hebrew lamed, which an alef is joined to. -/
  | lamed
  /-- A Buginese ya, which a vowel i is joined to. -/
  | ya
  /-- A vowel i that is joined to a ya; it waits for the letter a. -/
  | vowelYa
  /-- A Tifinagh consonant, which another one is joined to. -/
  | consonant
  /-- A Tifinagh consonant behind the sign that joins consonants. -/
  | signConsonant
  /-- The second of two tone letters of Lisu. -/
  | tone
  /-- An Orkhon i of Old Turkic, which a consonant is joined to. -/
  | orkhonI
  /-- A Khmer letter, which the sign before it moves below its neighbour. -/
  | subscript
  deriving DecidableEq, Repr

/-- The ligature that `c` can be the second part of. -/
def Ligature.ending? (c : Char) : Option Ligature :=
  if c = '\u05DC' then some .lamed
  else if c = '\u1A10' then some .ya
  else if isTifinaghConsonant c then some .consonant
  else if isSecondTone c then some .tone
  else if c = Char.ofNat 0x10C03 then some .orkhonI
  else if isSubscriptLetter c then some .subscript
  else none

/-- What `c` makes of a ligature whose second part stands behind it: the columns that it adds, and
the ligature that the two of them can be the second part of. `joined` says whether a joiner
stands between them. -/
def Ligature.complete? (joined : Bool) (c : Char) : Ligature → Option (Int × Option Ligature)
  | .lamed => if joined && c = '\u05D0' then some (0, none) else none
  | .ya => if joined && c = '\u1A17' then some (0, some .vowelYa) else none
  | .vowelYa => if c = '\u1A15' then some (0, none) else none
  | .consonant =>
    if c = '\u2D7F' then some (1, some .signConsonant)
    else if joined && isTifinaghConsonant c then some (0, none)
    else none
  | .signConsonant => if isTifinaghConsonant c then some (-1, none) else none
  | .tone => if isFirstTone c then some (0, none) else none
  | .orkhonI => if joined && c = Char.ofNat 0x10C32 then some (0, none) else none
  | .subscript => if c = '\u17D2' then some (-1, none) else none

end Determinize.Text
