import Determinize.Text.ControlSequence
import Determinize.Text.LeftEnd

/-!
How many columns of a terminal a text takes. Characters that only change or join others take none,
wide East Asian characters and emoji take two, and nearly all others take one. Emoji that are
joined take two columns together and ligatures of letters fewer than their letters; control
sequences take no columns and join nothing.
-/

namespace Determinize.Text

/-- Characters whose East Asian width is wide or full (Unicode 15.1). -/
def wideRanges : List (Nat × Nat) := [
  (0x1100, 0x115F), (0x231A, 0x231B), (0x2329, 0x232A), (0x23E9, 0x23EC), (0x23F0, 0x23F0),
  (0x23F3, 0x23F3), (0x25FD, 0x25FE), (0x2614, 0x2615), (0x2648, 0x2653), (0x267F, 0x267F),
  (0x2693, 0x2693), (0x26A1, 0x26A1), (0x26AA, 0x26AB), (0x26BD, 0x26BE), (0x26C4, 0x26C5),
  (0x26CE, 0x26CE), (0x26D4, 0x26D4), (0x26EA, 0x26EA), (0x26F2, 0x26F3), (0x26F5, 0x26F5),
  (0x26FA, 0x26FA), (0x26FD, 0x26FD), (0x2705, 0x2705), (0x270A, 0x270B), (0x2728, 0x2728),
  (0x274C, 0x274C), (0x274E, 0x274E), (0x2753, 0x2755), (0x2757, 0x2757), (0x2795, 0x2797),
  (0x27B0, 0x27B0), (0x27BF, 0x27BF), (0x2B1B, 0x2B1C), (0x2B50, 0x2B50), (0x2B55, 0x2B55),
  (0x2E80, 0x2E99), (0x2E9B, 0x2EF3), (0x2F00, 0x2FD5), (0x2FF0, 0x3029), (0x3030, 0x303E),
  (0x3041, 0x3096), (0x309B, 0x30FF), (0x3105, 0x312F), (0x3131, 0x3163), (0x3165, 0x318E),
  (0x3190, 0x31E3), (0x31EF, 0x321E), (0x3220, 0x3247), (0x3250, 0x4DBF), (0x4E00, 0xA48C),
  (0xA490, 0xA4C6), (0xA960, 0xA97C), (0xAC00, 0xD7A3), (0xF900, 0xFAFF), (0xFE10, 0xFE19),
  (0xFE30, 0xFE52), (0xFE54, 0xFE66), (0xFE68, 0xFE6B), (0xFF01, 0xFF60), (0xFFE0, 0xFFE6),
  (0x16FE0, 0x16FE3), (0x16FF0, 0x16FF1), (0x17000, 0x187F7), (0x18800, 0x18CD5),
  (0x18D00, 0x18D08), (0x1AFF0, 0x1AFF3), (0x1AFF5, 0x1AFFB), (0x1AFFD, 0x1AFFE),
  (0x1B000, 0x1B122), (0x1B132, 0x1B132), (0x1B150, 0x1B152), (0x1B155, 0x1B155),
  (0x1B164, 0x1B167), (0x1B170, 0x1B2FB), (0x1F004, 0x1F004), (0x1F0CF, 0x1F0CF),
  (0x1F18E, 0x1F18E), (0x1F191, 0x1F19A), (0x1F200, 0x1F202), (0x1F210, 0x1F23B),
  (0x1F240, 0x1F248), (0x1F250, 0x1F251), (0x1F260, 0x1F265), (0x1F300, 0x1F320),
  (0x1F32D, 0x1F335), (0x1F337, 0x1F37C), (0x1F37E, 0x1F393), (0x1F3A0, 0x1F3CA),
  (0x1F3CF, 0x1F3D3), (0x1F3E0, 0x1F3F0), (0x1F3F4, 0x1F3F4), (0x1F3F8, 0x1F43E),
  (0x1F440, 0x1F440), (0x1F442, 0x1F4FC), (0x1F4FF, 0x1F53D), (0x1F54B, 0x1F54E),
  (0x1F550, 0x1F567), (0x1F57A, 0x1F57A), (0x1F595, 0x1F596), (0x1F5A4, 0x1F5A4),
  (0x1F5FB, 0x1F64F), (0x1F680, 0x1F6C5), (0x1F6CC, 0x1F6CC), (0x1F6D0, 0x1F6D2),
  (0x1F6D5, 0x1F6D7), (0x1F6DC, 0x1F6DF), (0x1F6EB, 0x1F6EC), (0x1F6F4, 0x1F6FC),
  (0x1F7E0, 0x1F7EB), (0x1F7F0, 0x1F7F0), (0x1F90C, 0x1F93A), (0x1F93C, 0x1F945),
  (0x1F947, 0x1F9FF), (0x1FA70, 0x1FA7C), (0x1FA80, 0x1FA88), (0x1FA90, 0x1FABD),
  (0x1FABF, 0x1FAC5), (0x1FACE, 0x1FADB), (0x1FAE0, 0x1FAE8), (0x1FAF0, 0x1FAF8),
  (0x20000, 0x2FFFD), (0x30000, 0x3FFFD)]

/-! ### Single characters -/

/-- The number of columns that a character takes by itself. -/
def charColumns (c : Char) : Nat :=
  if c = '\u17A4' then 2
  else if c = '\u17D8' then 3
  else if isSilent c then 0
  else if inRanges wideRanges c then 2
  else 1

/-- What a character offers to one before it. -/
def leftEnd (c : Char) : LeftEnd :=
  if isPicture c then .picture
  else if isSkinTone c then .skinTone
  else if isFlagLetter c then .flagLetter
  else if isAlef c then .alef
  else ((Ligature.ending? c).map fun part => LeftEnd.ligature part false).getD .plain

/-! ### Characters before a text -/

/-- The columns that `c` adds to a text that begins with `ending`, and what the two of them begin
with. Characters up to U+00A0 join nothing but a selector. -/
def prepend (c : Char) (ending : Ending) : Int × Ending :=
  if ending.selector = some .picture && isSelectable c then
    (if ending.leftEnd.joinsPicture then 0 else 2, LeftEnd.picture.bare)
  else if c.toNat ≤ 0xA0 then (1, LeftEnd.plain.bare)
  else if c = pictureSelector then (0, ending.ignoreSelector.select .picture)
  else if c = plainSelector then (0, ending.ignoreSelector.select .plainForm)
  else if ending.selector = some .plainForm && hasPlainForm c then (1, LeftEnd.plain.bare)
  else
    match ending.ignoreSelector.join? c with
    | some (columns, joined) => (columns, joined.bare)
    | none => (charColumns c, (leftEnd c).bare)

/-- The columns that a text without control sequences takes, and what it begins with. -/
def extent : List Char → Int × Ending
  | [] => (0, LeftEnd.plain.bare)
  | c :: rest =>
    let (columns, ending) := extent rest
    let (more, joined) := prepend c ending
    (columns + more, joined)

/-! ### Texts with control sequences -/

def Piece.columns : Piece → Nat
  | .shown text => (extent text).1.toNat
  | .sequence _ _ => 0

def columns (text : List Char) : Nat := (pieces text).foldr (fun piece rest => piece.columns + rest) 0

end Determinize.Text
