import Determinize.Text.Emoji
import Determinize.Text.Ligature

/-!
How characters join. Whether a character takes a place of its own depends on what stands behind
it, so a text is measured from its end. `LeftEnd` is what the beginning of a text offers to a
character before it, `Ending` adds the selector that stands there, and `LeftEnd.join?` says what
becomes of a character that accepts the offer.
-/

namespace Determinize.Text

/-- What the beginning of a text offers to a character before it. -/
inductive LeftEnd where
  /-- Nothing to join. -/
  | plain
  /-- A picture. -/
  | picture
  /-- A skin tone. -/
  | skinTone
  /-- One letter of a flag. -/
  | flagLetter
  /-- Several letters of flags. -/
  | flagLetters
  /-- A joiner before a picture. -/
  | joiner
  /-- A keycap before a joiner and a picture. -/
  | keycap
  /-- An odd number of flag letters before a joiner and a picture; `single` says whether it is
  only one. -/
  | oddLetters (single : Bool)
  /-- An even number of flag letters, not zero, before a joiner and a picture. -/
  | evenLetters
  /-- `count` tag letters before the end of tags, a joiner and a picture. -/
  | tagLetters (count : Nat)
  /-- `count` tag digits, not zero, before tag letters, the end of tags, a joiner and a picture. -/
  | tagDigits (count : Nat)
  /-- An Arabic alef. -/
  | alef
  /-- The second part of a ligature, perhaps behind a joiner. -/
  | ligature (part : Ligature) (joined : Bool)
  deriving DecidableEq, Repr

namespace LeftEnd

/-- The end stays what it is when a selector is put before it. -/
def isScript : LeftEnd → Bool
  | .alef | .ligature _ _ => true
  | _ => false

/-- A picture that is selected before this end is joined to it. -/
def joinsPicture : LeftEnd → Bool
  | .joiner | .keycap => true
  | _ => false

/-- What `c` takes and offers if it joins the text behind it. -/
def join? (c : Char) : LeftEnd → Option (Int × LeftEnd)
  | .plain => none
  | .picture => if c = Text.joiner then some (0, .joiner) else none
  | .skinTone =>
    if hasSkin c then some (0, .picture)
    else if c = Text.joiner then some (0, .joiner)
    else none
  | .flagLetter => if isFlagLetter c then some (1, .flagLetters) else none
  | .flagLetters =>
    if isFlagLetter c then some (1, .flagLetters)
    else if c = Text.joiner then some (0, .joiner)
    else none
  | .joiner =>
    if c = Text.keycap then some (0, .keycap)
    else if isFlagLetter c then some (1, .oddLetters true)
    else if isSkinTone c then some (0, .skinTone)
    else if c = tagEnd then some (0, .tagLetters 0)
    else if isPicture c then some (0, .picture)
    else none
  | .keycap => none
  | .oddLetters single =>
    if isFlagLetter c then some (-1, .evenLetters)
    else if !single && c = Text.joiner then some (0, .joiner)
    else none
  | .evenLetters =>
    if isFlagLetter c then some (3, .oddLetters false)
    else if c = Text.joiner then some (0, .joiner)
    else none
  | .tagLetters count =>
    if isTagLetter c && count < 6 then some (0, .tagLetters (count + 1))
    else if isTagDigit c && count ≤ 4 then some (0, .tagDigits 1)
    else if c = blackFlag && 3 ≤ count then some (0, .picture)
    else none
  | .tagDigits count =>
    if isTagDigit c && count < 3 then some (0, .tagDigits (count + 1))
    else if c = blackFlag && count = 3 then some (0, .picture)
    else none
  | .alef =>
    if isLam c then some (0, .plain)
    else if isTransparent c then some (0, .alef)
    else none
  | .ligature part joined =>
    if c = Text.joiner then some (0, .ligature part true)
    else if isIgnorableMark c then some (0, .ligature part joined)
    else
      (part.complete? joined c).map fun (columns, next) =>
        (columns, (next.map fun part => LeftEnd.ligature part true).getD .plain)

end LeftEnd

/-- What a selector asks for. -/
inductive Selector where
  | picture
  | plainForm
  deriving DecidableEq, Repr

/-- The beginning of a text, with the selector that stands before it. -/
structure Ending where
  selector : Option Selector
  leftEnd : LeftEnd
  deriving DecidableEq, Repr

/-- A beginning without a selector. -/
def LeftEnd.bare (leftEnd : LeftEnd) : Ending := ⟨none, leftEnd⟩

/-- Puts a selector before a text. Between two pictures one that asks for a picture keeps them
joined. -/
def LeftEnd.select (leftEnd : LeftEnd) (selector : Selector) : Ending :=
  ⟨some selector,
    if leftEnd.isScript || (selector = .picture && leftEnd.joinsPicture) then leftEnd
    else .plain⟩

/-- What is left to join after a selector that the character before it has no use for. -/
def Ending.ignoreSelector (ending : Ending) : LeftEnd :=
  if ending.selector.isSome && !ending.leftEnd.isScript then .plain else ending.leftEnd

end Determinize.Text
