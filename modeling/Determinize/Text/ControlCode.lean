/-!
Control characters that a terminal acts upon. In a log they are written out, so that a message
cannot change how the lines around it are shown.
-/

namespace Determinize.Text

/-- A control character as it is written in a log: the escape character, backspace, bell, form
feed and delete with two hexadecimal digits, the controls beyond ASCII as a code point. Every
other character stands for itself. -/
def writeOut (c : Char) : List Char :=
  if c = '\x1b' then "\\x1b".toList
  else if c = '\x07' then "\\x07".toList
  else if c = '\x08' then "\\x08".toList
  else if c = '\x0c' then "\\x0c".toList
  else if c = '\x7f' then "\\x7f".toList
  else if 0x80 ≤ c.toNat && c.toNat ≤ 0x9F then
    ['\\', 'u', '\x7b'] ++ Nat.toDigits 16 c.toNat ++ ['\x7d']
  else [c]

/-- A text with its control characters written out. -/
def withoutControls (text : String) : String := String.ofList (text.toList.flatMap writeOut)

end Determinize.Text
