import Determinize.Text.Combining
import Determinize.Text.Unprintable

/-!
Quoted text: a character or a string between quotes, in which every character that could be
misread is written with a backslash. The quote itself and the backslash are preceded by one,
four controls have letters, and other characters that would not be seen for themselves are
written as a code point in hexadecimal digits.
-/

namespace Determinize.Text.Quoted

/-- Characters that stand for themselves inside quotes. -/
def isPlain (c : Char) : Bool :=
  (0x20 ≤ c.toNat && c.toNat < 0x7F) ||
    (0x7F < c.toNat && !isCombining c && !isUnprintable c)

/-- The code point of `c`, in lower case hexadecimal digits without leading zeros. -/
def codePoint (c : Char) : List Char :=
  ['\\', 'u', '\x7b'] ++ Nat.toDigits 16 c.toNat ++ ['\x7d']

/-- How `c` is written between a pair of `quote`. -/
def escape (quote c : Char) : List Char :=
  if c = quote || c = '\\' then ['\\', c]
  else if isPlain c then [c]
  else if c = '\x00' then ['\\', '0']
  else if c = '\t' then ['\\', 't']
  else if c = '\n' then ['\\', 'n']
  else if c = '\r' then ['\\', 'r']
  else codePoint c

def singleQuote : Char := '\x27'

def doubleQuote : Char := '\x22'

/-- A character between single quotes. -/
def char (c : Char) : String :=
  String.ofList (singleQuote :: escape singleQuote c ++ [singleQuote])

/-- A string between double quotes. -/
def string (s : String) : String :=
  String.ofList (doubleQuote :: s.toList.flatMap (escape doubleQuote) ++ [doubleQuote])

end Determinize.Text.Quoted
