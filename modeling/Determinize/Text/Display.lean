import Determinize.SortedSet.Basic
import Determinize.Text.Quoted

/-!
Two ways to write a value. `display` is for people: characters and strings are themselves, and a
set is written without blanks. `inspect` is for logs: characters and strings are quoted, and a
set has a blank after every comma.

How a set is written for people is up to its elements: `displayAll` writes collections of values, in
braces and with commas unless the type of the values has a way of its own. The types that have none
are `PlainDisplay`, as all types here are.
-/

universe u

namespace Determinize

open Text

/-- Some texts in braces, with a separator between them. -/
def inBraces (separator : String) (texts : List String) : String :=
  "\x7b" ++ separator.intercalate texts ++ "\x7d"

/-- Values with a form that is meant for people. -/
class Display (α : Type u) where
  display : α → String
  /-- The form of a collection of values, in the given order and with all repetitions. -/
  displayAll : List α → String := fun values => inBraces "," (values.map display)

/-- Values with a form in which different values can be told apart. -/
class Inspect (α : Type u) where
  inspect : α → String

export Display (display displayAll)
export Inspect (inspect)

/-- Values whose collections are written in braces and with commas. -/
class PlainDisplay (α : Type u) [Display α] : Prop where
  displayAll_eq : ∀ values : List α, displayAll values = inBraces "," (values.map display)

/-! ### Numbers, characters and strings -/

/-- An integer in decimal digits, with a sign if it is negative. -/
def decimal : Int → String
  | .ofNat n => n.repr
  | .negSucc n => "-" ++ (n + 1).repr

def truthValue (b : Bool) : String := if b then "true" else "false"

instance : Display Nat where
  display := Nat.repr

instance : PlainDisplay Nat := ⟨fun _ => rfl⟩

instance : Inspect Nat := ⟨Nat.repr⟩

instance : Display Int where
  display := decimal

instance : PlainDisplay Int := ⟨fun _ => rfl⟩

instance : Inspect Int := ⟨decimal⟩

instance : Display Bool where
  display := truthValue

instance : PlainDisplay Bool := ⟨fun _ => rfl⟩

instance : Inspect Bool := ⟨truthValue⟩

instance : Display Char where
  display := Char.toString

instance : PlainDisplay Char := ⟨fun _ => rfl⟩

instance : Inspect Char := ⟨Quoted.char⟩

instance : Display String where
  display := id

instance : PlainDisplay String := ⟨fun _ => rfl⟩

instance : Inspect String := ⟨Quoted.string⟩

/-! ### Sets -/

variable {α : Type u} [TotalOrd α]

/-- A set is written as a collection of its elements. -/
instance [Display α] : Display (SortedSet α) where
  display s := displayAll s.toList

instance [Display α] : PlainDisplay (SortedSet α) := ⟨fun _ => rfl⟩

instance [Inspect α] : Inspect (SortedSet α) :=
  ⟨fun s => inBraces ", " (s.toList.map inspect)⟩

end Determinize
