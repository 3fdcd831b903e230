/-!
Random draws. `Draws` says which draws are wanted from a source with internal states `σ`;
`Generator` is a source with 64 bits of state.

The generator adds a constant to its state and multiplies the state with a masked copy of
itself; a word of random bits is the upper half of the product combined with its lower half. As
the constant is odd, the generator passes through all `2 ^ 64` states before it repeats itself. A
draw that refuses some words therefore ends within that many attempts or would never end.
-/

namespace Determinize

/-- A source of random draws with internal states `σ`: numbers between zero and one, and
numbers below a bound, made from words of 32 or of 64 bits. -/
structure Draws (σ : Type) where
  fraction : σ → Float × σ
  below32 : Nat → σ → Nat × σ
  below64 : Nat → σ → Nat × σ

/-- Every bounded draw keeps its bound. -/
def Draws.Bounded {σ : Type} (draws : Draws σ) : Prop :=
  ∀ (n : Nat) (s : σ), 0 < n → (draws.below32 n s).1 < n ∧ (draws.below64 n s).1 < n

structure Generator where
  state : UInt64

namespace Generator

def increment : UInt64 := 0x2d358dccaa6c78a5

def mask : UInt64 := 0x8bb84b93962eacc9

/-- The number of states of a generator. -/
def period : Nat := UInt64.size

/-- A word of random bits, and the generator afterwards. -/
def word (g : Generator) : UInt64 × Generator :=
  let state := g.state + increment
  let product := state.toNat * (state ^^^ mask).toNat
  (product.toUInt64 ^^^ (product >>> 64).toUInt64, ⟨state⟩)

/-- A number from zero up to but not including one: 63 bits of a word as a binary fraction,
drawn again if rounding takes it to one. -/
def fraction : Nat → Generator → Float × Generator
  | 0, g => (0, g)
  | attempts + 1, g =>
    let (w, g) := g.word
    let x := (w >>> 1).toFloat.scaleB (-63)
    if x < 1 then (x, g) else fraction attempts g

/-- A number below `n`: a random binary fraction of `width` bits, times `n`, rounded down. Some
fractions are refused, so that the same number of them is left for every result. -/
def below (width n : Nat) : Nat → Generator → Nat × Generator
  | 0, g => (0, g)
  | attempts + 1, g =>
    let (w, g) := g.word
    let range := Nat.pow 2 width
    let product := w.toNat % range * n
    if product % range < (range - n) % n then below width n attempts g
    else (product / range, g)

theorem below_lt {width n : Nat} (hn : 0 < n) (attempts : Nat) (g : Generator) :
    (below width n attempts g).1 < n := by
  induction attempts generalizing g with
  | zero => exact hn
  | succ attempts ih =>
    simp only [below]
    split
    · exact ih _
    · refine Nat.div_lt_of_lt_mul ?_
      exact Nat.mul_lt_mul_of_pos_right (Nat.mod_lt _ (Nat.two_pow_pos width)) hn

/-- The draws of a generator. -/
def draws : Draws Generator where
  fraction := fraction period
  below32 n := below 32 n period
  below64 n := below 64 n period

theorem draws_bounded : draws.Bounded := fun _ _ hn =>
  ⟨below_lt hn _ _, below_lt hn _ _⟩

end Generator

end Determinize
