import EmissionsPlatform.Foundation.DecimalText
import Mathlib.Algebra.BigOperators.Group.List.Basic

/-! Sums of decimal texts made with a type of numbers that may round: each text
is parsed, the numbers are added up from the left, and the total is written
with six fractional digits. `exact` rounds nothing; `binary64` rounds as
doubles do. -/
namespace EmissionsPlatform
set_option autoImplicit false

/-- What a sum of decimal texts needs of its numbers. -/
structure NumberArithmetic where
  Number : Type
  zero : Number
  /-- The number a count of millionths is read as. -/
  ofMillionths : Nat → Number
  add : Number → Number → Number
  /-- The count of millionths a number is written as. -/
  toMillionths : Number → Nat

namespace NumberArithmetic

/-- `Number.parseFloat(text)` of a decimal text. -/
def parseFloat (arithmetic : NumberArithmetic) (text : String) : arithmetic.Number :=
  arithmetic.ofMillionths ((DecimalText.millionths text).getD 0)

/-- `number.toFixed(6)`. -/
def toFixed (arithmetic : NumberArithmetic) (number : arithmetic.Number) : String :=
  DecimalText.numericText (arithmetic.toMillionths number)

/-- Add up numbers from the left, the first one as it is. -/
def addUp (arithmetic : NumberArithmetic) : List arithmetic.Number → arithmetic.Number
  | [] => arithmetic.zero
  | first :: rest => rest.foldl arithmetic.add first

/-- Arithmetic without rounding, in millionths. -/
def exact : NumberArithmetic := ⟨Nat, 0, id, (· + ·), id⟩

/-- The denominator of the smallest positive double. -/
def finest : Nat := 2 ^ 1074

/-- The double nearest to a fraction, both counted in units of the smallest
positive one: 53 significant bits, and of two that are equally near the one
whose last bit is zero. Nothing here comes near the largest double, so none is
infinite. -/
def nearest (numerator denominator : Nat) : Nat :=
  let exponent := Nat.log2 (numerator / denominator) - 52
  let spacing := denominator * 2 ^ exponent
  let quotient := numerator / spacing
  let rest := numerator % spacing
  let up := spacing < 2 * rest ∨ 2 * rest = spacing ∧ quotient % 2 = 1
  (if up then quotient + 1 else quotient) * 2 ^ exponent

/-- The arithmetic of non-negative doubles. `toFixed` writes the closest count
of millionths, and the larger of two. -/
def binary64 : NumberArithmetic where
  Number := Nat
  zero := 0
  ofMillionths value := nearest (value * finest) 1000000
  add a b := nearest (a + b) 1
  toMillionths number := (2000000 * number + finest) / (2 * finest)

@[simp] theorem parseFloat_numericText (arithmetic : NumberArithmetic) (value : Nat) :
    arithmetic.parseFloat (DecimalText.numericText value) = arithmetic.ofMillionths value := by
  rw [parseFloat, DecimalText.millionths_numericText, Option.getD_some]

@[simp] theorem millionths_toFixed (arithmetic : NumberArithmetic) (number : arithmetic.Number) :
    DecimalText.millionths (arithmetic.toFixed number) = some (arithmetic.toMillionths number) :=
  DecimalText.millionths_numericText _

/-- Arithmetic that rounds nothing: reading, adding and writing agree with the
millionths. -/
structure Exact (arithmetic : NumberArithmetic) : Prop where
  zero : arithmetic.toMillionths arithmetic.zero = 0
  ofMillionths : ∀ value, arithmetic.toMillionths (arithmetic.ofMillionths value) = value
  add : ∀ a b, arithmetic.toMillionths (arithmetic.add a b) = arithmetic.toMillionths a + arithmetic.toMillionths b

theorem exact_exact : Exact exact := ⟨rfl, fun _ => rfl, fun _ _ => rfl⟩

theorem Exact.foldl {arithmetic : NumberArithmetic} (exactly : arithmetic.Exact)
    (numbers : List arithmetic.Number) (start : arithmetic.Number) :
    arithmetic.toMillionths (numbers.foldl arithmetic.add start) =
      arithmetic.toMillionths start + (numbers.map arithmetic.toMillionths).sum := by
  induction numbers generalizing start with
  | nil => simp
  | cons number rest ih =>
    rw [List.foldl_cons, ih, exactly.add, List.map_cons, List.sum_cons, Nat.add_assoc]

theorem Exact.addUp {arithmetic : NumberArithmetic} (exactly : arithmetic.Exact)
    (numbers : List arithmetic.Number) :
    arithmetic.toMillionths (arithmetic.addUp numbers) = (numbers.map arithmetic.toMillionths).sum := by
  cases numbers with
  | nil => exact exactly.zero
  | cons first rest => exact exactly.foldl rest first

end NumberArithmetic

end EmissionsPlatform
