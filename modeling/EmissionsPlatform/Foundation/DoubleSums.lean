import EmissionsPlatform.Foundation.NumberArithmetic
import Mathlib.Tactic.Linarith
import Mathlib.Tactic.Positivity

/-! How far a sum of doubles is from the sum of the decimals it was read from.
Every reading and every addition is off by at most one part in `2 ^ 53`
(`read_error`, `add_error`), so a sum of `n` numbers is off by at most
`2 n + 1` parts (`sumOfDoubles_error`). As long as that is less than half a millionth
the sum is written exactly: `addsExactly_of_small`. -/
namespace EmissionsPlatform.NumberArithmetic
set_option autoImplicit false

/-- Read, added up from the left and written, the numbers give their sum. -/
def AddsExactly (arithmetic : NumberArithmetic) (values : List Nat) : Prop :=
  arithmetic.toMillionths ((values.map arithmetic.ofMillionths).foldl arithmetic.add arithmetic.zero) = values.sum

instance (arithmetic : NumberArithmetic) (values : List Nat) : Decidable (arithmetic.AddsExactly values) :=
  inferInstanceAs (Decidable (_ = _))

theorem Exact.addsExactly {arithmetic : NumberArithmetic} (exactly : arithmetic.Exact) (values : List Nat) :
    arithmetic.AddsExactly values := by
  have written : values.map (arithmetic.toMillionths ∘ arithmetic.ofMillionths) = values :=
    (List.map_congr_left fun value _ => exactly.ofMillionths value).trans (List.map_id' values)
  rw [AddsExactly, exactly.foldl, exactly.zero, Nat.zero_add, List.map_map, written]

variable {numerator denominator : Nat} {values : List Nat}

/-- The error is at most half a spacing. -/
theorem nearest_error (positive : 0 < denominator) :
    2 * |(nearest numerator denominator * denominator : Int) - numerator| ≤
      (denominator * 2 ^ (Nat.log2 (numerator / denominator) - 52) : Nat) := by
  unfold nearest
  simp only
  generalize Nat.log2 (numerator / denominator) - 52 = exponent
  have spacing_pos : 0 < denominator * 2 ^ exponent := by positivity
  have parts := Nat.div_add_mod numerator (denominator * 2 ^ exponent)
  have small := Nat.mod_lt numerator spacing_pos
  generalize numerator / (denominator * 2 ^ exponent) = quotient at parts ⊢
  generalize numerator % (denominator * 2 ^ exponent) = rest at parts small ⊢
  -- The result is a whole number of spacings, the error what is left of one.
  have scaled (count : Nat) : ((count * 2 ^ exponent : Nat) * denominator : Int) - numerator =
      (count - quotient) * (denominator * 2 ^ exponent : Nat) - rest := by
    rw [← parts]
    push_cast
    ring
  generalize denominator * 2 ^ exponent = spacing at *
  split
  · rw [scaled, Nat.cast_add, add_sub_cancel_left, Nat.cast_one, one_mul, abs_of_pos (by omega)]
    omega
  · rw [scaled, sub_self, zero_mul, zero_sub, abs_neg, Nat.abs_cast]
    omega

/-- With 53 significant bits, the error is at most one part in `2 ^ 53`. -/
theorem nearest_relative_error (positive : 0 < denominator) (large : 2 ^ 52 ≤ numerator / denominator) :
    2 ^ 53 * |(nearest numerator denominator * denominator : Int) - numerator| ≤ numerator := by
  have error := @nearest_error numerator denominator positive
  have nonzero : numerator / denominator ≠ 0 := by positivity
  have bits : 52 ≤ Nat.log2 (numerator / denominator) := (Nat.le_log2 nonzero).mpr large
  have spacing : 2 ^ (Nat.log2 (numerator / denominator) - 52) * 2 ^ 52 ≤ numerator / denominator := by
    rw [← Nat.pow_add, Nat.sub_add_cancel bits]
    exact Nat.log2_self_le nonzero
  have whole : denominator * (numerator / denominator) ≤ numerator := Nat.mul_div_le numerator denominator
  have scaled : denominator * 2 ^ (Nat.log2 (numerator / denominator) - 52) * 2 ^ 52 ≤ numerator := by
    rw [Nat.mul_assoc]
    exact (Nat.mul_le_mul_left _ spacing).trans whole
  zify at scaled
  push_cast at error
  linarith

/-- Small numbers are doubles. -/
theorem nearest_of_small {number : Nat} (small : number < 2 ^ 52) : nearest number 1 = number := by
  have bits : Nat.log2 number - 52 = 0 := by
    by_cases zero : number = 0
    · rw [zero]
      rfl
    · exact Nat.sub_eq_zero_of_le ((Nat.log2_lt zero).mpr small).le
  simp [nearest, bits, Nat.mod_one]

/-- The rounding of a whole number. -/
theorem nearest_whole_error (number : Nat) : 2 ^ 53 * |(nearest number 1 : Int) - number| ≤ number := by
  by_cases small : number < 2 ^ 52
  · rw [nearest_of_small small, sub_self, abs_zero, mul_zero]
    exact Nat.cast_nonneg number
  · have error := @nearest_relative_error number 1 one_pos (by rw [Nat.div_one]; exact not_lt.mp small)
    simpa using error

/-- The rounding of an addition. -/
theorem add_error (a b : Nat) :
    2 ^ 53 * |(nearest (a + b) 1 * 1000000 : Int) - (a * 1000000 + b * 1000000)| ≤ a * 1000000 + b * 1000000 := by
  have error := nearest_whole_error (a + b)
  have scaled : |(nearest (a + b) 1 * 1000000 : Int) - (a * 1000000 + b * 1000000)| =
      |(nearest (a + b) 1 : Int) - (a + b)| * 1000000 := by
    rw [← add_mul, ← sub_mul, abs_mul]
    rfl
  push_cast at error
  rw [scaled]
  linarith

theorem finest_large : 2 ^ 52 * 1000000 ≤ finest := by
  have bits : 2 ^ 52 * 1000000 ≤ 2 ^ 72 := by decide
  have more : 72 ≤ 1074 := by decide
  unfold finest
  generalize 1074 = exponent at more ⊢
  exact bits.trans (Nat.pow_le_pow_right two_pos more)

variable {units : Nat}

/-- The rounding of a decimal that is read, in units fine enough. -/
theorem read_error (fine : 2 ^ 52 * 1000000 ≤ units) (value : Nat) :
    2 ^ 53 * |(nearest (value * units) 1000000 * 1000000 : Int) - value * units| ≤ value * units := by
  by_cases zero : value = 0
  · subst zero
    have nothing : nearest 0 1000000 = 0 := by decide
    simp [nothing]
  · have large : 2 ^ 52 ≤ value * units / 1000000 :=
      (Nat.le_div_iff_mul_le (by decide)).mpr (fine.trans (Nat.le_mul_of_pos_left _ (Nat.pos_of_ne_zero zero)))
    have error := nearest_relative_error (by decide) large
    push_cast at error
    exact error

/-- One more number adds two parts to the error of a sum. -/
theorem step_error {parts total rounded read written next : Int} (few : 1 ≤ parts ∧ parts ≤ 2 ^ 53)
    (nonneg : 0 ≤ total ∧ 0 ≤ read) (error : 2 ^ 53 * |rounded - total| ≤ parts * total)
    (readError : 2 ^ 53 * |written - read| ≤ read)
    (addError : 2 ^ 53 * |next - (rounded + written)| ≤ rounded + written) :
    2 ^ 53 * |next - (total + read)| ≤ (parts + 2) * (total + read) := by
  have split := abs_add_three (next - (rounded + written)) (rounded - total) (written - read)
  rw [show next - (rounded + written) + (rounded - total) + (written - read) = next - (total + read) by ring] at split
  have roundedBound := le_abs_self (rounded - total)
  have writtenBound := le_abs_self (written - read)
  have many : parts * total ≤ 2 ^ 53 * total := mul_le_mul_of_nonneg_right few.2 nonneg.1
  have some : read ≤ parts * read := le_mul_of_one_le_left nonneg.2 few.1
  linarith

/-- Decimals read and added up as doubles. -/
def sumOfDoubles (units : Nat) (values : List Nat) (start : Nat) : Nat :=
  values.foldl (fun sum value => nearest (sum + nearest (value * units) 1000000) 1) start

/-- The sum of `n` numbers is off by `2 n` parts more than what it starts from. -/
theorem sumOfDoubles_error (fine : 2 ^ 52 * 1000000 ≤ units) {parts total start : Nat} (some : 1 ≤ parts)
    (few : parts + 2 * values.length ≤ 2 ^ 53)
    (error : 2 ^ 53 * |(start * 1000000 : Int) - total * units| ≤ parts * (total * units)) :
    2 ^ 53 * |(sumOfDoubles units values start * 1000000 : Int) - (total + values.sum : Nat) * units| ≤
      (parts + 2 * values.length : Nat) * ((total + values.sum : Nat) * units) := by
  induction values generalizing parts total start with
  | nil => simpa [sumOfDoubles] using error
  | cons value rest ih =>
    rw [List.length_cons] at few
    have stepped := step_error (by omega) (by constructor <;> positivity) error (read_error fine value)
      (add_error start (nearest (value * units) 1000000))
    have later := @ih (parts + 2) (total + value) (nearest (start + nearest (value * units) 1000000) 1)
      (by omega) (by omega) (by push_cast; rw [add_mul]; exact stepped)
    rw [List.length_cons, List.sum_cons, ← Nat.add_assoc total, Nat.mul_succ, Nat.add_comm (2 * _), ← Nat.add_assoc]
    exact later

/-- A number off by less than half a millionth is written as the decimal. -/
theorem written_of_near {value number : Nat} (near : 2 * |(number * 1000000 : Int) - value * units| < units) :
    (2000000 * number + units) / (2 * units) = value := by
  have above := le_abs_self ((number * 1000000 : Int) - value * units)
  have below := neg_le_abs ((number * 1000000 : Int) - value * units)
  apply Nat.div_eq_of_lt_le
  · zify
    linarith
  · zify
    linarith

/-- **Sums of few and small decimals are exact.** -/
theorem addsExactly_of_small (small : 2 * (2 * values.length + 1) * values.sum < 2 ^ 53)
    (few : values.length < 2 ^ 52) : binary64.AddsExactly values := by
  have fromZero (units : Nat) (fine : 2 ^ 52 * 1000000 ≤ units) :=
    @sumOfDoubles_error values units fine 1 0 0 le_rfl (by omega) (by simp)
  have error := fromZero finest finest_large
  clear fromZero
  have folded : (values.map binary64.ofMillionths).foldl binary64.add binary64.zero = sumOfDoubles finest values 0 :=
    List.foldl_map
  rw [AddsExactly, folded]
  apply written_of_near
  have positive : (0 : Int) < finest := Nat.cast_pos.mpr (Nat.lt_of_lt_of_le (by decide) finest_large)
  generalize finest = units at *
  rw [Nat.zero_add] at error
  have bounded : (2 * (2 * values.length + 1) * values.sum : Int) * units < 2 ^ 53 * units := by
    apply mul_lt_mul_of_pos_right _ positive
    exact_mod_cast small
  generalize sumOfDoubles units values 0 = written at error ⊢
  generalize values.length = count at error bounded
  generalize values.sum = total at error bounded ⊢
  push_cast at error
  linarith

end EmissionsPlatform.NumberArithmetic
