import EmissionsPlatform.Foundation.DoubleSums

/-! A tenth of a whole number, computed with doubles. The double `0.1` is a
little more than a tenth, so a product with it may come out above or below the
tenth it stands for. `ceilTenth_eq` says that the ceiling of the product is the
ceiling of the tenth nevertheless, for every number below `2 ^ 48`. -/
namespace EmissionsPlatform.NumberArithmetic
set_option autoImplicit false

/-- The double `0.1`. -/
def tenth : Nat := nearest finest 10

/-- `Math.ceil(number * 0.1)` of a whole number. -/
def ceilTenth (number : Nat) : Nat := (nearest (number * tenth) 1 + finest - 1) / finest

theorem tenth_eq : tenth = 3602879701896397 * 2 ^ 1019 := by decide +kernel

theorem finest_eq : finest = 2 ^ 55 * 2 ^ 1019 := by decide +kernel

variable {exponent count rest units whole : Nat}

/-- What lies less than half a spacing above a double is rounded down to it. -/
theorem nearest_of_close (bits : Nat.log2 (count * 2 ^ exponent + rest) - 52 = exponent)
    (close : 2 * rest < 2 ^ exponent) :
    nearest (count * 2 ^ exponent + rest) 1 = count * 2 ^ exponent := by
  have below : rest < 2 ^ exponent := by omega
  have quotient : (count * 2 ^ exponent + rest) / 2 ^ exponent = count := by
    rw [Nat.mul_comm, Nat.mul_add_div (Nat.two_pow_pos _), Nat.div_eq_of_lt below, Nat.add_zero]
  have remainder : (count * 2 ^ exponent + rest) % 2 ^ exponent = rest := by
    rw [Nat.mul_comm, Nat.mul_add_mod, Nat.mod_eq_of_lt below]
  have down : ¬ (2 ^ exponent < 2 * rest ∨ 2 * rest = 2 ^ exponent ∧ count % 2 = 1) := by omega
  simp only [nearest, Nat.div_one, bits, Nat.one_mul, quotient, remainder, if_neg down]

/-- A number a little above another, scaled, has as many bits. -/
theorem log2_of_scaled (positive : whole ≠ 0) (small : whole < 2 ^ 52) (scale : Nat) :
    Nat.log2 ((2 ^ 55 + 2) * (whole * 2 ^ scale)) = Nat.log2 whole + 55 + scale := by
  have lower := Nat.log2_self_le positive
  have upper := @Nat.lt_log2_self whole
  have digits : Nat.log2 whole + 1 ≤ 52 := (Nat.log2_lt positive).mpr small
  generalize Nat.log2 whole = digit at lower upper digits ⊢
  have unit : 0 < 2 ^ scale := Nat.two_pow_pos scale
  have bound : 2 ^ (digit + 1) * 2 ^ scale ≤ 2 ^ 52 * 2 ^ scale :=
    Nat.mul_le_mul_right _ (Nat.pow_le_pow_right two_pos digits)
  have least : 2 ^ digit * 2 ^ scale ≤ whole * 2 ^ scale := Nat.mul_le_mul_right _ lower
  have most : (whole + 1) * 2 ^ scale ≤ 2 ^ (digit + 1) * 2 ^ scale := Nat.mul_le_mul_right _ upper
  have some : (2 ^ 55 + 2) * (whole * 2 ^ scale) ≠ 0 := by positivity
  apply (Nat.log2_eq_iff some).mpr
  constructor
  · have power : 2 ^ (digit + 55 + scale) = 2 ^ 55 * (2 ^ digit * 2 ^ scale) := by ring
    omega
  · have power : 2 ^ (digit + 55 + scale + 1) = 2 ^ 55 * (2 ^ (digit + 1) * 2 ^ scale) := by ring
    rw [Nat.succ_mul] at most
    omega

/-- Ten times a number, times `0.1`, is the number. -/
theorem nearest_of_tenfold (small : whole < 2 ^ 52) (scale : Nat) :
    nearest (10 * whole * (3602879701896397 * 2 ^ scale)) 1 = whole * (2 ^ 55 * 2 ^ scale) := by
  by_cases zero : whole = 0
  · rw [zero, Nat.mul_zero, Nat.zero_mul, Nat.zero_mul, nearest_of_small (by decide)]
  · have upper := @Nat.lt_log2_self whole
    have digits : Nat.log2 whole < 52 := (Nat.log2_lt zero).mpr small
    have bits := log2_of_scaled zero small scale
    generalize Nat.log2 whole = digit at upper digits bits
    have spacing : whole * (2 ^ 55 * 2 ^ scale) = whole * 2 ^ (52 - digit) * 2 ^ (digit + 3 + scale) := by
      rw [Nat.mul_assoc, ← Nat.pow_add, ← Nat.pow_add]
      congr 2
      omega
    have product : (2 ^ 55 + 2) * (whole * 2 ^ scale) =
        whole * 2 ^ (52 - digit) * 2 ^ (digit + 3 + scale) + 2 * (whole * 2 ^ scale) := by
      rw [← spacing]
      ring
    have close : 2 * (2 * (whole * 2 ^ scale)) < 2 ^ (digit + 3 + scale) := by
      have power : 2 ^ (digit + 3 + scale) = 4 * (2 ^ (digit + 1) * 2 ^ scale) := by ring
      have most : whole * 2 ^ scale < 2 ^ (digit + 1) * 2 ^ scale :=
        Nat.mul_lt_mul_of_pos_right upper (Nat.two_pow_pos scale)
      omega
    have tenfold : 10 * whole * (3602879701896397 * 2 ^ scale) = (2 ^ 55 + 2) * (whole * 2 ^ scale) := by ring
    rw [tenfold, spacing, product]
    apply nearest_of_close _ close
    rw [← product, bits]
    omega

/-- A number that is no multiple of ten, times `0.1`, stays between the whole
numbers around its tenth. -/
theorem nearest_between (few : 1 ≤ rest ∧ rest ≤ 9) (small : whole < 2 ^ 48) (fine : 0 < units) :
    whole * (2 ^ 55 * units) < nearest ((10 * whole + rest) * (3602879701896397 * units)) 1 ∧
      nearest ((10 * whole + rest) * (3602879701896397 * units)) 1 ≤ (whole + 1) * (2 ^ 55 * units) := by
  have error := nearest_whole_error ((10 * whole + rest) * (3602879701896397 * units))
  generalize nearest ((10 * whole + rest) * (3602879701896397 * units)) 1 = rounded at error ⊢
  have product : (10 * whole + rest) * (3602879701896397 * units) =
      3602879701896397 * (10 * (whole * units) + rest * units) := by ring
  have bound : whole * units < 2 ^ 48 * units := Nat.mul_lt_mul_of_pos_right small fine
  have least : 1 * units ≤ rest * units := Nat.mul_le_mul_right _ few.1
  have most : rest * units ≤ 9 * units := Nat.mul_le_mul_right _ few.2
  have lower : whole * (2 ^ 55 * units) = 2 ^ 55 * (whole * units) := by ring
  have upper : (whole + 1) * (2 ^ 55 * units) = 2 ^ 55 * (whole * units) + 2 ^ 55 * units := by ring
  rw [product] at error
  rw [lower, upper]
  generalize whole * units = wholes at *
  generalize rest * units = rests at *
  have above := le_abs_self ((rounded : Int) - (3602879701896397 * (10 * wholes + rests) : Nat))
  have below := neg_abs_le ((rounded : Int) - (3602879701896397 * (10 * wholes + rests) : Nat))
  omega

/-- **The ceiling of the product is the ceiling of the tenth.** -/
theorem ceilTenth_eq {number : Nat} (small : number < 2 ^ 48) : ceilTenth number = (number + 9) / 10 := by
  have split := Nat.div_add_mod number 10
  have few := Nat.mod_lt number (by decide : 10 > 0)
  rw [ceilTenth, tenth_eq, finest_eq]
  generalize number / 10 = whole at split
  generalize number % 10 = rest at split few
  generalize 1019 = scale
  have unit : 0 < 2 ^ 55 * 2 ^ scale := by positivity
  by_cases tenfold : rest = 0
  · have multiple : number = 10 * whole := by omega
    have same : (number + 9) / 10 = whole := by omega
    rw [same, multiple, nearest_of_tenfold (by omega)]
    apply Nat.div_eq_of_lt_le
    · omega
    · rw [Nat.succ_mul]
      omega
  · have between := @nearest_between rest (2 ^ scale) whole ⟨by omega, by omega⟩ (by omega) (Nat.two_pow_pos scale)
    have next : (number + 9) / 10 = whole + 1 := by omega
    rw [next, ← split]
    generalize nearest ((10 * whole + rest) * (3602879701896397 * 2 ^ scale)) 1 = product at between ⊢
    have step : (whole + 1) * (2 ^ 55 * 2 ^ scale) = whole * (2 ^ 55 * 2 ^ scale) + 2 ^ 55 * 2 ^ scale :=
      Nat.succ_mul _ _
    apply Nat.div_eq_of_lt_le
    · omega
    · rw [Nat.succ_mul (whole + 1)]
      omega

end EmissionsPlatform.NumberArithmetic
