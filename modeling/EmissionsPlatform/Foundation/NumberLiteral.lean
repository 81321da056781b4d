import EmissionsPlatform.Foundation.DecimalText
import EmissionsPlatform.Foundation.IntegerLiteral
import EmissionsPlatform.Foundation.Validation
import Mathlib.Data.Rat.Lemmas
import Mathlib.Tactic.Linarith

/-! Numbers as JavaScript reads them from a text (`Number(text)`): white space
around the literal is ignored and nothing at all is zero, as for an integer; a
decimal literal may have a sign, a fraction and a power of ten; and what it
stands for is rounded to the nearest double.

The round trips say that a text written of a number is read as that number. A
`Decimal` is a notation of a number; a database reads it where it is given a
double, and rounds it to the places of its column. `Decimal.round_within` says
that this takes no number beyond an integer bound that its double keeps. -/
namespace EmissionsPlatform.NumberLiteral
open DecimalText IntegerLiteral
set_option autoImplicit false

/-! ## Doubles -/

/-- The power of two that `numerator / denominator` reaches. -/
def binaryExponent (numerator denominator : Nat) : Int :=
  let guess : Int := (numerator.log2 : Int) - (denominator.log2 : Int)
  if denominator * 2 ^ guess.toNat ≤ numerator * 2 ^ (-guess).toNat then guess else guess - 1

/-- The doubles around a number are the multiples of this power of two. -/
def spacing (numerator denominator : Nat) : Int := max (-1074) (binaryExponent numerator denominator - 52)

/-- The nearest integer, of two the even one. -/
def roundHalfEven (numerator denominator : Nat) : Nat :=
  let floor := numerator / denominator
  let rest := numerator % denominator
  if denominator < 2 * rest ∨ 2 * rest = denominator ∧ floor % 2 = 1 then floor + 1 else floor

/-- The parts of a unit that those doubles count. -/
def parts (numerator denominator : Nat) : Nat := 2 ^ (-spacing numerator denominator).toNat

/-- The double nearest to `numerator / denominator`, in those parts. -/
def rounded (numerator denominator : Nat) : Nat :=
  roundHalfEven (numerator * parts numerator denominator)
      (denominator * 2 ^ (spacing numerator denominator).toNat) *
    2 ^ (spacing numerator denominator).toNat

theorem proper_quotient {value parts : Nat} (positive : 0 < parts) (rest : ¬parts ∣ value) :
    ((value : ℚ) / parts).den ≠ 1 :=
  fun whole => rest ((Rat.den_div_natCast_eq_one_iff value parts positive.ne').mp whole)

theorem parts_pos (numerator denominator : Nat) : 0 < parts numerator denominator := Nat.two_pow_pos _

/-- The double nearest to `numerator / denominator`. -/
def nearest (numerator denominator : Nat) : JsNumber :=
  if 2 ^ 1024 ≤ rounded numerator denominator / parts numerator denominator then .infinite false
  else if whole : parts numerator denominator ∣ rounded numerator denominator then
    .integer ((rounded numerator denominator / parts numerator denominator : Nat) : Int)
  else
    .fraction ((rounded numerator denominator : ℚ) / parts numerator denominator)
      (proper_quotient (parts_pos _ _) whole)

/-- Unary minus. -/
def negate : JsNumber → JsNumber
  | .integer value => .integer (-value)
  | .fraction value proper => .fraction (-value) ((Rat.den_neg_eq_den value).trans_ne proper)
  | .infinite negative => .infinite !negative

/-! ## Literals -/

/-- The digits behind a sign, if there is one. -/
def readSigned (text : List Char) : Option Int :=
  match text with
  | '+' :: digits => (readDigits 10 digits).map Int.ofNat
  | '-' :: digits => (readDigits 10 digits).map fun magnitude => -Int.ofNat magnitude
  | digits => (readDigits 10 digits).map Int.ofNat

/-- What follows the digits of a decimal literal. -/
def readExponent : List Char → Option Int
  | [] => some 0
  | letter :: rest => if letter = 'e' ∨ letter = 'E' then readSigned rest else none

/-- Digits, with a point among them or not: the integer they make, and the power
of ten it is multiplied by. -/
def readDecimal (text : List Char) : Option (Nat × Int) :=
  let whole := text.takeWhile Char.isDigit
  match text.dropWhile Char.isDigit with
  | '.' :: rest =>
    let fraction := rest.takeWhile Char.isDigit
    if whole ++ fraction = [] then none
    else (readExponent (rest.dropWhile Char.isDigit)).map fun exponent =>
      (digitsValue (whole ++ fraction), exponent - fraction.length)
  | rest => if whole = [] then none else (readExponent rest).map fun exponent => (digitsValue whole, exponent)

/-- The double nearest to an integer times a power of ten. -/
def ofDecimal (digits : Nat) (exponent : Int) : JsNumber :=
  nearest (digits * 10 ^ exponent.toNat) (10 ^ (-exponent).toNat)

def readUnsigned (text : List Char) : Option JsNumber :=
  if text = "Infinity".toList then some (.infinite false)
  else (readDecimal text).map fun decimal => ofDecimal decimal.1 decimal.2

/-- A literal without white space around it. -/
def readLiteral (text : List Char) : Option JsNumber :=
  match text with
  | [] => some (.integer 0)
  | '+' :: rest => readUnsigned rest
  | '-' :: rest => (readUnsigned rest).map negate
  | '0' :: letter :: digits =>
    match radixOf letter with
    | some radix => (readDigits radix digits).map fun number => nearest number 1
    | none => readUnsigned text
  | _ => readUnsigned text

/-- `Number(text)`; `none` is NaN. -/
def toNumber (text : String) : Option JsNumber := readLiteral (trim text.toList)

/-- A decimal notation: digits times a power of ten, with a sign. -/
structure Decimal where
  negative : Bool
  digits : Nat
  exponent : Int
  deriving DecidableEq

/-- The double it is read as. -/
def Decimal.number (decimal : Decimal) : JsNumber :=
  if decimal.negative then negate (ofDecimal decimal.digits decimal.exponent)
  else ofDecimal decimal.digits decimal.exponent

/-- The nearest integer, of two the one farther from zero. -/
def roundHalfUp (numerator denominator : Nat) : Nat := (2 * numerator + denominator) / (2 * denominator)

/-- What a `numeric` with so many fractional digits makes of it, counted in its
last place. -/
def Decimal.round (decimal : Decimal) (places : Nat) : Int :=
  let magnitude := roundHalfUp (decimal.digits * 10 ^ (decimal.exponent + places).toNat)
    (10 ^ (-(decimal.exponent + places)).toNat)
  if decimal.negative then -magnitude else magnitude

/-! ## Rounding -/

variable {numerator denominator count power floor scale bound : Nat}

theorem le_roundHalfEven (positive : 0 < denominator) (least : count * denominator ≤ numerator) :
    count ≤ roundHalfEven numerator denominator := by
  have below : count ≤ numerator / denominator := (Nat.le_div_iff_mul_le positive).mpr least
  unfold roundHalfEven
  dsimp only
  split
  · exact Nat.le_succ_of_le below
  · exact below

/-- A number reaches the powers of two up to its own. -/
theorem le_of_binaryExponent (reaches : (power : Int) ≤ binaryExponent numerator denominator) :
    denominator * 2 ^ power ≤ numerator := by
  unfold binaryExponent at reaches
  dsimp only at reaches
  split at reaches
  · rename_i reached
    have nonnegative : (-((numerator.log2 : Int) - (denominator.log2 : Int))).toNat = 0 := by omega
    rw [nonnegative, pow_zero, mul_one] at reached
    exact (Nat.mul_le_mul_left _ (Nat.pow_le_pow_right (by decide) (by omega))).trans reached
  · have logs : denominator.log2 + 1 + power ≤ numerator.log2 := by omega
    have nonzero : numerator ≠ 0 := by
      rintro rfl
      rw [Nat.log2_zero] at logs
      omega
    calc denominator * 2 ^ power ≤ 2 ^ (denominator.log2 + 1) * 2 ^ power :=
          Nat.mul_le_mul_right _ Nat.lt_log2_self.le
      _ = 2 ^ (denominator.log2 + 1 + power) := (Nat.pow_add ..).symm
      _ ≤ 2 ^ numerator.log2 := Nat.pow_le_pow_right (by decide) logs
      _ ≤ numerator := Nat.log2_self_le nonzero

theorem rounded_of_nearest (within : (nearest numerator denominator).isAtMost bound = true) :
    rounded numerator denominator ≤ bound * parts numerator denominator := by
  have positive := parts_pos numerator denominator
  unfold nearest at within
  split at within
  · cases within
  · split at within
    · rename_i whole
      have below : rounded numerator denominator / parts numerator denominator ≤ bound :=
        Int.ofNat_le.mp (of_decide_eq_true within)
      exact (Nat.div_le_iff_le_mul_of_dvd positive.ne' whole).mp below
    · have below := of_decide_eq_true within
      rw [div_le_iff₀ (by exact_mod_cast positive)] at below
      exact_mod_cast below

/-- A number whose doubles are no finer than `2 ^ -20` is far beyond the bound. -/
theorem lt_rounded_of_coarse (positive : 0 < denominator) (small : bound < 2 ^ 32)
    (coarse : -21 < spacing numerator denominator) :
    bound * parts numerator denominator < rounded numerator denominator := by
  obtain ⟨power, isPower⟩ : ∃ power : Nat, (power : Int) = binaryExponent numerator denominator :=
    ⟨(binaryExponent numerator denominator).toNat, by unfold spacing at coarse; omega⟩
  have reaches := le_of_binaryExponent isPower.le
  have room : (spacing numerator denominator).toNat + 32 ≤ power := by unfold spacing at coarse ⊢; omega
  have counts : (bound + 1) * parts numerator denominator * (denominator * 2 ^ (spacing numerator denominator).toNat) ≤
      numerator * parts numerator denominator := by
    calc (bound + 1) * parts numerator denominator * (denominator * 2 ^ (spacing numerator denominator).toNat)
        = denominator * ((bound + 1) * 2 ^ (spacing numerator denominator).toNat) *
            parts numerator denominator := by ring
      _ ≤ denominator * (2 ^ 32 * 2 ^ (spacing numerator denominator).toNat) *
            parts numerator denominator := by gcongr; exact small
      _ = denominator * 2 ^ ((spacing numerator denominator).toNat + 32) * parts numerator denominator := by
        rw [Nat.pow_add, Nat.mul_comm (2 ^ 32)]
      _ ≤ denominator * 2 ^ power * parts numerator denominator := by gcongr; decide
      _ ≤ numerator * parts numerator denominator := Nat.mul_le_mul_right _ reaches
  calc bound * parts numerator denominator
      < (bound + 1) * parts numerator denominator :=
        Nat.mul_lt_mul_of_pos_right (Nat.lt_succ_self bound) (parts_pos _ _)
    _ ≤ roundHalfEven (numerator * parts numerator denominator)
          (denominator * 2 ^ (spacing numerator denominator).toNat) :=
        le_roundHalfEven (Nat.mul_pos positive (Nat.two_pow_pos _)) counts
    _ ≤ rounded numerator denominator := Nat.le_mul_of_pos_right _ (Nat.two_pow_pos _)

/-- Where the doubles are finer than the scale, what lies beyond the bound by a
part of the scale is not rounded to it. -/
theorem lt_rounded_of_fine (positive : 0 < denominator) (counted : 0 < scale) (few : scale ≤ 2 ^ 21)
    (fine : spacing numerator denominator ≤ -21) (reached : denominator * (bound * scale + 1) ≤ numerator * scale) :
    bound * parts numerator denominator < rounded numerator denominator := by
  have whole : (spacing numerator denominator).toNat = 0 := by omega
  have finer : scale ≤ parts numerator denominator :=
    few.trans (Nat.pow_le_pow_right (by decide) (by omega))
  rw [rounded, whole, pow_zero, mul_one, mul_one]
  refine Nat.lt_of_succ_le (le_roundHalfEven positive (Nat.le_of_mul_le_mul_right ?_ counted))
  generalize parts numerator denominator = parts at finer ⊢
  calc (bound * parts + 1) * denominator * scale
      = denominator * (bound * scale) * parts + denominator * scale := by ring
    _ ≤ denominator * (bound * scale) * parts + denominator * parts := by gcongr
    _ = denominator * (bound * scale + 1) * parts := by ring
    _ ≤ numerator * scale * parts := Nat.mul_le_mul_right _ reached
    _ = numerator * parts * scale := by ring

/-- **A double that does not exceed a bound stands for no more than a little
over it.** -/
theorem lt_of_nearest (positive : 0 < denominator) (counted : 0 < scale) (few : scale ≤ 2 ^ 21)
    (small : bound < 2 ^ 32) (within : (nearest numerator denominator).isAtMost bound = true) :
    numerator * scale < denominator * (bound * scale + 1) := by
  by_contra reached
  refine absurd (rounded_of_nearest within) (not_le.mpr ?_)
  rcases lt_or_ge (-21) (spacing numerator denominator) with coarse | fine
  · exact lt_rounded_of_coarse positive small coarse
  · exact lt_rounded_of_fine positive counted few fine (not_lt.mp reached)

theorem negate_isAtLeast (number : JsNumber) (bound : Int) :
    (negate number).isAtLeast (-bound) = number.isAtMost bound := by
  cases number with
  | integer value => simp [negate, JsNumber.isAtLeast, JsNumber.isAtMost]
  | fraction value proper => simp [negate, JsNumber.isAtLeast, JsNumber.isAtMost]
  | infinite negative => cases negative <;> rfl

theorem roundHalfUp_le (positive : 0 < denominator) (below : 2 * numerator < (2 * count + 1) * denominator) :
    roundHalfUp numerator denominator ≤ count := by
  refine Nat.lt_succ_iff.mp ((Nat.div_lt_iff_lt_mul (Nat.mul_pos (by decide) positive)).mpr ?_)
  linarith

/-- Rounding to so many places is rounding in so many parts. -/
theorem round_of_lt {digits places : Nat} {exponent : Int}
    (below : digits * 10 ^ exponent.toNat * (2 * 10 ^ places) <
      10 ^ (-exponent).toNat * (bound * (2 * 10 ^ places) + 1)) :
    roundHalfUp (digits * 10 ^ (exponent + places).toNat) (10 ^ (-(exponent + places)).toNat) ≤
      bound * 10 ^ places := by
  have powers : 10 ^ (exponent + places).toNat * 10 ^ (-exponent).toNat =
      10 ^ exponent.toNat * 10 ^ places * 10 ^ (-(exponent + places)).toNat := by
    rw [← Nat.pow_add, ← Nat.pow_add, ← Nat.pow_add]
    congr 1
    omega
  refine roundHalfUp_le (Nat.pow_pos (by decide)) (Nat.lt_of_mul_lt_mul_right (a := 10 ^ (-exponent).toNat) ?_)
  calc 2 * (digits * 10 ^ (exponent + places).toNat) * 10 ^ (-exponent).toNat
      = 2 * digits * (10 ^ (exponent + places).toNat * 10 ^ (-exponent).toNat) := by ring
    _ = digits * 10 ^ exponent.toNat * (2 * 10 ^ places) * 10 ^ (-(exponent + places)).toNat := by rw [powers]; ring
    _ < 10 ^ (-exponent).toNat * (bound * (2 * 10 ^ places) + 1) * 10 ^ (-(exponent + places)).toNat :=
      Nat.mul_lt_mul_of_pos_right below (Nat.pow_pos (by decide))
    _ = (2 * (bound * 10 ^ places) + 1) * 10 ^ (-(exponent + places)).toNat * 10 ^ (-exponent).toNat := by ring

/-- **A notation of a double within an integer bound is rounded to a number
within it.** -/
theorem Decimal.round_within {decimal : Decimal} (places : Nat) (few : 2 * 10 ^ places ≤ 2 ^ 21)
    (small : bound < 2 ^ 32) (least : decimal.number.isAtLeast (-bound) = true)
    (most : decimal.number.isAtMost bound = true) :
    -((bound * 10 ^ places : Nat) : Int) ≤ decimal.round places ∧
      decimal.round places ≤ ((bound * 10 ^ places : Nat) : Int) := by
  have magnitude : (ofDecimal decimal.digits decimal.exponent).isAtMost bound = true := by
    unfold Decimal.number at least most
    split at least
    · rw [negate_isAtLeast] at least
      exact least
    · rename_i plain
      rw [if_neg plain] at most
      exact most
  have bounded := round_of_lt (lt_of_nearest (Nat.pow_pos (by decide)) (by positivity) few small magnitude)
  unfold Decimal.round
  dsimp only
  split <;> omega

/-! ## Round trips -/

variable {text whole fraction : List Char} {character : Char}

/-- A decimal text is digits and perhaps a point. -/
theorem plain_of_read (reads : read text = some (whole, fraction)) :
    ∀ character ∈ text, character.isDigit = true ∨ character = '.' := by
  obtain ⟨-, wholeDigits, fractionDigits, rfl⟩ := read_eq_some_iff.mp reads
  intro character member
  rcases List.mem_append.mp member with inWhole | behind
  · exact Or.inl (wholeDigits character inWhole)
  · split at behind
    · cases behind
    · rcases List.mem_cons.mp behind with point | inFraction
      · exact Or.inr point
      · exact Or.inl (fractionDigits character inFraction)

theorem plain_not_white (plain : character.isDigit = true ∨ character = '.') : isWhite character = false := by
  rcases plain with digital | rfl
  · simp only [Char.isDigit, ge_iff_le, Bool.and_eq_true, decide_eq_true_eq] at digital
    have lower : 48 ≤ character.toNat := digital.1
    have upper : character.toNat ≤ 57 := digital.2
    exact not_white_of_code (by omega) (by omega)
  · decide

theorem plain_no_radix (plain : character.isDigit = true ∨ character = '.') : radixOf character = none := by
  refine Option.eq_none_iff_forall_ne_some.mpr fun radix named => ?_
  have letters := radixOf_letter named
  simp only [List.mem_cons, List.not_mem_nil, or_false] at letters
  rcases plain with digital | rfl
  · rcases letters with rfl | rfl | rfl | rfl | rfl | rfl <;> cases digital
  · simp at letters

/-- The digits of a decimal text are its integer, and its point is the power. -/
theorem readDecimal_of_read (reads : read text = some (whole, fraction)) :
    readDecimal text = some (digitsValue (whole ++ fraction), -(fraction.length : Int)) := by
  obtain ⟨nonempty, wholeDigits, fractionDigits, rfl⟩ := read_eq_some_iff.mp reads
  unfold readDecimal
  split_ifs with empty
  · obtain ⟨taken, dropped⟩ := span_digits [] wholeDigits nofun
    rw [empty, taken, dropped]
    simp only [if_neg nonempty, readExponent, Option.map_some, List.append_nil]
    rfl
  · obtain ⟨taken, dropped⟩ := span_digits ('.' :: fraction) wholeDigits (by simp)
    obtain ⟨takenBehind, droppedBehind⟩ := span_digits [] fractionDigits nofun
    rw [List.append_nil] at takenBehind droppedBehind
    have digits : whole ++ fraction ≠ [] := by simp [nonempty]
    simp only [taken, dropped, takenBehind, droppedBehind, if_neg digits, readExponent, Option.map_some, zero_sub]

theorem readUnsigned_of_read (reads : read text = some (whole, fraction)) :
    readUnsigned text = some (ofDecimal (digitsValue (whole ++ fraction)) (-fraction.length)) := by
  rw [readUnsigned, if_neg, readDecimal_of_read reads, Option.map_some]
  rintro rfl
  cases reads

/-- A decimal text has no sign and no prefix of a radix. -/
theorem readLiteral_of_read (reads : read text = some (whole, fraction)) : readLiteral text = readUnsigned text := by
  have plain := plain_of_read reads
  unfold readLiteral
  split
  · cases reads
  · exact absurd (plain _ List.mem_cons_self) (by decide)
  · exact absurd (plain _ List.mem_cons_self) (by decide)
  · rw [plain_no_radix (plain _ (List.mem_cons_of_mem _ List.mem_cons_self))]
  · rfl

theorem trim_plain (solid : ∀ character ∈ text, isWhite character = false) : trim text = text := by
  have trimmed := @trim_eq text [] [] nofun solid nofun
  rwa [List.nil_append, List.append_nil] at trimmed

variable {written : String}

/-- **A decimal text is read as the double nearest to it.** -/
theorem toNumber_of_read (reads : read written.toList = some (whole, fraction)) :
    toNumber written = some (ofDecimal (digitsValue (whole ++ fraction)) (-fraction.length)) := by
  have solid := fun character member => plain_not_white (plain_of_read reads character member)
  rw [toNumber, trim_plain solid, readLiteral_of_read reads, readUnsigned_of_read reads]

theorem toNumber_minus_of_read (reads : read written.toList = some (whole, fraction)) :
    toNumber ("-" ++ written) = some (negate (ofDecimal (digitsValue (whole ++ fraction)) (-fraction.length))) := by
  have signed : ("-" ++ written).toList = '-' :: written.toList := by
    rw [String.toList_append]
    rfl
  have solid : ∀ character ∈ '-' :: written.toList, isWhite character = false :=
    List.forall_mem_cons.mpr ⟨by decide, fun character member => plain_not_white (plain_of_read reads character member)⟩
  rw [toNumber, signed, trim_plain solid]
  change (readUnsigned written.toList).map negate = _
  rw [readUnsigned_of_read reads, Option.map_some]

theorem digits_numericText (value : Nat) :
    digitsValue (Nat.toDigits 10 (value / 1000000) ++ padStart 6 '0' (Nat.toDigits 10 (value % 1000000))) = value := by
  have length : (padStart 6 '0' (Nat.toDigits 10 (value % 1000000))).length = 6 :=
    length_padStart (length_toDigits_le (Nat.mod_lt _ (by decide)))
  rw [digitsValue, Nat.ofDigitChars_append, Nat.ofDigitChars_eq_ofDigitChars_zero, length]
  change 10 ^ 6 * digitsValue _ + digitsValue _ = value
  rw [digitsValue_padStart, digitsValue_toDigits, digitsValue_toDigits]
  omega

/-- The notation with six fractional digits, without and with a sign. -/
theorem toNumber_numericText (value : Nat) :
    toNumber (numericText value) = some (ofDecimal value (-6)) ∧
      toNumber ("-" ++ numericText value) = some (negate (ofDecimal value (-6))) := by
  have length : (padStart 6 '0' (Nat.toDigits 10 (value % 1000000))).length = 6 :=
    length_padStart (length_toDigits_le (Nat.mod_lt _ (by decide)))
  have reads := read_numericText value
  refine ⟨?_, ?_⟩
  · rw [toNumber_of_read reads, digits_numericText, length]
    rfl
  · rw [toNumber_minus_of_read reads, digits_numericText, length]
    rfl

end EmissionsPlatform.NumberLiteral
