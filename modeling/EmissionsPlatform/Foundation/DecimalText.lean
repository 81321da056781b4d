import Mathlib.Data.List.Basic
import Mathlib.Data.List.TakeWhile
import Mathlib.Data.Nat.Basic
import Mathlib.Algebra.Order.Field.Rat
import Mathlib.Tactic.FieldSimp
import Mathlib.Tactic.Positivity
import Mathlib.Tactic.Ring

/-! Decimal numbers as texts: digits, and optionally a point and up to six
more digits. The value of a text is counted in millionths, so it is a natural
number; `millionths_numericText` says the six-digit notation reads back as the
number it was written for, and `value_eq` that counting in millionths loses
nothing. The last section separates a text at a marked
character, which is how composite string keys are taken apart. -/
namespace EmissionsPlatform.DecimalText
set_option autoImplicit false

/-- Digits, and after a point the digits of a fraction. -/
def read (text : List Char) : Option (List Char × List Char) :=
  match text.takeWhile Char.isDigit, text.dropWhile Char.isDigit with
  | [], _ => none
  | whole, [] => some (whole, [])
  | whole, '.' :: fraction =>
    if fraction ≠ [] ∧ fraction.all Char.isDigit then some (whole, fraction) else none
  | _, _ => none

/-- Fill up on the right. -/
def padEnd (width : Nat) (fill : Char) (text : List Char) : List Char :=
  text ++ List.replicate (width - text.length) fill

/-- Fill up on the left. -/
def padStart (width : Nat) (fill : Char) (text : List Char) : List Char :=
  List.replicate (width - text.length) fill ++ text

/-- The number a list of digits denotes. -/
def digitsValue (digits : List Char) : Nat := Nat.ofDigitChars 10 digits 0

/-- The value of a whole and a fractional part, in millionths. -/
def partsValue (whole fraction : List Char) : Nat :=
  digitsValue whole * 1000000 + digitsValue (padEnd 6 '0' fraction)

/-- The value of a decimal text of at most six fractional digits, in
millionths. -/
def millionths (text : String) : Option Nat :=
  match read text.toList with
  | some (whole, fraction) => if fraction.length ≤ 6 then some (partsValue whole fraction) else none
  | none => none

/-- The notation with six fractional digits. -/
def numericText (value : Nat) : String :=
  String.ofList (Nat.toDigits 10 (value / 1000000) ++
    '.' :: padStart 6 '0' (Nat.toDigits 10 (value % 1000000)))

theorem digit_of_toDigits {value : Nat} {digit : Char} (member : digit ∈ Nat.toDigits 10 value) :
    digit.isDigit = true :=
  Nat.isDigit_of_mem_toDigits (by decide) (by decide) member

theorem point_not_digit {digits : List Char} (digital : ∀ digit ∈ digits, digit.isDigit = true) :
    '.' ∉ digits := fun member => absurd (digital _ member) (by decide)

/-- Digits end where something else begins. -/
theorem span_digits {digits : List Char} (rest : List Char) (digital : ∀ digit ∈ digits, digit.isDigit = true)
    (stop : ∀ head ∈ rest.head?, head.isDigit = false) :
    (digits ++ rest).takeWhile Char.isDigit = digits ∧ (digits ++ rest).dropWhile Char.isDigit = rest := by
  rw [List.takeWhile_append_of_pos digital, List.dropWhile_append_of_pos digital]
  cases rest with
  | nil => simp
  | cons head tail => simp [stop head rfl]

/-- What `read` accepts, and the parts it finds. -/
theorem read_eq_some_iff {text whole fraction : List Char} :
    read text = some (whole, fraction) ↔
      whole ≠ [] ∧ (∀ digit ∈ whole, digit.isDigit = true) ∧
        (∀ digit ∈ fraction, digit.isDigit = true) ∧
        text = whole ++ (if fraction = [] then [] else '.' :: fraction) := by
  constructor
  · intro accepted
    have taken : ∀ digit ∈ text.takeWhile Char.isDigit, digit.isDigit = true :=
      fun digit member => List.mem_takeWhile_imp member
    have rejoined := List.takeWhile_append_dropWhile (p := Char.isDigit) (l := text)
    unfold read at accepted
    split at accepted
    · cases accepted
    · rename_i rest nonempty
      cases accepted
      refine ⟨nonempty, taken, nofun, ?_⟩
      rw [rest] at rejoined
      simpa using rejoined.symm
    · rename_i rest nonempty
      split at accepted
      · rename_i digital
        cases accepted
        refine ⟨nonempty, taken, List.all_eq_true.mp digital.2, ?_⟩
        rw [rest] at rejoined
        rw [if_neg digital.1]
        exact rejoined.symm
      · cases accepted
    · cases accepted
  · rintro ⟨nonempty, wholeDigits, fractionDigits, rfl⟩
    unfold read
    split_ifs with empty
    · obtain ⟨taken, dropped⟩ := span_digits [] wholeDigits nofun
      rw [taken, dropped, empty]
      cases whole with
      | nil => exact absurd rfl nonempty
      | cons head tail => rfl
    · obtain ⟨taken, dropped⟩ := span_digits ('.' :: fraction) wholeDigits (by simp)
      rw [taken, dropped]
      cases whole with
      | nil => exact absurd rfl nonempty
      | cons head tail => simp only [if_pos (And.intro empty (List.all_eq_true.mpr fractionDigits))]

theorem digitsValue_lt (digits : List Char) (digital : ∀ digit ∈ digits, digit.isDigit = true) :
    digitsValue digits < 10 ^ digits.length := by
  induction digits with
  | nil => simp [digitsValue]
  | cons head tail ih =>
    have later := ih fun digit member => digital digit (List.mem_cons_of_mem _ member)
    have first : head.toNat - '0'.toNat ≤ 9 := by
      have isDigit := digital head List.mem_cons_self
      simp only [Char.isDigit, ge_iff_le, Bool.and_eq_true, decide_eq_true_eq] at isDigit
      have upper : head.toNat ≤ 57 := isDigit.2
      simp only [Char.reduceToNat]
      omega
    have pow : 10 ^ (tail.length + 1) = 10 * 10 ^ tail.length := by ring
    rw [digitsValue, Nat.ofDigitChars_cons, Nat.ofDigitChars_eq_ofDigitChars_zero, List.length_cons, pow]
    simp only [digitsValue] at later
    have scaled := Nat.mul_le_mul_left (10 ^ tail.length) first
    calc 10 ^ tail.length * (10 * 0 + (head.toNat - '0'.toNat)) + Nat.ofDigitChars 10 tail 0
        < 10 ^ tail.length * (10 * 0 + (head.toNat - '0'.toNat)) + 10 ^ tail.length := by omega
      _ = 10 ^ tail.length * (head.toNat - '0'.toNat) + 10 ^ tail.length := by ring
      _ ≤ 10 ^ tail.length * 9 + 10 ^ tail.length := by omega
      _ = 10 * 10 ^ tail.length := by ring

theorem digitsValue_toDigits (value : Nat) : digitsValue (Nat.toDigits 10 value) = value :=
  Nat.ofDigitChars_ten_toDigits

theorem digitsValue_padStart (width : Nat) (digits : List Char) :
    digitsValue (padStart width '0' digits) = digitsValue digits := by
  simp [digitsValue, padStart, Nat.ofDigitChars_append]

theorem padEnd_digits {width : Nat} {digits : List Char}
    (digital : ∀ digit ∈ digits, digit.isDigit = true) :
    ∀ digit ∈ padEnd width '0' digits, digit.isDigit = true := by
  intro digit member
  rcases List.mem_append.mp member with old | fill
  · exact digital digit old
  · rw [List.eq_of_mem_replicate fill]
    decide

theorem length_padEnd {width : Nat} {text : List Char} {fill : Char} (fits : text.length ≤ width) :
    (padEnd width fill text).length = width := by
  simp only [padEnd, List.length_append, List.length_replicate]
  omega

theorem length_padStart {width : Nat} {text : List Char} {fill : Char} (fits : text.length ≤ width) :
    (padStart width fill text).length = width := by
  simp only [padStart, List.length_append, List.length_replicate]
  omega

/-- The value of parts of limited length. -/
theorem partsValue_lt {whole fraction : List Char} {width : Nat}
    (wholeDigits : ∀ digit ∈ whole, digit.isDigit = true)
    (fractionDigits : ∀ digit ∈ fraction, digit.isDigit = true) (short : whole.length ≤ width)
    (fine : fraction.length ≤ 6) : partsValue whole fraction < 10 ^ width * 1000000 := by
  have above := digitsValue_lt whole wholeDigits
  have below := digitsValue_lt (padEnd 6 '0' fraction) (padEnd_digits fractionDigits)
  rw [length_padEnd fine] at below
  have power : 10 ^ whole.length ≤ 10 ^ width := Nat.pow_le_pow_right (by decide) short
  rw [partsValue]
  omega

theorem padEnd_self {width : Nat} {text : List Char} {fill : Char} (full : width ≤ text.length) :
    padEnd width fill text = text := by
  simp [padEnd, Nat.sub_eq_zero_of_le full]

theorem length_toDigits_le {value : Nat} (small : value < 1000000) :
    (Nat.toDigits 10 value).length ≤ 6 :=
  (Nat.length_toDigits_le_iff (by decide) (by decide)).mpr (by simpa using small)

/-- The parts of the six-digit notation. -/
theorem read_numericText (value : Nat) :
    read (numericText value).toList =
      some (Nat.toDigits 10 (value / 1000000), padStart 6 '0' (Nat.toDigits 10 (value % 1000000))) := by
  have length : (padStart 6 '0' (Nat.toDigits 10 (value % 1000000))).length = 6 :=
    length_padStart (length_toDigits_le (Nat.mod_lt _ (by decide)))
  rw [read_eq_some_iff, numericText, String.toList_ofList]
  refine ⟨Nat.toDigits_ne_nil, fun _ => digit_of_toDigits, ?_, ?_⟩
  · intro digit member
    rcases List.mem_append.mp member with fill | written
    · rw [List.eq_of_mem_replicate fill]
      decide
    · exact digit_of_toDigits written
  · rw [if_neg]
    intro empty
    simp [empty] at length

/-- **The six-digit notation reads back as the number it was written for.** -/
theorem millionths_numericText (value : Nat) : millionths (numericText value) = some value := by
  have length : (padStart 6 '0' (Nat.toDigits 10 (value % 1000000))).length = 6 :=
    length_padStart (length_toDigits_le (Nat.mod_lt _ (by decide)))
  simp only [millionths, read_numericText, length, le_refl, ↓reduceIte, Option.some.injEq]
  rw [partsValue, padEnd_self length.ge, digitsValue_padStart, digitsValue_toDigits, digitsValue_toDigits]
  omega

/-- The parts of a whole number. -/
theorem read_toString (value : Nat) : read (toString value).toList = some (Nat.toDigits 10 value, []) := by
  rw [Nat.toString_eq_repr, Nat.toList_repr, read_eq_some_iff]
  exact ⟨Nat.toDigits_ne_nil, fun _ => digit_of_toDigits, nofun, by simp⟩

theorem millionths_toString (value : Nat) : millionths (toString value) = some (value * 1000000) := by
  have nothing : digitsValue (padEnd 6 '0' []) = 0 := by decide
  simp only [millionths, read_toString, partsValue, digitsValue_toDigits, nothing, List.length_nil,
    Nat.zero_le, ↓reduceIte, Nat.add_zero]

/-! ## What a text denotes -/

/-- The number a decimal text denotes. -/
def value (text : String) : Rat :=
  match read text.toList with
  | some (whole, fraction) => digitsValue whole + digitsValue fraction / 10 ^ fraction.length
  | none => 0

/-- `\d+(\.\d{1,6})?`, with no zero in front that could be left out. -/
def canonical (text : String) : Bool :=
  match read text.toList with
  | some (whole, fraction) =>
    decide (fraction.length ≤ 6) && (whole.head? != some '0' || whole == ['0'])
  | none => false

theorem canonical_iff {text : String} :
    canonical text = true ↔ ∃ whole fraction, read text.toList = some (whole, fraction) ∧ fraction.length ≤ 6 ∧
      (whole.head? = some '0' → whole = ['0']) := by
  unfold canonical
  cases read text.toList with
  | none => simp
  | some parts =>
    obtain ⟨whole, fraction⟩ := parts
    simp only [Bool.and_eq_true, decide_eq_true_eq, Bool.or_eq_true, bne_iff_ne, ne_eq, beq_iff_eq,
      Option.some.injEq, Prod.mk.injEq]
    rw [or_iff_not_imp_left, not_not]
    simp

theorem digitsValue_padEnd {width : Nat} {digits : List Char} :
    digitsValue (padEnd width '0' digits) = digitsValue digits * 10 ^ (width - digits.length) := by
  rw [digitsValue, padEnd, Nat.ofDigitChars_append, Nat.ofDigitChars_replicate_zero, digitsValue, Nat.mul_comm]

/-- Counting in millionths loses nothing. -/
theorem value_eq {text : String} {count : Nat} (reads : millionths text = some count) :
    value text = count / 1000000 := by
  unfold millionths at reads
  unfold value
  split at reads
  · rename_i whole fraction accepted
    split at reads
    · rename_i short
      have scale : (10 : Rat) ^ (6 - fraction.length) * 10 ^ fraction.length = 1000000 := by
        rw [← pow_add, Nat.sub_add_cancel short]
        norm_num
      have positive : (10 : Rat) ^ fraction.length ≠ 0 := by positivity
      rw [← Option.some.inj reads, partsValue, digitsValue_padEnd]
      push_cast
      rw [← scale]
      field_simp
    · cases reads
  · cases reads

/-- Texts of the same millionths denote the same number. -/
theorem value_eq_iff {a b : String} {first second : Nat} (readsA : millionths a = some first)
    (readsB : millionths b = some second) : value a = value b ↔ first = second := by
  rw [value_eq readsA, value_eq readsB, div_left_inj' (by norm_num), Nat.cast_inj]

theorem value_lt_iff {a b : String} {first second : Nat} (readsA : millionths a = some first)
    (readsB : millionths b = some second) : value a < value b ↔ first < second := by
  rw [value_eq readsA, value_eq readsB, div_lt_div_iff_of_pos_right (by norm_num), Nat.cast_lt]

theorem digit_cases {character : Char} (digital : character.isDigit = true) :
    ∃ digit < 10, Nat.digitChar digit = character := by
  simp only [Char.isDigit, ge_iff_le, Bool.and_eq_true, decide_eq_true_eq] at digital
  have lower : 48 ≤ character.toNat := digital.1
  have upper : character.toNat ≤ 57 := digital.2
  refine ⟨character.toNat - 48, by omega, Char.toNat_inj.mp ?_⟩
  rw [Nat.toNat_digitChar_of_lt_ten (by omega)]
  omega

/-- Digits written behind a positive number. -/
theorem toDigits_ofDigitChars {digits : List Char} (digital : ∀ digit ∈ digits, digit.isDigit = true)
    {before : Nat} (positive : 0 < before) :
    Nat.toDigits 10 (Nat.ofDigitChars 10 digits before) = Nat.toDigits 10 before ++ digits := by
  induction digits generalizing before with
  | nil => simp
  | cons head tail ih =>
    obtain ⟨digit, small, rfl⟩ := digit_cases (digital head List.mem_cons_self)
    rw [Nat.ofDigitChars_cons_digitChar_of_lt_ten small,
      ih (fun other member => digital other (List.mem_cons_of_mem _ member)) (by omega),
      ← Nat.toDigits_append_toDigits (by decide) positive small, Nat.toDigits_of_lt_base small,
      List.append_assoc, List.singleton_append]

/-- As many digits with the same value are the same digits. -/
theorem digitsValue_injective {a b : List Char} (digitalA : ∀ digit ∈ a, digit.isDigit = true)
    (digitalB : ∀ digit ∈ b, digit.isDigit = true) (length : a.length = b.length)
    (same : digitsValue a = digitsValue b) : a = b := by
  -- A leading one makes the notation of the number show all its digits.
  have led : ∀ {digits : List Char}, (∀ digit ∈ digits, digit.isDigit = true) →
      Nat.toDigits 10 (10 ^ digits.length + digitsValue digits) = '1' :: digits := by
    intro digits digital
    have written := toDigits_ofDigitChars digital Nat.one_pos
    rw [Nat.ofDigitChars_eq_ofDigitChars_zero, Nat.mul_one] at written
    exact written
  have heads := led digitalA
  rw [length, same, led digitalB] at heads
  exact (List.cons.inj heads).2.symm

/-- Digits without a superfluous zero are the notation of their value. -/
theorem toDigits_digitsValue {whole : List Char} (nonempty : whole ≠ [])
    (digital : ∀ digit ∈ whole, digit.isDigit = true) (minimal : whole.head? = some '0' → whole = ['0']) :
    Nat.toDigits 10 (digitsValue whole) = whole := by
  cases whole with
  | nil => exact absurd rfl nonempty
  | cons head tail =>
    by_cases zero : head = '0'
    · rw [minimal (congrArg some zero)]
      decide
    · obtain ⟨digit, small, rfl⟩ := digit_cases (digital head List.mem_cons_self)
      have positive : 0 < digit := Nat.pos_of_ne_zero fun none => zero (none ▸ rfl)
      rw [digitsValue, Nat.ofDigitChars_cons_digitChar_of_lt_ten small, Nat.mul_zero, Nat.zero_add,
        toDigits_ofDigitChars (fun other member => digital other (List.mem_cons_of_mem _ member)) positive,
        Nat.toDigits_of_lt_base small, List.singleton_append]

/-! ## Texts made of parts around a separator -/

/-- A separator that the first parts do not contain separates. -/
theorem split_at_first {a a' b b' : List Char} {separator : Char} (absent : separator ∉ a)
    (absent' : separator ∉ a') (same : a ++ separator :: b = a' ++ separator :: b') :
    a = a' ∧ b = b' := by
  induction a generalizing a' with
  | nil =>
    cases a' with
    | nil => exact ⟨rfl, by simpa using same⟩
    | cons head tail => simp at same absent'; exact absurd same.1 absent'.1
  | cons head tail ih =>
    cases a' with
    | nil => simp at same absent; exact absurd same.1.symm absent.1
    | cons head' tail' =>
      simp only [List.cons_append, List.cons.injEq] at same
      obtain ⟨tails, rests⟩ := ih (fun member => absent (List.mem_cons_of_mem _ member))
        (fun member => absent' (List.mem_cons_of_mem _ member)) same.2
      exact ⟨by rw [same.1, tails], rests⟩

/-- A separator that the last parts do not contain separates. -/
theorem split_at_last {a a' b b' : List Char} {separator : Char} (absent : separator ∉ b)
    (absent' : separator ∉ b') (same : a ++ separator :: b = a' ++ separator :: b') :
    a = a' ∧ b = b' := by
  have mirrored := congrArg List.reverse same
  simp only [List.reverse_append, List.reverse_cons, List.append_assoc, List.singleton_append] at mirrored
  obtain ⟨last, front⟩ := split_at_first (by simpa using absent) (by simpa using absent') mirrored
  exact ⟨List.reverse_injective front, List.reverse_injective last⟩

theorem toList_repr_digits {value : Nat} {digit : Char} (member : digit ∈ (toString value).toList) :
    digit.isDigit = true := by
  rw [Nat.toString_eq_repr, Nat.toList_repr] at member
  exact digit_of_toDigits member

/-- Two numbers with the same digits are the same number. -/
theorem eq_of_toString_nat {a b : Nat} (same : toString a = toString b) : a = b := by
  have digits := congrArg String.toList same
  rw [Nat.toString_eq_repr, Nat.toString_eq_repr, Nat.toList_repr, Nat.toList_repr] at digits
  rw [← digitsValue_toDigits a, ← digitsValue_toDigits b, digits]

private theorem minus_not_digit {value : Nat} {text : String} : toString value ≠ "-" ++ text := by
  intro same
  have first : '-' ∈ (toString value).toList := by
    rw [same, String.toList_append]
    exact List.mem_append_left _ (List.mem_singleton_self '-')
  exact absurd (toList_repr_digits first) (by decide)

theorem eq_of_toString_int {a b : Int} (same : toString a = toString b) : a = b := by
  cases a with
  | ofNat a =>
    cases b with
    | ofNat b => exact congrArg Int.ofNat (eq_of_toString_nat same)
    | negSucc b => exact absurd same minus_not_digit
  | negSucc a =>
    cases b with
    | ofNat b => exact absurd same.symm minus_not_digit
    | negSucc b =>
      have lists := congrArg String.toList (show "-" ++ toString (a + 1) = "-" ++ toString (b + 1) from same)
      rw [String.toList_append, String.toList_append, List.append_cancel_left_eq] at lists
      have equal := eq_of_toString_nat (String.toList_injective lists)
      rw [show a = b by omega]

end EmissionsPlatform.DecimalText
