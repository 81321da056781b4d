import Mathlib.Data.List.DropRight
import Mathlib.Tactic.Cases

/-! Integers as JavaScript reads them from a text (`BigInt(text)`): white space
around the literal is ignored, nothing at all is zero, decimal digits may have a
sign, and `0x`, `0o` and `0b` begin digits of another radix, without a sign.

`toBigInt` computes the integer, `Reads` is the grammar, and `toBigInt_eq_some_iff`
says that they agree. -/
namespace EmissionsPlatform.IntegerLiteral
set_option autoImplicit false

/-- White space and line terminators. -/
def isWhite (character : Char) : Bool :=
  let code := character.toNat
  (9 ≤ code && code ≤ 13) || code == 0x20 || code == 0xA0 || code == 0x1680 ||
    (0x2000 ≤ code && code ≤ 0x200A) || code == 0x2028 || code == 0x2029 || code == 0x202F ||
    code == 0x205F || code == 0x3000 || code == 0xFEFF

def trim (text : List Char) : List Char := (text.dropWhile isWhite).rdropWhile isWhite

/-- The value of a digit, letters going on from nine. -/
def digitValue (character : Char) : Option Nat :=
  if character.isDigit then some (character.toNat - '0'.toNat)
  else if 'a' ≤ character ∧ character ≤ 'f' then some (character.toNat - 'a'.toNat + 10)
  else if 'A' ≤ character ∧ character ≤ 'F' then some (character.toNat - 'A'.toNat + 10)
  else none

def readDigit (radix : Nat) (character : Char) : Option Nat :=
  (digitValue character).filter fun digit => decide (digit < radix)

/-- One more digit behind a number. -/
def appendDigit (radix : Nat) (number : Option Nat) (character : Char) : Option Nat :=
  number.bind fun number => (readDigit radix character).map fun digit => number * radix + digit

/-- Digits, at least one. -/
def readDigits (radix : Nat) (digits : List Char) : Option Nat :=
  if digits = [] then none else digits.foldl (appendDigit radix) (some 0)

/-- The radix a letter behind a zero stands for. -/
def radixOf (letter : Char) : Option Nat :=
  if letter = 'x' ∨ letter = 'X' then some 16
  else if letter = 'o' ∨ letter = 'O' then some 8
  else if letter = 'b' ∨ letter = 'B' then some 2
  else none

/-- A literal without white space around it. -/
def readLiteral (text : List Char) : Option Int :=
  match text with
  | [] => some 0
  | '+' :: digits => (readDigits 10 digits).map Int.ofNat
  | '-' :: digits => (readDigits 10 digits).map fun magnitude => -Int.ofNat magnitude
  | '0' :: letter :: digits =>
    match radixOf letter with
    | some radix => (readDigits radix digits).map Int.ofNat
    | none => (readDigits 10 text).map Int.ofNat
  | _ => (readDigits 10 text).map Int.ofNat

/-- `BigInt(text)`; `none` is a `SyntaxError`. -/
def toBigInt (text : List Char) : Option Int := readLiteral (trim text)

/-! ## The grammar -/

inductive Digits (radix : Nat) : List Char → Nat → Prop
  | one {character : Char} {digit : Nat} (reads : digitValue character = some digit) (fits : digit < radix) :
    Digits radix [character] digit
  | more {digits : List Char} {number : Nat} {character : Char} {digit : Nat} (before : Digits radix digits number)
    (reads : digitValue character = some digit) (fits : digit < radix) :
    Digits radix (digits ++ [character]) (number * radix + digit)

inductive Literal : List Char → Int → Prop
  | nothing : Literal [] 0
  | unsigned {digits : List Char} {number : Nat} (reads : Digits 10 digits number) : Literal digits number
  | plus {digits : List Char} {number : Nat} (reads : Digits 10 digits number) : Literal ('+' :: digits) number
  | minus {digits : List Char} {number : Nat} (reads : Digits 10 digits number) :
    Literal ('-' :: digits) (-number)
  | prefixed {letter : Char} {radix : Nat} {digits : List Char} {number : Nat} (named : radixOf letter = some radix)
    (reads : Digits radix digits number) : Literal ('0' :: letter :: digits) number

/-- The text is the integer's literal, with white space around it. -/
def Reads (text : List Char) (value : Int) : Prop :=
  ∃ before literal after, text = before ++ literal ++ after ∧ (∀ character ∈ before, isWhite character = true) ∧
    (∀ character ∈ after, isWhite character = true) ∧ Literal literal value

variable {text digits literal : List Char} {radix number : Nat} {value : Int} {character letter : Char}

theorem readDigit_eq_some_iff {digit : Nat} :
    readDigit radix character = some digit ↔ digitValue character = some digit ∧ digit < radix := by
  simp [readDigit, Option.filter_eq_some_iff]

theorem appendDigit_eq_some_iff {before : Option Nat} :
    appendDigit radix before character = some number ↔
      ∃ front digit, before = some front ∧ digitValue character = some digit ∧ digit < radix ∧
        number = front * radix + digit := by
  simp only [appendDigit, Option.bind_eq_some_iff, Option.map_eq_some_iff, readDigit_eq_some_iff]
  constructor
  · rintro ⟨front, known, digit, ⟨reads, fits⟩, rfl⟩
    exact ⟨front, digit, known, reads, fits, rfl⟩
  · rintro ⟨front, digit, known, reads, fits, rfl⟩
    exact ⟨front, known, digit, ⟨reads, fits⟩, rfl⟩

/-- The last digit of a number. -/
theorem digits_append_iff : Digits radix (digits ++ [character]) number ↔
    ∃ digit, digitValue character = some digit ∧ digit < radix ∧
      (digits = [] ∧ number = digit ∨ ∃ front, Digits radix digits front ∧ number = front * radix + digit) := by
  constructor
  · intro written
    generalize whole : digits ++ [character] = all at written
    cases written with
    | @one other digit reads fits =>
      obtain ⟨rfl, same⟩ := List.append_eq_singleton_iff.mp whole |>.resolve_right (by simp)
      cases same
      exact ⟨_, reads, fits, Or.inl ⟨rfl, rfl⟩⟩
    | more before reads fits =>
      obtain ⟨rfl, same⟩ := List.append_inj' whole rfl
      cases same
      exact ⟨_, reads, fits, Or.inr ⟨_, before, rfl⟩⟩
  · rintro ⟨digit, reads, fits, ⟨rfl, rfl⟩ | ⟨front, before, rfl⟩⟩
    · exact .one reads fits
    · exact .more before reads fits

theorem readDigits_eq_some_iff : readDigits radix digits = some number ↔ Digits radix digits number := by
  induction digits using List.reverseRecOn generalizing number with
  | nil =>
    refine ⟨nofun, fun written => ?_⟩
    generalize nothing : ([] : List Char) = none at written
    cases written <;> simp at nothing
  | append_singleton front last ih =>
    rw [readDigits, if_neg (by simp), List.foldl_append, List.foldl_cons, List.foldl_nil, appendDigit_eq_some_iff,
      digits_append_iff]
    by_cases empty : front = []
    · subst empty
      constructor
      · rintro ⟨_, digit, zero, reads, fits, rfl⟩
        cases zero
        exact ⟨digit, reads, fits, Or.inl ⟨rfl, by omega⟩⟩
      · rintro ⟨digit, reads, fits, ⟨-, rfl⟩ | ⟨before, written, -⟩⟩
        · exact ⟨0, _, rfl, reads, fits, by omega⟩
        · exact absurd (ih.mpr written) nofun
    · have known : ∀ before, front.foldl (appendDigit radix) (some 0) = some before ↔
          Digits radix front before := by
        intro before
        rw [← ih, readDigits, if_neg empty]
      constructor
      · rintro ⟨before, digit, folded, reads, fits, rfl⟩
        exact ⟨digit, reads, fits, Or.inr ⟨before, (known before).mp folded, rfl⟩⟩
      · rintro ⟨digit, reads, fits, ⟨none, -⟩ | ⟨before, written, rfl⟩⟩
        · exact absurd none empty
        · exact ⟨before, digit, (known before).mpr written, reads, fits, rfl⟩

theorem digits_digital (written : Digits radix digits number) :
    ∀ character ∈ digits, ∃ digit < radix, digitValue character = some digit := by
  induction written with
  | one reads fits => exact List.forall_mem_singleton.mpr ⟨_, fits, reads⟩
  | more before reads fits ih =>
    intro character member
    rcases List.mem_append.mp member with earlier | last
    · exact ih character earlier
    · rw [List.mem_singleton.mp last]
      exact ⟨_, fits, reads⟩

theorem not_digits_of_mem (member : character ∈ digits) (other : ∀ digit < radix, digitValue character ≠ some digit) :
    ¬ Digits radix digits number := by
  intro written
  obtain ⟨digit, fits, reads⟩ := digits_digital written character member
  exact other digit fits reads

theorem radixOf_letter (named : radixOf letter = some radix) : letter ∈ ['x', 'X', 'o', 'O', 'b', 'B'] := by
  unfold radixOf at named
  split_ifs at named with hexadecimal octal binary
  · rcases hexadecimal with rfl | rfl <;> decide
  · rcases octal with rfl | rfl <;> decide
  · rcases binary with rfl | rfl <;> decide

/-- The letter of a radix is no decimal digit. -/
theorem radixOf_not_decimal (named : radixOf letter = some radix) :
    ∀ digit < 10, digitValue letter ≠ some digit := by
  have letters := radixOf_letter named
  simp only [List.mem_cons, List.not_mem_nil, or_false] at letters
  clear named
  rcases letters with rfl | rfl | rfl | rfl | rfl | rfl <;> decide

theorem sign_not_digit {sign : Char} (isSign : sign = '+' ∨ sign = '-') :
    ∀ digit < radix, digitValue sign ≠ some digit := by
  intro digit _
  rcases isSign with rfl | rfl <;> exact nofun

theorem map_readDigits {build : Nat → Int} :
    (readDigits radix digits).map build = some value ↔ ∃ number, Digits radix digits number ∧ build number = value := by
  simp only [Option.map_eq_some_iff, readDigits_eq_some_iff]

/-- Without a sign or the prefix of a radix, a literal is a decimal number. -/
theorem unsigned_iff (nonempty : text ≠ []) (unsigned : ∀ digits, text ≠ '+' :: digits ∧ text ≠ '-' :: digits)
    (decimal : ∀ letter digits radix, text = '0' :: letter :: digits → radixOf letter ≠ some radix) :
    Literal text value ↔ ∃ number, Digits 10 text number ∧ Int.ofNat number = value := by
  constructor
  · intro isLiteral
    cases isLiteral with
    | nothing => exact absurd rfl nonempty
    | unsigned reads => exact ⟨_, reads, rfl⟩
    | plus reads => exact absurd rfl (unsigned _).1
    | minus reads => exact absurd rfl (unsigned _).2
    | prefixed named reads => exact absurd named (decimal _ _ _ rfl)
  · rintro ⟨number, reads, rfl⟩
    exact .unsigned reads

theorem literal_nil_iff : Literal [] value ↔ value = 0 := by
  constructor
  · intro isLiteral
    generalize nothing : ([] : List Char) = none at isLiteral
    cases isLiteral with
    | nothing => rfl
    | unsigned reads => exact absurd (nothing ▸ readDigits_eq_some_iff.mpr reads) nofun
    | plus reads => cases nothing
    | minus reads => cases nothing
    | prefixed named reads => cases nothing
  · rintro rfl
    exact .nothing

theorem literal_plus_iff :
    Literal ('+' :: digits) value ↔ ∃ number, Digits 10 digits number ∧ Int.ofNat number = value := by
  constructor
  · intro isLiteral
    cases isLiteral with
    | unsigned reads => exact absurd reads (not_digits_of_mem List.mem_cons_self (sign_not_digit (Or.inl rfl)))
    | plus reads => exact ⟨_, reads, rfl⟩
  · rintro ⟨number, reads, rfl⟩
    exact .plus reads

theorem literal_minus_iff :
    Literal ('-' :: digits) value ↔ ∃ number, Digits 10 digits number ∧ -Int.ofNat number = value := by
  constructor
  · intro isLiteral
    cases isLiteral with
    | unsigned reads => exact absurd reads (not_digits_of_mem List.mem_cons_self (sign_not_digit (Or.inr rfl)))
    | minus reads => exact ⟨_, reads, rfl⟩
  · rintro ⟨number, reads, rfl⟩
    exact .minus reads

theorem literal_prefixed_iff (named : radixOf letter = some radix) :
    Literal ('0' :: letter :: digits) value ↔ ∃ number, Digits radix digits number ∧ Int.ofNat number = value := by
  constructor
  · intro isLiteral
    cases isLiteral with
    | unsigned reads =>
      have inside : letter ∈ '0' :: letter :: digits := List.mem_cons_of_mem _ List.mem_cons_self
      exact absurd reads (not_digits_of_mem inside (radixOf_not_decimal named))
    | prefixed again reads =>
      cases named.symm.trans again
      exact ⟨_, reads, rfl⟩
  · rintro ⟨number, reads, rfl⟩
    exact .prefixed named reads

theorem readLiteral_eq_some_iff : readLiteral text = some value ↔ Literal text value := by
  unfold readLiteral
  split
  · rw [literal_nil_iff, Option.some_inj, eq_comm]
  · rw [map_readDigits, literal_plus_iff]
  · rw [map_readDigits, literal_minus_iff]
  · rename_i letter digits
    split
    · rename_i radix named
      rw [map_readDigits, literal_prefixed_iff named]
    · rename_i plain
      rw [map_readDigits, unsigned_iff (by simp) (by simp)]
      rintro other rest radix same
      cases same
      rw [plain]
      exact nofun
  · rename_i nonempty plus minus decimal
    rw [map_readDigits, unsigned_iff nonempty (fun digits => ⟨plus digits, minus digits⟩)]
    intro letter digits radix same
    exact absurd same (decimal letter digits)

/-! ## White space -/

theorem not_white_of_code (low : 33 ≤ character.toNat) (high : character.toNat < 128) :
    isWhite character = false := by
  simp only [isWhite, Bool.or_eq_false_iff, Bool.and_eq_false_iff, decide_eq_false_iff_not, beq_eq_false_iff_ne]
  omega

theorem digitValue_not_white {digit : Nat} (reads : digitValue character = some digit) :
    isWhite character = false := by
  have codes : 48 ≤ character.toNat ∧ character.toNat ≤ 102 := by
    unfold digitValue at reads
    split_ifs at reads with decimal small large
    · simp only [Char.isDigit, ge_iff_le, Bool.and_eq_true, decide_eq_true_eq] at decimal
      have lower : 48 ≤ character.toNat := decimal.1
      have upper : character.toNat ≤ 57 := decimal.2
      omega
    · have lower : 97 ≤ character.toNat := small.1
      have upper : character.toNat ≤ 102 := small.2
      omega
    · have lower : 65 ≤ character.toNat := large.1
      have upper : character.toNat ≤ 70 := large.2
      omega
  exact not_white_of_code (by omega) (by omega)

theorem digits_not_white (written : Digits radix digits number) :
    ∀ character ∈ digits, isWhite character = false := by
  intro character member
  obtain ⟨digit, -, reads⟩ := digits_digital written character member
  exact digitValue_not_white reads

theorem literal_not_white (isLiteral : Literal literal value) : ∀ character ∈ literal, isWhite character = false := by
  cases isLiteral with
  | nothing => exact nofun
  | unsigned reads => exact digits_not_white reads
  | plus reads => exact List.forall_mem_cons.mpr ⟨by decide, digits_not_white reads⟩
  | minus reads => exact List.forall_mem_cons.mpr ⟨by decide, digits_not_white reads⟩
  | @prefixed letter radix digits number named reads =>
    have letters := radixOf_letter named
    refine List.forall_mem_cons.mpr ⟨by decide, List.forall_mem_cons.mpr ⟨?_, digits_not_white reads⟩⟩
    simp only [List.mem_cons, List.not_mem_nil, or_false] at letters
    clear named
    rcases letters with rfl | rfl | rfl | rfl | rfl | rfl <;> decide

/-- Trimming takes white space off, and nothing else. -/
theorem trim_parts (text : List Char) :
    ∃ before after, text = before ++ trim text ++ after ∧ (∀ character ∈ before, isWhite character = true) ∧
      ∀ character ∈ after, isWhite character = true := by
  refine ⟨text.takeWhile isWhite, (text.dropWhile isWhite).rtakeWhile isWhite, ?_,
    fun _ => List.mem_takeWhile_imp, fun _ => List.mem_rtakeWhile_imp⟩
  rw [trim, List.append_assoc, List.rdropWhile_append_rtakeWhile, List.takeWhile_append_dropWhile]

theorem trim_eq {before after : List Char} (white : ∀ character ∈ before, isWhite character = true)
    (solid : ∀ character ∈ literal, isWhite character = false)
    (whiteAfter : ∀ character ∈ after, isWhite character = true) : trim (before ++ literal ++ after) = literal := by
  rw [trim, List.append_assoc, List.dropWhile_append_of_pos white]
  cases literal with
  | nil =>
    rw [List.nil_append, List.dropWhile_eq_nil_iff.mpr whiteAfter]
    rfl
  | cons head tail =>
    rw [List.cons_append, List.dropWhile_cons_of_neg (by simp [solid head List.mem_cons_self]),
      ← List.cons_append, List.rdropWhile, List.reverse_append,
      List.dropWhile_append_of_pos (by simpa using whiteAfter), List.dropWhile_eq_self_iff.mpr ?_,
      List.reverse_reverse]
    intro nonempty
    have member := List.mem_reverse.mp (List.getElem_mem nonempty)
    simp only [solid _ member, Bool.false_eq_true, not_false_eq_true]

/-- **`BigInt` reads exactly the grammar.** -/
theorem toBigInt_eq_some_iff : toBigInt text = some value ↔ Reads text value := by
  rw [toBigInt, readLiteral_eq_some_iff]
  constructor
  · intro isLiteral
    obtain ⟨before, after, whole, white, whiteAfter⟩ := trim_parts text
    exact ⟨before, trim text, after, whole, white, whiteAfter, isLiteral⟩
  · rintro ⟨before, literal, after, rfl, white, whiteAfter, isLiteral⟩
    rwa [trim_eq white (literal_not_white isLiteral) whiteAfter]

/-- The decimal notation of a number. -/
theorem digits_toDigits (number : Nat) : Digits 10 (Nat.toDigits 10 number) number := by
  have readable : ∀ digit < 10, digitValue (Nat.digitChar digit) = some digit := by decide
  induction number using Nat.strongRecOn with
  | ind number ih =>
    rcases Nat.lt_or_ge number 10 with small | large
    · rw [Nat.toDigits_of_lt_base small]
      exact .one (readable number small) small
    · have last : number % 10 < 10 := Nat.mod_lt _ (by decide)
      have split := Nat.toDigits_append_toDigits (n := number / 10) (d := number % 10) (b := 10) (by decide)
        (by omega) last
      rw [Nat.toDigits_of_lt_base last, Nat.div_add_mod] at split
      have written := Digits.more (ih (number / 10) (by omega)) (readable _ last) last
      rwa [split, Nat.mul_comm, Nat.div_add_mod] at written

theorem toList_ofNat (number : Nat) : (toString (Int.ofNat number)).toList = Nat.toDigits 10 number :=
  Nat.toList_repr

theorem toList_negSucc (number : Nat) :
    (toString (Int.negSucc number)).toList = '-' :: Nat.toDigits 10 (number + 1) := by
  change ("-" ++ Nat.repr (number + 1)).toList = _
  rw [String.toList_append, Nat.toList_repr]
  rfl

/-- **`BigInt` reads back what `toString` writes.** -/
theorem toBigInt_toString (value : Int) : toBigInt (toString value).toList = some value := by
  refine toBigInt_eq_some_iff.mpr ⟨[], (toString value).toList, [], by simp, nofun, nofun, ?_⟩
  cases value with
  | ofNat number =>
    rw [toList_ofNat]
    exact .unsigned (digits_toDigits number)
  | negSucc number =>
    rw [toList_negSucc]
    exact .minus (digits_toDigits (number + 1))

end EmissionsPlatform.IntegerLiteral
