import EmissionsPlatform.MetricsService

/-! The decimal arithmetic of `metrics.service.ts`, against the numbers its
texts denote. The routines work on the digits: they split at the point, fill up
and cut to six fractional digits, add as integers, and put the point back.

`decimals_exact` says that for texts of any length nothing of this shows: sums
are sums, comparisons are comparisons, and normalizing a text gives each number
one text of its own. -/
namespace EmissionsPlatform.MetricsService
open DecimalText (canonical_iff millionths)
set_option autoImplicit false

/-- What `formatNumeric` is meant to yield: an integer part, a point, and one to
six fractional digits that do not end in a zero unless they are a single one. -/
structure Normalized (text : String) : Prop where
  parts : ∃ whole fraction, DecimalText.read text.toList = some (whole, fraction) ∧ fraction ≠ [] ∧
    fraction.length ≤ 6 ∧ (fraction.getLast? = some '0' → fraction = ['0'])

variable {text a b : String} {value first second : Nat}

theorem millionths_of_canonical (canonical : DecimalText.canonical text = true) :
    ∃ value, millionths text = some value := by
  obtain ⟨whole, fraction, reads, short, -⟩ := canonical_iff.mp canonical
  exact ⟨DecimalText.partsValue whole fraction, by simp only [millionths, reads, short, ↓reduceIte]⟩

/-! ## Sums and comparisons -/

theorem millionths_addDecimalStrings (readsA : millionths a = some first) (readsB : millionths b = some second) :
    millionths (addDecimalStrings a b) = some (first + second) := by
  rw [addDecimalStrings, parseToScaledBigInt_eq readsA, parseToScaledBigInt_eq readsB]
  exact DecimalText.millionths_numericText _

theorem value_addDecimalStrings (readsA : millionths a = some first) (readsB : millionths b = some second) :
    DecimalText.value (addDecimalStrings a b) = DecimalText.value a + DecimalText.value b := by
  rw [DecimalText.value_eq (millionths_addDecimalStrings readsA readsB), DecimalText.value_eq readsA,
    DecimalText.value_eq readsB, ← add_div, Nat.cast_add]

theorem compareNumericStrings_neg_iff (readsA : millionths a = some first) (readsB : millionths b = some second) :
    compareNumericStrings a b < 0 ↔ DecimalText.value a < DecimalText.value b := by
  rw [compareNumericStrings, parseToScaledBigInt_eq readsA, parseToScaledBigInt_eq readsB,
    DecimalText.value_lt_iff readsA readsB]
  split_ifs <;> omega

theorem compareNumericStrings_pos_iff (readsA : millionths a = some first) (readsB : millionths b = some second) :
    0 < compareNumericStrings a b ↔ DecimalText.value b < DecimalText.value a := by
  rw [compareNumericStrings, parseToScaledBigInt_eq readsA, parseToScaledBigInt_eq readsB,
    DecimalText.value_lt_iff readsB readsA]
  split_ifs <;> omega

theorem compareNumericStrings_eq_zero_iff (readsA : millionths a = some first)
    (readsB : millionths b = some second) :
    compareNumericStrings a b = 0 ↔ DecimalText.value a = DecimalText.value b := by
  rw [compareNumericStrings, parseToScaledBigInt_eq readsA, parseToScaledBigInt_eq readsB,
    DecimalText.value_eq_iff readsA readsB]
  split_ifs <;> simp <;> omega

/-! ## Normalized texts -/

theorem trimZeros_last {fraction : List Char} (zero : (trimZeros fraction).getLast? = some '0') :
    trimZeros fraction = ['0'] := by
  unfold trimZeros at zero ⊢
  split at zero
  · rfl
  · rename_i nonempty
    have last := List.rdropWhile_last_not (· == '0') fraction nonempty
    rw [List.getLast?_eq_getLast_of_ne_nil nonempty, Option.some.injEq] at zero
    rw [zero] at last
    exact absurd rfl last

theorem formatNumeric_normalized (canonical : DecimalText.canonical text = true) :
    Normalized (formatNumeric text) := by
  obtain ⟨whole, fraction, reads, short, -⟩ := canonical_iff.mp canonical
  exact ⟨whole, _, read_formatNumeric reads short, trimZeros_ne_nil _,
    length_trimZeros (DecimalText.length_padEnd short), trimZeros_last⟩

theorem formatNumeric_idempotent (canonical : DecimalText.canonical text = true) :
    formatNumeric (formatNumeric text) = formatNumeric text := by
  obtain ⟨whole, fraction, reads, short, -⟩ := canonical_iff.mp canonical
  have length := @DecimalText.length_padEnd 6 fraction '0' short
  rw [formatNumeric_of_read (read_formatNumeric reads short) (length_trimZeros length), padEnd_trimZeros length,
    formatNumeric_of_read reads short]

/-- Texts of one number have the same whole part and, filled up, the same
fraction. -/
theorem formatNumeric_eq_of_millionths (canonicalA : DecimalText.canonical a = true)
    (canonicalB : DecimalText.canonical b = true) (same : millionths a = millionths b) :
    formatNumeric a = formatNumeric b := by
  obtain ⟨wholeA, fractionA, readsA, shortA, minimalA⟩ := canonical_iff.mp canonicalA
  obtain ⟨wholeB, fractionB, readsB, shortB, minimalB⟩ := canonical_iff.mp canonicalB
  obtain ⟨nonemptyA, digitsA, fractionDigitsA, -⟩ := DecimalText.read_eq_some_iff.mp readsA
  obtain ⟨nonemptyB, digitsB, fractionDigitsB, -⟩ := DecimalText.read_eq_some_iff.mp readsB
  have lengthA := @DecimalText.length_padEnd 6 fractionA '0' shortA
  have lengthB := @DecimalText.length_padEnd 6 fractionB '0' shortB
  have belowA := DecimalText.digitsValue_lt _ (@DecimalText.padEnd_digits 6 _ fractionDigitsA)
  have belowB := DecimalText.digitsValue_lt _ (@DecimalText.padEnd_digits 6 _ fractionDigitsB)
  rw [lengthA] at belowA
  rw [lengthB] at belowB
  simp only [millionths, readsA, readsB, shortA, shortB, ↓reduceIte, Option.some.injEq,
    DecimalText.partsValue] at same
  have whole : wholeA = wholeB := by
    rw [← DecimalText.toDigits_digitsValue nonemptyA digitsA minimalA,
      ← DecimalText.toDigits_digitsValue nonemptyB digitsB minimalB]
    exact congrArg (Nat.toDigits 10) (by omega)
  have fraction : DecimalText.padEnd 6 '0' fractionA = DecimalText.padEnd 6 '0' fractionB := by
    apply DecimalText.digitsValue_injective (DecimalText.padEnd_digits fractionDigitsA)
      (DecimalText.padEnd_digits fractionDigitsB) (lengthA.trans lengthB.symm)
    omega
  rw [formatNumeric_of_read readsA shortA, formatNumeric_of_read readsB shortB, whole, fraction]

theorem formatNumeric_eq_iff (canonicalA : DecimalText.canonical a = true)
    (canonicalB : DecimalText.canonical b = true) :
    formatNumeric a = formatNumeric b ↔ DecimalText.value a = DecimalText.value b := by
  obtain ⟨first, readsA⟩ := millionths_of_canonical canonicalA
  obtain ⟨second, readsB⟩ := millionths_of_canonical canonicalB
  constructor
  · intro same
    rw [DecimalText.value_eq_iff readsA readsB, ← Option.some.injEq, ← millionths_formatNumeric readsA, same]
    exact millionths_formatNumeric readsB
  · intro same
    rw [DecimalText.value_eq_iff readsA readsB] at same
    exact formatNumeric_eq_of_millionths canonicalA canonicalB (by rw [readsA, readsB, same])

/-! ## The response -/

/-- What a response prints are the numbers it is made of, in millionths, and
their exact sum; its verdict is that of the sum and the site's limit. -/
structure AddsUp (site : Site) (prior current : Nat) (metrics : SiteMetrics) : Prop where
  limit : millionths metrics.emissionLimitKgCo2e = some site.emissionLimit.millionths
  priorMonths : millionths metrics.priorMonthsTotalKgCo2e = some prior
  currentMonth : millionths metrics.currentMonthToDateKgCo2e = some current
  total : millionths metrics.totalKgCo2e = some (prior + current)
  verdict : metrics.complianceStatus = .compliant ↔ prior + current ≤ site.emissionLimit.millionths

/-- Whatever the statements return. -/
theorem respond_addsUp (site : Site) (prior current : SqlNumeric) (asOf : Int) :
    AddsUp site prior.millionths current.millionths (respond site prior.text current.text asOf) := by
  have limit : millionths site.emissionLimit.text = some site.emissionLimit.millionths :=
    DecimalText.millionths_numericText _
  have sum := millionths_addDecimalStrings (millionths_text prior) (millionths_text current)
  refine ⟨millionths_formatNumeric limit, millionths_formatNumeric (millionths_text prior),
    millionths_formatNumeric (millionths_text current), millionths_formatNumeric sum, ?_⟩
  rw [respond, compareNumericStrings, parseToScaledBigInt_eq sum, parseToScaledBigInt_eq limit]
  split_ifs <;> simp <;> omega

/-- The same of the printed texts alone. -/
theorem AddsUp.printed {site : Site} {prior current : Nat} {metrics : SiteMetrics}
    (sums : AddsUp site prior current metrics) :
    DecimalText.value metrics.totalKgCo2e =
        DecimalText.value metrics.priorMonthsTotalKgCo2e + DecimalText.value metrics.currentMonthToDateKgCo2e ∧
      (metrics.complianceStatus = .compliant ↔
        DecimalText.value metrics.totalKgCo2e ≤ DecimalText.value metrics.emissionLimitKgCo2e) := by
  rw [DecimalText.value_eq sums.total, DecimalText.value_eq sums.priorMonths, DecimalText.value_eq sums.currentMonth,
    DecimalText.value_eq sums.limit, sums.verdict, ← add_div, Nat.cast_add, div_le_div_iff_of_pos_right (by norm_num)]
  exact ⟨rfl, by norm_cast⟩

/-- **Decimal totals and compliance are exact.** For decimal texts of any length
the sum, the comparison and the normal form are those of the numbers they
denote. Every response prints the limit of its site, the two sums its
statements return and their total, and judges the total by the limit. -/
theorem decimals_exact (a b : String) (canonicalA : DecimalText.canonical a = true)
    (canonicalB : DecimalText.canonical b = true) :
    (DecimalText.value (addDecimalStrings a b) = DecimalText.value a + DecimalText.value b ∧
        ∃ sum, millionths (addDecimalStrings a b) = some sum) ∧
      ((compareNumericStrings a b < 0 ↔ DecimalText.value a < DecimalText.value b) ∧
        (compareNumericStrings a b = 0 ↔ DecimalText.value a = DecimalText.value b) ∧
        (0 < compareNumericStrings a b ↔ DecimalText.value b < DecimalText.value a)) ∧
      (DecimalText.value (formatNumeric a) = DecimalText.value a ∧ Normalized (formatNumeric a) ∧
        formatNumeric (formatNumeric a) = formatNumeric a ∧
        (formatNumeric a = formatNumeric b ↔ DecimalText.value a = DecimalText.value b)) ∧
      (∀ (site : Site) (prior current : SqlNumeric) (asOf : Int),
        AddsUp site prior.millionths current.millionths (respond site prior.text current.text asOf)) ∧
      ∀ (runtime : Runtime) (db : Database) (slug : String) (now : Int) (metrics : SiteMetrics),
        getSiteMetrics runtime db slug now = some metrics →
          ∃ site, selectSite db slug = some site ∧
            AddsUp site (priorTotal runtime db site (runtime.siteLocalYearMonth now site.timezone)).millionths
                (currentMonthTotal db site.id (currentMonthStart runtime site.timezone now)).millionths metrics ∧
              DecimalText.value metrics.totalKgCo2e =
                DecimalText.value metrics.priorMonthsTotalKgCo2e +
                  DecimalText.value metrics.currentMonthToDateKgCo2e ∧
              (metrics.complianceStatus = .compliant ↔
                DecimalText.value metrics.totalKgCo2e ≤ DecimalText.value metrics.emissionLimitKgCo2e) := by
  obtain ⟨first, readsA⟩ := millionths_of_canonical canonicalA
  obtain ⟨second, readsB⟩ := millionths_of_canonical canonicalB
  refine ⟨⟨value_addDecimalStrings readsA readsB, _, millionths_addDecimalStrings readsA readsB⟩,
    ⟨compareNumericStrings_neg_iff readsA readsB, compareNumericStrings_eq_zero_iff readsA readsB,
      compareNumericStrings_pos_iff readsA readsB⟩,
    ⟨?_, formatNumeric_normalized canonicalA, formatNumeric_idempotent canonicalA,
      formatNumeric_eq_iff canonicalA canonicalB⟩, respond_addsUp, ?_⟩
  · rw [DecimalText.value_eq_iff (millionths_formatNumeric readsA) readsA]
  · intro runtime db slug now metrics returned
    obtain ⟨site, found, rfl⟩ := Option.map_eq_some_iff.mp returned
    have sums := respond_addsUp site (priorTotal runtime db site (runtime.siteLocalYearMonth now site.timezone))
      (currentMonthTotal db site.id (currentMonthStart runtime site.timezone now)) now
    exact ⟨site, found, sums, sums.printed⟩

/-- Nine tenths and a millionth more than a tenth carry across the point. -/
theorem carry_across_the_point :
    addDecimalStrings "0.9" "999999999999999999999.100001" = "1000000000000000000000.000001" ∧
      DecimalText.value (addDecimalStrings "0.9" "999999999999999999999.100001") =
        DecimalText.value "0.9" + DecimalText.value "999999999999999999999.100001" :=
  ⟨by decide +kernel, (decimals_exact "0.9" "999999999999999999999.100001" (by decide +kernel)
    (by decide +kernel)).1.1⟩

end EmissionsPlatform.MetricsService
