import Mathlib.Algebra.Order.Field.Rat
import Mathlib.Data.List.DropRight
import Mathlib.Tactic.FieldSimp
import Mathlib.Tactic.IntervalCases
import Mathlib.Tactic.Positivity
import RefundDesk.Domain.Types
import RefundDesk.Library.Decimal

namespace RefundDesk

open Decimal

def zeroDecimalCurrencies : List String :=
  ["bif", "clp", "djf", "gnf", "jpy", "kmf", "krw", "mga", "pyg", "rwf", "vnd", "vuv", "xaf", "xof",
    "xpf"]

def threeDecimalCurrencies : List String :=
  ["bhd", "jod", "kwd", "omr", "tnd"]

def currencyExponent (currency : String) : Nat :=
  if currency ∈ zeroDecimalCurrencies then 0
  else if currency ∈ threeDecimalCurrencies then 3 else 2

-- `^(?:0|[1-9]\d*)$`
def isMinorAmount (text : List Char) : Bool :=
  match text with
  | ['0']   => true
  | c :: cs => '1' ≤ c && c ≤ '9' && cs.all Char.isDigit
  | []      => false

def padStart (length : Nat) (text : List Char) : List Char :=
  List.replicate (length - text.length) '0' ++ text

def padEnd (length : Nat) (text : List Char) : List Char :=
  text ++ List.replicate (length - text.length) '0'

def formatMinorAsDecimal (amountMinor currency : String) : String :=
  if isMinorAmount amountMinor.toList = false ∨ isCurrency currency = false then
    amountMinor
  else if currencyExponent currency = 0 then
    amountMinor
  else
    let exponent := currencyExponent currency
    let padded := padStart (exponent + 1) amountMinor.toList
    String.ofList (padded.take (padded.length - exponent) ++
      '.' :: padded.drop (padded.length - exponent))

inductive ParsedAmount
  | minorAmount (minorAmount : String)
  | error (error : String)
  deriving DecidableEq, Repr

-- The text without white space, and the first comma in it read as the decimal point.
def normalizedAmount (input : String) : List Char :=
  let text := input.toList.filter fun c => isWhiteSpace c = false
  match text.span (· ≠ ',') with
  | (before, _ :: after) => before ++ '.' :: after
  | (before, [])         => before

-- `^\d+(?:\.\d+)?$`
def isDecimalAmount (text : List Char) : Bool :=
  match text.span Char.isDigit with
  | (whole, [])              => whole ≠ []
  | (whole, '.' :: fraction) => whole ≠ [] ∧ fraction ≠ [] ∧ fraction.all Char.isDigit
  | _                        => false

def parseAmountToMinor (input currency : String) : ParsedAmount :=
  let normalized := normalizedAmount input
  let exponent := currencyExponent currency
  let whole := normalized.takeWhile (· ≠ '.')
  let fraction := (normalized.dropWhile (· ≠ '.')).drop 1
  let minorAmount := dropLeadingZeros (whole ++ (padEnd exponent fraction).take exponent)
  if isCurrency currency = false then
    .error "The currency of this payment is unavailable."
  else if normalized.length = 0 ∨ isDecimalAmount normalized = false then
    .error "Enter an amount, such as 12.34."
  else if exponent < fraction.length ∧
      exponent < (fraction.rdropWhile (· = '0')).length then
    if exponent = 0 then
      .error (currency.toUpper ++ " amounts cannot have decimals.")
    else
      .error (currency.toUpper ++ " amounts cannot have more than " ++ toString exponent ++
        " decimals.")
  else if isMinorAmount minorAmount = false then
    .error "Enter an amount, such as 12.34."
  else if minorAmount = ['0'] then
    .error "Enter an amount greater than zero."
  else
    .minorAmount (String.ofList minorAmount)

section Grammar

-- Digits, and after a point more digits.
inductive IsDecimal : List Char → List Char → List Char → Prop
  | whole {whole : List Char} :
    IsDigits whole → whole ≠ [] → IsDecimal whole whole []
  | point {whole fraction : List Char} :
    IsDigits whole → whole ≠ [] → IsDigits fraction → fraction ≠ [] →
    IsDecimal (whole ++ '.' :: fraction) whole fraction

-- The value of the digits before and after the point.
def decimalValue (whole fraction : List Char) : ℚ :=
  value whole + value fraction / 10 ^ fraction.length

variable {text whole fraction : List Char}

theorem IsDecimal.digits (h : IsDecimal text whole fraction) :
    IsDigits whole ∧ whole ≠ [] ∧ IsDigits fraction := by
  cases h with
  | whole hwhole hne             => exact ⟨hwhole, hne, isDigits_nil⟩
  | point hwhole hne hfraction _ => exact ⟨hwhole, hne, hfraction⟩

theorem ne_point_of_isDigits (h : IsDigits whole) : ∀ c ∈ whole, decide (c ≠ '.') = true := by
  intro c hc
  rw [decide_eq_true_eq]
  rintro rfl
  exact absurd (h _ hc) (by decide)

-- The parts of a decimal are the ones that `indexOf` and `slice` give.
theorem IsDecimal.parts (h : IsDecimal text whole fraction) :
    text.takeWhile (· ≠ '.') = whole ∧ (text.dropWhile (· ≠ '.')).drop 1 = fraction := by
  cases h with
  | whole hwhole _ =>
    have hall := ne_point_of_isDigits hwhole
    rw [List.takeWhile_eq_self_iff.mpr hall, List.dropWhile_eq_nil_iff.mpr hall]
    exact ⟨rfl, rfl⟩
  | point hwhole _ _ _ =>
    have hall := ne_point_of_isDigits hwhole
    rw [List.takeWhile_append_of_pos hall, List.dropWhile_append_of_pos hall]
    simp

theorem isDecimalAmount_iff :
    isDecimalAmount text ↔ ∃ whole fraction, IsDecimal text whole fraction := by
  constructor
  · intro h
    have hsplit : (text.span Char.isDigit).1 ++ (text.span Char.isDigit).2 = text := by
      rw [List.span_eq_takeWhile_dropWhile]
      exact List.takeWhile_append_dropWhile
    have hdigits : IsDigits (text.span Char.isDigit).1 := by
      rw [List.span_eq_takeWhile_dropWhile]
      exact fun c hc => List.mem_takeWhile_imp hc
    unfold isDecimalAmount at h
    split at h
    case h_1 whole heq =>
      rw [heq, List.append_nil] at hsplit
      rw [heq] at hdigits
      exact ⟨whole, [], hsplit ▸ .whole hdigits (of_decide_eq_true h)⟩
    case h_2 whole fraction heq =>
      rw [heq] at hsplit hdigits
      obtain ⟨hwhole, hfraction, hall⟩ := of_decide_eq_true h
      exact ⟨whole, fraction, hsplit ▸ .point hdigits hwhole (List.all_eq_true.mp hall) hfraction⟩
    case h_3 => cases h
  · rintro ⟨whole, fraction, h⟩
    unfold isDecimalAmount
    rw [List.span_eq_takeWhile_dropWhile]
    cases h with
    | whole hwhole hne =>
      rw [List.takeWhile_eq_self_iff.mpr hwhole, List.dropWhile_eq_nil_iff.mpr hwhole]
      simpa using hne
    | point hwhole hne hfraction hne' =>
      rw [List.takeWhile_append_of_pos hwhole, List.dropWhile_append_of_pos hwhole]
      have hdot : Char.isDigit '.' = false := rfl
      have hall : fraction.all Char.isDigit := List.all_eq_true.mpr hfraction
      simp [hdot, hne, hne', hall]

theorem isMinorAmount_iff : isMinorAmount text ↔ IsCanonical text := by
  constructor
  · intro h
    unfold isMinorAmount at h
    split at h
    case h_1 => decide
    case h_2 c cs _ =>
      simp only [Bool.and_eq_true, decide_eq_true_eq, List.all_eq_true] at h
      obtain ⟨⟨hlow, hhigh⟩, hdigits⟩ := h
      have hdigit : c.isDigit := by
        have hzero : '0' ≤ c := Char.le_trans (show '0' ≤ '1' by decide) hlow
        simp only [Char.isDigit, Bool.and_eq_true, decide_eq_true_eq]
        exact ⟨hzero, hhigh⟩
      refine ⟨isDigits_cons.mpr ⟨hdigit, hdigits⟩, by simp, fun hhead => ?_⟩
      obtain rfl := Option.some.inj hhead
      exact absurd hlow (by decide)
    case h_3 => cases h
  · rintro ⟨hdigits, hne, hleading⟩
    unfold isMinorAmount
    split
    case h_1 => rfl
    case h_2 c cs hnot =>
      rw [isDigits_cons] at hdigits
      have hc : c ≠ '0' := by
        rintro rfl
        exact hnot rfl (List.cons_eq_cons.mp (hleading rfl)).2
      have hrange := toNat_of_isDigit hdigits.1
      have hlow : '1' ≤ c := by
        by_contra hlt
        have hlt : c.toNat < '1'.toNat := not_le.mp hlt
        exact hc (Char.toNat_inj.mp (le_antisymm (Nat.le_of_lt_succ hlt) hrange.1))
      have hall : cs.all Char.isDigit := List.all_eq_true.mpr hdigits.2
      simp only [hlow, decide_true, Bool.true_and, hall, Bool.and_true, decide_eq_true_eq]
      exact hrange.2
    case h_3 => exact absurd rfl hne

end Grammar

section Scaling

variable {whole fraction cs : List Char} {exponent : Nat}

-- The digits that are left without the zeros at the end reach beyond the exponent only if one of
-- those beyond it is not zero.
theorem length_rdropWhile_le : (fraction.rdropWhile (· = '0')).length ≤ exponent ↔
    ∀ c ∈ fraction.drop exponent, c = '0' := by
  induction fraction using List.reverseRecOn with
  | nil => simp
  | append_singleton fraction c ih =>
    by_cases hc : c = '0'
    · rw [List.rdropWhile_concat_pos _ _ _ (by simpa using hc), ih, List.drop_append]
      simp only [List.mem_append, or_imp, forall_and]
      exact ⟨fun h => ⟨h, fun c' hc' => by
        simpa [hc] using List.mem_of_mem_drop hc'⟩, fun h => h.1⟩
    · rw [List.rdropWhile_concat_neg _ _ _ (by simpa using hc)]
      constructor
      · intro hlength
        rw [List.drop_eq_nil_of_le hlength]
        simp
      · intro hzeros
        by_contra hlength
        rw [List.length_append, List.length_singleton, not_le, Nat.lt_succ_iff] at hlength
        rw [List.drop_append_of_le_length hlength] at hzeros
        exact hc (hzeros c (by simp))

theorem eq_replicate_zero (h : ∀ c ∈ cs, c = '0') : cs = List.replicate cs.length '0' :=
  List.eq_replicate_iff.mpr ⟨rfl, h⟩

theorem isDigits_padEnd (h : IsDigits fraction) :
    IsDigits ((padEnd exponent fraction).take exponent) := by
  intro c hc
  have hmem := List.mem_of_mem_take hc
  exact (isDigits_append.mpr ⟨h, isDigits_replicate_zero⟩) c hmem

-- The digits up to the exponent are the ones of the scaled value.
theorem value_scaled (hzeros : ∀ c ∈ fraction.drop exponent, c = '0') :
    (value (whole ++ (padEnd exponent fraction).take exponent) : ℚ) =
      decimalValue whole fraction * 10 ^ exponent := by
  unfold decimalValue
  rcases le_total fraction.length exponent with hle | hle
  · obtain ⟨rest, rfl⟩ := Nat.exists_eq_add_of_le hle
    have htake : (padEnd (fraction.length + rest) fraction).take (fraction.length + rest) =
        fraction ++ List.replicate rest '0' := by
      rw [padEnd, Nat.add_sub_cancel_left]
      exact List.take_of_length_le (by simp)
    rw [htake, value_append, value_append, value_replicate_zero, List.length_append,
      List.length_replicate]
    push_cast
    rw [pow_add]
    field_simp
    ring
  · obtain ⟨rest, hrest⟩ := Nat.exists_eq_add_of_le hle
    have htake : (padEnd exponent fraction).take exponent = fraction.take exponent := by
      rw [padEnd, Nat.sub_eq_zero_of_le hle, List.replicate_zero, List.append_nil]
    have hdrop : fraction.drop exponent = List.replicate rest '0' := by
      rw [eq_replicate_zero hzeros, List.length_drop, hrest, Nat.add_sub_cancel_left]
    have hfraction : value fraction = value (fraction.take exponent) * 10 ^ rest := by
      have hsplit := value_append (fraction.take exponent) (fraction.drop exponent)
      rw [List.take_append_drop, hdrop, value_replicate_zero, List.length_replicate] at hsplit
      exact hsplit
    rw [htake, value_append, List.length_take, min_eq_left hle, hfraction, hrest]
    push_cast
    rw [pow_add]
    field_simp

end Scaling

section Parse

variable {input currency minorAmount : String} {whole fraction : List Char}

theorem decimalValue_nonneg : 0 ≤ decimalValue whole fraction := by
  unfold decimalValue
  positivity

-- The amount that the text of a decimal denotes in minor units.
theorem dropLeadingZeros_scaled {text : List Char} (h : IsDecimal text whole fraction)
    (hzeros : ∀ c ∈ fraction.drop (currencyExponent currency), c = '0') :
    let exponent := currencyExponent currency
    let digits := dropLeadingZeros (whole ++ (padEnd exponent fraction).take exponent)
    IsCanonical digits ∧ (value digits : ℚ) = decimalValue whole fraction * 10 ^ exponent := by
  obtain ⟨hwhole, hne, hfraction⟩ := h.digits
  intro exponent digits
  obtain ⟨hcanonical, hvalue⟩ := dropLeadingZeros_spec
    (isDigits_append.mpr ⟨hwhole, isDigits_padEnd hfraction⟩)
    (List.append_ne_nil_of_left_ne_nil hne ((padEnd exponent fraction).take exponent))
  refine ⟨hcanonical, ?_⟩
  rw [← value_scaled hzeros]
  exact congrArg Nat.cast hvalue

-- The accepted texts are the positive decimals that the currency can express.
theorem parseAmountToMinor_eq_minorAmount :
    parseAmountToMinor input currency = .minorAmount minorAmount ↔
      isCurrency currency ∧ ∃ whole fraction,
        IsDecimal (normalizedAmount input) whole fraction ∧
        0 < decimalValue whole fraction ∧
        (∀ c ∈ fraction.drop (currencyExponent currency), c = '0') ∧
        IsCanonical minorAmount.toList ∧
        (value minorAmount.toList : ℚ) =
          decimalValue whole fraction * 10 ^ currencyExponent currency := by
  constructor
  · intro h
    unfold parseAmountToMinor at h
    dsimp only at h
    split_ifs at h with hcurrency htext hlong _ hminor hzero
    rw [not_or, Bool.not_eq_false, isDecimalAmount_iff] at htext
    obtain ⟨-, whole, fraction, hdecimal⟩ := htext
    obtain ⟨hwhole, hfraction⟩ := hdecimal.parts
    rw [hwhole, hfraction] at h hzero
    rw [hfraction] at hlong
    have hzeros : ∀ c ∈ fraction.drop (currencyExponent currency), c = '0' := by
      rw [← length_rdropWhile_le]
      by_contra hlt
      have hle := (List.rdropWhile_prefix (· = '0') fraction).length_le
      exact hlong ⟨(not_le.mp hlt).trans_le hle, not_le.mp hlt⟩
    obtain ⟨hcanonical, hvalue⟩ := dropLeadingZeros_scaled hdecimal hzeros
    obtain rfl := ParsedAmount.minorAmount.inj h
    rw [String.toList_ofList]
    refine ⟨by simpa using hcurrency, whole, fraction, hdecimal, ?_, hzeros, hcanonical, hvalue⟩
    refine decimalValue_nonneg.lt_of_ne fun hnone => hzero ?_
    rw [← hnone, zero_mul, Nat.cast_eq_zero] at hvalue
    exact hcanonical.value_eq_zero.mp hvalue
  · rintro ⟨hcurrency, whole, fraction, hdecimal, hpos, hzeros, hcanonical, hvalue⟩
    obtain ⟨hwhole, hfraction⟩ := hdecimal.parts
    obtain ⟨hcanonical', hvalue'⟩ := dropLeadingZeros_scaled hdecimal hzeros
    have hdigits : dropLeadingZeros (whole ++ (padEnd (currencyExponent currency) fraction).take
        (currencyExponent currency)) = minorAmount.toList :=
      hcanonical'.eq hcanonical (Nat.cast_injective (hvalue'.trans hvalue.symm))
    have htext : ¬((normalizedAmount input).length = 0 ∨
        isDecimalAmount (normalizedAmount input) = false) := by
      rw [not_or, Bool.not_eq_false, isDecimalAmount_iff]
      refine ⟨fun hempty => ?_, whole, fraction, hdecimal⟩
      rw [List.length_eq_zero_iff] at hempty
      rw [hempty, List.takeWhile_nil] at hwhole
      exact hdecimal.digits.2.1 hwhole.symm
    have hshort : ¬(currencyExponent currency < fraction.length ∧
        currencyExponent currency < (fraction.rdropWhile (· = '0')).length) :=
      fun hlong => absurd (length_rdropWhile_le.mpr hzeros) (not_le.mpr hlong.2)
    have hminor : ¬isMinorAmount minorAmount.toList = false := by
      rw [Bool.not_eq_false, isMinorAmount_iff]
      exact hcanonical
    have hnonzero : minorAmount.toList ≠ ['0'] := by
      intro hzero
      rw [hzero] at hvalue
      have hscaled : 0 < decimalValue whole fraction * 10 ^ currencyExponent currency := by
        positivity
      rw [← hvalue] at hscaled
      exact absurd hscaled (by decide)
    unfold parseAmountToMinor
    dsimp only
    rw [hwhole, hfraction, hdigits, if_neg (by simp [hcurrency]), if_neg htext, if_neg hshort,
      if_neg hminor, if_neg hnonzero, String.ofList_toList]

theorem plain_of_isDigit {c : Char} (h : c.isDigit) : isWhiteSpace c = false ∧ c ≠ ',' := by
  obtain ⟨hlow, hhigh⟩ := toNat_of_isDigit h
  have hlow : 48 ≤ c.toNat := hlow
  have hhigh : c.toNat ≤ 57 := hhigh
  rw [← Char.ofNat_toNat c]
  generalize c.toNat = n at hlow hhigh
  interval_cases n <;> decide

-- A text of digits and points is its own normal form.
theorem normalizedAmount_eq_self {text : List Char} (h : ∀ c ∈ text, c.isDigit ∨ c = '.') :
    normalizedAmount (String.ofList text) = text := by
  have hplain : ∀ c ∈ text, isWhiteSpace c = false ∧ c ≠ ',' := by
    intro c hc
    rcases h c hc with hdigit | rfl
    · exact plain_of_isDigit hdigit
    · decide
  have hfilter : text.filter (fun c => isWhiteSpace c = false) = text :=
    List.filter_eq_self.mpr fun c hc => decide_eq_true (hplain c hc).1
  have hcomma : ∀ c ∈ text, decide (c ≠ ',') = true :=
    fun c hc => decide_eq_true (hplain c hc).2
  unfold normalizedAmount
  simp only [String.toList_ofList, hfilter]
  rw [List.span_eq_takeWhile_dropWhile, List.takeWhile_eq_self_iff.mpr hcomma,
    List.dropWhile_eq_nil_iff.mpr hcomma]

theorem value_padStart (n : Nat) (cs : List Char) : value (padStart n cs) = value cs := by
  rw [padStart, value_append, value_replicate_zero, zero_mul, zero_add]

-- What `formatMinorAsDecimal` writes, with as many digits after the point as the exponent says.
theorem isDecimal_formatMinorAsDecimal {m : String} (hcurrency : isCurrency currency)
    (hcanonical : IsCanonical m.toList) :
    ∃ whole fraction, IsDecimal (formatMinorAsDecimal m currency).toList whole fraction ∧
      fraction.length = currencyExponent currency ∧
      value whole * 10 ^ fraction.length + value fraction = value m.toList := by
  have hformat : ¬(isMinorAmount m.toList = false ∨ isCurrency currency = false) := by
    rw [not_or, Bool.not_eq_false, Bool.not_eq_false, isMinorAmount_iff]
    exact ⟨hcanonical, hcurrency⟩
  unfold formatMinorAsDecimal
  rw [if_neg hformat]
  split_ifs with hzero
  · exact ⟨m.toList, [], .whole hcanonical.digits hcanonical.ne_nil, hzero.symm, by simp⟩
  · generalize hexponent : currencyExponent currency = exponent at hzero
    have hdigits : IsDigits (padStart (exponent + 1) m.toList) :=
      isDigits_append.mpr ⟨isDigits_replicate_zero, hcanonical.digits⟩
    have hlength : exponent + 1 ≤ (padStart (exponent + 1) m.toList).length := by
      simp only [padStart, List.length_append, List.length_replicate]
      omega
    have hvalue := value_padStart (exponent + 1) m.toList
    dsimp only
    generalize padStart (exponent + 1) m.toList = padded at hdigits hlength hvalue ⊢
    have hsplit := List.take_append_drop (padded.length - exponent) padded
    rw [← hsplit, isDigits_append] at hdigits
    have hfraction : (padded.drop (padded.length - exponent)).length = exponent := by
      rw [List.length_drop]
      omega
    rw [String.toList_ofList]
    refine ⟨_, _, .point hdigits.1 ?_ hdigits.2 ?_, hfraction, ?_⟩
    · rw [← List.length_pos_iff, List.length_take]
      omega
    · rw [← List.length_pos_iff, hfraction]
      exact Nat.pos_of_ne_zero hzero
    · rw [← value_append, hsplit, hvalue]

theorem IsDecimal.digits_or_point {text : List Char} (h : IsDecimal text whole fraction) :
    ∀ c ∈ text, c.isDigit ∨ c = '.' := by
  intro c hc
  cases h with
  | whole hwhole _ => exact .inl (hwhole c hc)
  | point hwhole _ hfraction _ =>
    rcases List.mem_append.mp hc with hc | hc
    · exact .inl (hwhole c hc)
    · rcases List.mem_cons.mp hc with rfl | hc
      · exact .inr rfl
      · exact .inl (hfraction c hc)

theorem parse_formatMinorAsDecimal {m : String} (hcurrency : isCurrency currency)
    (hcanonical : IsCanonical m.toList) (hpos : 0 < value m.toList) :
    parseAmountToMinor (formatMinorAsDecimal m currency) currency = .minorAmount m := by
  obtain ⟨whole, fraction, hdecimal, hlength, hvalue⟩ :=
    isDecimal_formatMinorAsDecimal hcurrency hcanonical
  have hnormalized : normalizedAmount (formatMinorAsDecimal m currency) =
      (formatMinorAsDecimal m currency).toList := by
    have hself := normalizedAmount_eq_self hdecimal.digits_or_point
    rwa [String.ofList_toList] at hself
  have hscaled : (value m.toList : ℚ) =
      decimalValue whole fraction * 10 ^ currencyExponent currency := by
    rw [← hlength, ← hvalue, decimalValue]
    push_cast
    field_simp
  have hdecimalPos : 0 < decimalValue whole fraction := by
    refine decimalValue_nonneg.lt_of_ne fun hnone => ?_
    rw [← hnone, zero_mul, Nat.cast_eq_zero] at hscaled
    exact absurd hscaled hpos.ne'
  rw [parseAmountToMinor_eq_minorAmount, hnormalized]
  refine ⟨hcurrency, whole, fraction, hdecimal, hdecimalPos, ?_, hcanonical, hscaled⟩
  rw [List.drop_eq_nil_of_le hlength.le]
  simp

end Parse

-- Texts and amounts correspond exactly.
theorem money_round_trip :
    (∀ input currency minorAmount,
      parseAmountToMinor input currency = .minorAmount minorAmount ↔
        isCurrency currency ∧ ∃ whole fraction,
          IsDecimal (normalizedAmount input) whole fraction ∧
          0 < decimalValue whole fraction ∧
          (∀ c ∈ fraction.drop (currencyExponent currency), c = '0') ∧
          IsCanonical minorAmount.toList ∧
          (value minorAmount.toList : ℚ) =
            decimalValue whole fraction * 10 ^ currencyExponent currency) ∧
    ∀ m currency, isCurrency currency → IsCanonical m.toList → 0 < value m.toList →
      parseAmountToMinor (formatMinorAsDecimal m currency) currency = .minorAmount m :=
  ⟨fun _ _ _ => parseAmountToMinor_eq_minorAmount,
    fun _ _ hcurrency hcanonical hpos => parse_formatMinorAsDecimal hcurrency hcanonical hpos⟩

theorem money_round_trip_kwd :
    parseAmountToMinor (formatMinorAsDecimal "50" "kwd") "kwd" = .minorAmount "50" :=
  money_round_trip.2 "50" "kwd" (by decide) (by decide) (by decide)

example : formatMinorAsDecimal "50" "kwd" = "0.050" := by decide +kernel

example : parseAmountToMinor " 1 234,500" "usd" = .minorAmount "123450" := by decide +kernel

end RefundDesk
