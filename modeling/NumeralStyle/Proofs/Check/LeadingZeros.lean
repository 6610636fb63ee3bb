import NumeralStyle.Proofs.Check.Following
import NumeralStyle.Proofs.Literal.Value

/-! Leading zeros and their two readings. A report has one finding on them where the literal is a
decimal integer that starts with a zero and is none, and no such finding otherwise. The first
suggestion spells the same number in base ten; a second one, which there is where no digit is an eight
or a nine, spells in base eight the number that the digits denote there
(`ofToken_zeroPrefixed`). -/
namespace NumeralStyle.Check
open Literal

/-- A decimal integer with a zero in front that says nothing about its value. -/
structure IsZeroPrefixedInteger (literal : Literal) : Prop where
  radix : literal.radix = .decimal
  kind : literal.kind = .integer
  starts : literal.digits.head? = some '0'
  value : literal.valueIn .decimal ≠ 0

/-- A literal that reads the digits of another one in a base: an integer of that base without leading
zeros, of the value that the digits have there. -/
structure ReadsIn (base : Radix) (literal fixed : Literal) : Prop where
  radix : fixed.radix = base
  kind : fixed.kind = .integer
  known : fixed.unrecognizedSuffix = none
  /-- The suffix is the same, and so is whether it is separated. -/
  suffix : fixed.suffix = literal.suffix
  starts : fixed.digits.head? ≠ some '0'
  value : fixed.valueIn base = literal.valueIn base

/-- Whether a spelling is that of a reading in a base. -/
def SpellsIn (base : Radix) (literal : Literal) (spelling : Text) : Prop :=
  ∃ fixed, parse spelling = .ok fixed ∧ ReadsIn base literal fixed

/-- Suggestions about leading zeros: the decimal reading, and behind it the octal one unless there is a
digit too high for that. -/
inductive Readings (literal : Literal) : List Text → Prop
  | decimal {first : Text} {c : Char} : c ∈ literal.digits → c = '8' ∨ c = '9' →
      SpellsIn .decimal literal first → Readings literal [first]
  | octal {first second : Text} : (∀ c ∈ literal.digits, c ≠ '8' ∧ c ≠ '9') →
      SpellsIn .decimal literal first → SpellsIn .octal literal second →
      Readings literal [first, second]

variable {widths : Widths} {literal : Literal} {advice : Advice}

/-! ## When leading zeros are minded -/

/-- A decimal digit stands for more than zero just where it is one of the digits one to nine. -/
theorem hexValue?_ne_zero_iff {c : Char} (digit : Radix.decimal.isDigit c = true) :
    (Text.hexValue? c).getD 0 ≠ 0 ↔ '1' ≤ c ∧ c ≤ '9' := by
  have listed : ∀ d ∈ Radix.decimal.digits,
      (Text.hexValue? d).getD 0 ≠ 0 ↔ '1' ≤ d ∧ d ≤ '9' := by decide
  exact listed c (Radix.mem_of_isDigit digit)

/-- Decimal digits that start with a zero are minded just where they do not denote zero. -/
theorem isZeroPrefixed_iff {digits : Text}
    (decimal : ∀ c ∈ digits, Radix.decimal.isDigit c = true) :
    isZeroPrefixed digits = true ↔
      digits.head? = some '0' ∧ Toml.ofDigits Radix.decimal.base digits ≠ 0 := by
  have some : (digits.any fun c => '1' ≤ c && c ≤ '9') = true ↔
      Toml.ofDigits Radix.decimal.base digits ≠ 0 := by
    rw [Ne, Toml.ofDigits_eq_zero_iff Radix.decimal.base_pos, List.any_eq_true]
    simp only [Classical.not_forall, exists_prop]
    apply exists_congr
    intro c
    apply and_congr_right
    intro member
    rw [← Ne, hexValue?_ne_zero_iff (decimal c member), Bool.and_eq_true, decide_eq_true_eq,
      decide_eq_true_eq]
  rw [isZeroPrefixed, Bool.and_eq_true, beq_iff_eq, some]

/-- Leading zeros are minded where they are those of a decimal integer that is not zero. -/
theorem hasLeadingZero_iff (valid : literal.toPieces.Valid literal.radix)
    (ends : literal.tail = []) : HasLeadingZero literal ↔ IsZeroPrefixedInteger literal := by
  constructor
  · rintro ⟨radix, integer, zero⟩
    have decimal := isDecimal_of_mem_digits valid ends radix
    obtain ⟨starts, value⟩ := (isZeroPrefixed_iff decimal).mp zero
    exact ⟨radix, integer, starts, value⟩
  · rintro ⟨radix, integer, starts, value⟩
    have decimal := isDecimal_of_mem_digits valid ends radix
    exact ⟨radix, integer, (isZeroPrefixed_iff decimal).mpr ⟨starts, value⟩⟩

theorem countP_eq_one (zero : HasLeadingZero literal) :
    (literal.advice widths).countP (·.kind == .zeroPrefixed) = 1 := by
  have minded : (leadingZero literal).isSome = true := by
    unfold leadingZero
    rw [if_pos ⟨zero.radix, zero.kind, zero.zero⟩]
    rfl
  rw [countP_kind leadingZero_gives, if_pos minded]

theorem countP_eq_zero (clean : ¬ HasLeadingZero literal) :
    (literal.advice widths).countP (·.kind == .zeroPrefixed) = 0 := by
  rw [countP_kind leadingZero_gives, leadingZero_eq_none clean]
  rfl

/-! ## The two readings -/

theorem readsIn_trimmed (base : Radix) (zero : HasLeadingZero literal) (ends : literal.tail = []) :
    ReadsIn base literal (literal.trimmed base) where
  radix := rfl
  kind := zero.kind
  known := unrecognizedSuffix_eq_none_iff.mpr ends
  suffix := rfl
  starts := head?_digits_trimmed base zero ends
  value := by
    rw [valueIn, digits_trimmed base zero ends, Toml.ofDigits_dropWhile_zero]
    rfl

/-- What a fix of leading zeros spells reads the digits in its base. -/
theorem spellsIn_trimmed {base : Radix} (zero : HasLeadingZero literal)
    (read : parse literal.raw = .ok literal) (ends : literal.tail = [])
    (fix : Fix .default literal .zeroPrefixed (literal.trimmed base)) :
    SpellsIn base literal (literal.trimmed base).raw :=
  ⟨_, fix.parse_eq_ok read ends, readsIn_trimmed base zero ends⟩

theorem readings_leadingZero (read : parse literal.raw = .ok literal) (ends : literal.tail = [])
    (found : leadingZero literal = some advice) : Readings literal advice.suggestions := by
  obtain ⟨zero, -, suggestions⟩ := leadingZero_eq_some found
  have decimal : SpellsIn .decimal literal (literal.trimmed .decimal).raw :=
    spellsIn_trimmed zero read ends (.decimal zero)
  rw [suggestions]
  split
  · rename_i high
    obtain ⟨c, member, large⟩ := List.any_eq_true.mp high
    apply Readings.decimal member _ decimal
    simpa using large
  · rename_i high
    have low := low_of_not_any high
    exact .octal low decimal (spellsIn_trimmed zero read ends (.octal zero low))

end NumeralStyle.Check

namespace NumeralStyle.Report
open Literal Check

variable {widths : Widths} {literal : Literal} {raw : Text}

/-- A decimal literal has a report, unless the width of its groups cannot be written. -/
theorem exists_ofToken_of_decimal [Platform] (read : parse raw = .ok literal)
    (radix : literal.radix = .decimal)
    (writable : Oversize.ofNumeral? widths.decimal = none) (place : Span) :
    ∃ report, ofToken widths ⟨raw, place⟩ = .ok report := by
  have fits : groupingOversize? widths literal = none := by
    have width : widths.of literal.radix = widths.decimal := by rw [radix, Widths.of, if_pos rfl]
    apply Option.bind_eq_none_iff.mpr
    intro kind _
    dsimp only
    rw [width, if_pos radix, writable, Option.none_or]
  exact ⟨⟨literal, place, (literal.advice widths).map (·.at place)⟩,
    ofToken_eq_ok_iff.mpr ⟨read, fits, rfl, rfl⟩⟩

/-- A report has one finding on leading zeros where the literal is a decimal integer that starts with
a zero and is none, and otherwise no such finding; its suggestions are the readings of the digits. -/
theorem ofToken_zeroPrefixed [Platform] (read : parse raw = .ok literal)
    (known : literal.unrecognizedSuffix = none) (widths : Widths) (place : Span) :
    (literal.radix = .decimal → Oversize.ofNumeral? widths.decimal = none →
      ∃ report, ofToken widths ⟨raw, place⟩ = .ok report) ∧
    ∀ report, ofToken widths ⟨raw, place⟩ = .ok report →
      (IsZeroPrefixedInteger literal → report.findings.countP (·.kind == .zeroPrefixed) = 1) ∧
      (¬ IsZeroPrefixedInteger literal → report.findings.countP (·.kind == .zeroPrefixed) = 0) ∧
      ∀ finding ∈ report.findings, finding.kind = .zeroPrefixed →
        Readings literal finding.suggestions := by
  have ends := unrecognizedSuffix_eq_none_iff.mp known
  have minded := hasLeadingZero_iff (valid_of_parse read) ends
  refine ⟨fun radix writable => exists_ofToken_of_decimal read radix writable place, ?_⟩
  intro report reported
  obtain ⟨again, -, -, findings⟩ := ofToken_eq_ok_iff.mp reported
  obtain rfl : literal = report.literal := Except.ok.inj (read.symm.trans again)
  have count : report.findings.countP (·.kind == .zeroPrefixed) =
      (report.literal.advice widths).countP (·.kind == .zeroPrefixed) := by
    rw [findings, List.countP_map]
    rfl
  rw [count]
  refine ⟨fun zero => countP_eq_one (minded.mpr zero),
    fun clean => countP_eq_zero fun zero => clean (minded.mp zero), ?_⟩
  intro finding among zeros
  rw [findings] at among
  obtain ⟨advice, given, rfl⟩ := List.mem_map.mp among
  exact readings_leadingZero (parse_literal reported) ends ((eq_some_of_mem_advice given).2.2 zeros)

/-- Octal digits between a zero and a suffix, with a separator on either side: both a decimal and an
octal reading are suggested. -/
theorem ofToken_zeroPrefixed_octal :
    ∃ literal, parse ['0', '_', '1', '7', '_', 'u', '8'] = .ok literal ∧
      literal.unrecognizedSuffix = none ∧ IsZeroPrefixedInteger literal ∧
      ∃ report, ofToken .default
          ⟨['0', '_', '1', '7', '_', 'u', '8'], Span.ofText ['0', '_', '1', '7', '_', 'u', '8']⟩ =
            .ok report ∧
        report.findings.countP (·.kind == .zeroPrefixed) = 1 ∧
        ∀ finding ∈ report.findings, finding.kind = .zeroPrefixed →
          Readings literal finding.suggestions := by
  have zero : ∃ literal, parse ['0', '_', '1', '7', '_', 'u', '8'] = .ok literal ∧
      literal.unrecognizedSuffix = none ∧ IsZeroPrefixedInteger literal :=
    ⟨_, rfl, rfl, ⟨rfl, rfl, rfl, by decide⟩⟩
  obtain ⟨literal, read, known, zero⟩ := zero
  obtain ⟨given, each⟩ :=
    ofToken_zeroPrefixed read known .default (Span.ofText ['0', '_', '1', '7', '_', 'u', '8'])
  obtain ⟨report, reported⟩ := given zero.radix (by decide +kernel)
  obtain ⟨once, -, readings⟩ := each report reported
  exact ⟨literal, read, known, zero, report, reported, once zero, readings⟩

end NumeralStyle.Report
