import NumeralStyle.Proofs.Literal.Groups
import NumeralStyle.Proofs.Literal.Reading

/-! Literals of which nothing is left unread. Their pieces end with the exponent, so a spelling made
of valid pieces and a suffix that can stand behind them is read as just those
(`parse_eq_ok_of_spelled`). -/
namespace NumeralStyle.Literal
open Text

theorem unrecognizedSuffix_eq_none_iff {literal : Literal} :
    literal.unrecognizedSuffix = none ↔ literal.tail = [] := by
  simp [unrecognizedSuffix]

theorem unrecognizedSuffix_of_tail {literal : Literal} (tailed : literal.tail ≠ []) :
    literal.unrecognizedSuffix = some literal.tail := by
  simp [unrecognizedSuffix, tailed]

/-! ## Spellings -/

theorem suffixText_of_none {literal : Literal} (unsuffixed : literal.suffix = none) : literal.suffixText = [] := by
  rw [suffixText, unsuffixed]
  rfl

theorem mem_body {literal : Literal} (valid : literal.toPieces.Valid literal.radix)
    (ends : literal.tail = []) {c : Char} (member : c ∈ literal.body) :
    isDigitOrSeparator literal.radix c = true ∨ c ∈ ['.', 'e', 'E', '+', '-'] := by
  rw [body, ends, List.append_nil] at member
  exact core_chars valid c member

/-- Pieces without a tail end before any suffix. -/
theorem find?_body {literal : Literal} (valid : literal.toPieces.Valid literal.radix)
    (ends : literal.tail = []) : Suffix.find? literal.radix literal.body = none := by
  cases found : Suffix.find? literal.radix literal.body with
  | none => rfl
  | some suffix =>
    obtain ⟨allowed, stem, -, same⟩ := Suffix.find?_eq_some_iff.mp found
    obtain ⟨c, rest, text⟩ := List.exists_cons_of_ne_nil (Suffix.text_ne_nil suffix)
    have member : c ∈ literal.body := by
      rw [same, text]
      simp
    exact absurd (mem_body valid ends member) (suffix_head allowed c (by simp [text]))

/-- No character of a decimal literal that is read throughout is the letter of a lead. -/
theorem mem_spelled {literal : Literal} (valid : literal.toPieces.Valid literal.radix)
    (ends : literal.tail = []) (base : literal.radix = .decimal) {c : Char}
    (member : c ∈ literal.body ++ literal.suffixText) : c ∉ ['x', 'o', 'b'] := by
  have outside : ∀ d ∈ ['x', 'o', 'b'],
      ¬ (isDigitOrSeparator .decimal d = true ∨ d ∈ ['.', 'e', 'E', '+', '-']) ∧
        ∀ suffix ∈ Suffix.longestFirst, d ∉ separator :: suffix.text := by decide
  intro lead
  obtain ⟨notBody, notSuffix⟩ := outside c lead
  rcases List.mem_append.mp member with inBody | inSuffix
  · have inside := mem_body valid ends inBody
    rw [base] at inside
    exact notBody inside
  · cases suffixed : literal.suffix with
    | none => simp [suffixText, suffixed] at inSuffix
    | some written =>
      refine notSuffix written.suffix (Suffix.mem_longestFirst _) ?_
      simp only [suffixText, suffixed, Option.map_some, Option.getD_some, WrittenSuffix.text] at inSuffix
      split at inSuffix <;> simp_all

theorem exists_mem_lead {radix : Radix} (base : radix ≠ .decimal) :
    ∃ c ∈ ['x', 'o', 'b'], c ∈ radix.lead := by
  cases radix with
  | decimal => exact absurd rfl base
  | hex => exact ⟨'x', by decide, by decide⟩
  | octal => exact ⟨'o', by decide, by decide⟩
  | binary => exact ⟨'b', by decide, by decide⟩

theorem split_spelled {literal : Literal} (valid : literal.toPieces.Valid literal.radix)
    (ends : literal.tail = []) :
    Radix.split (literal.radix.lead ++ (literal.body ++ literal.suffixText)) =
      (literal.radix, literal.body ++ literal.suffixText) := by
  by_cases base : literal.radix = .decimal
  · rw [base]
    refine Radix.split_decimal_iff.mpr fun radix other leads => ?_
    obtain ⟨c, lead, member⟩ := exists_mem_lead other
    exact mem_spelled valid ends base (leads.subset member) lead
  · exact Radix.split_lead_append base _

theorem body_ne_nil {literal : Literal} (valid : literal.toPieces.Valid literal.radix) :
    literal.body ≠ [] := by
  obtain ⟨c, first, -⟩ := valid.digit
  rw [body]
  simp [List.ne_nil_of_mem first]

/-- Valid and maximal pieces, behind a lead that is theirs and with a suffix that can follow them, are
read as they are, whatever number of separators is before the suffix. -/
theorem parse_eq_ok_of_ending (literal : Literal) {ending : Text}
    (ends : Ending literal.suffix ending) (valid : literal.toPieces.Valid literal.radix)
    (maximal : literal.toPieces.Maximal literal.radix)
    (bare : literal.suffix = none → Suffix.find? literal.radix literal.body = none)
    (suffixed : ∀ written ∈ literal.suffix, written.suffix.Allowed literal.radix ∧
      literal.body.getLast? ≠ some separator)
    (base : Radix.split literal.raw = (literal.radix, literal.body ++ ending)) :
    parse literal.raw = .ok literal := by
  have cut := ends.cut (body_ne_nil valid) bare suffixed
  exact parse_eq_ok_iff.mpr ⟨rfl, literal.body ++ ending, base, cut, valid, maximal⟩

theorem ending_suffixText (literal : Literal) : Ending literal.suffix literal.suffixText := by
  unfold suffixText
  rcases literal.suffix with - | ⟨suffix, separated⟩
  · exact .none
  · cases separated with
    | false => exact .glued suffix
    | true => exact .separated 0 suffix

theorem parse_eq_ok_of_pieces (literal : Literal) (valid : literal.toPieces.Valid literal.radix)
    (maximal : literal.toPieces.Maximal literal.radix)
    (bare : literal.suffix = none → Suffix.find? literal.radix literal.body = none)
    (suffixed : ∀ written ∈ literal.suffix, written.suffix.Allowed literal.radix ∧
      literal.body.getLast? ≠ some separator)
    (base : Radix.split literal.raw = (literal.radix, literal.body ++ literal.suffixText)) :
    parse literal.raw = .ok literal :=
  parse_eq_ok_of_ending literal (ending_suffixText literal) valid maximal bare suffixed base

/-- Valid pieces without a tail, behind their lead and with a suffix that can follow them, are read
as they are. -/
theorem parse_eq_ok_of_spelled {literal : Literal} (valid : literal.toPieces.Valid literal.radix)
    (ends : literal.tail = [])
    (suffixed : ∀ written ∈ literal.suffix, written.suffix.Allowed literal.radix ∧
      literal.body.getLast? ≠ some separator)
    (spelled : literal.raw = literal.radix.lead ++ (literal.body ++ literal.suffixText)) :
    parse literal.raw = .ok literal := by
  refine parse_eq_ok_of_pieces literal valid ?_ (fun _ => find?_body valid ends) suffixed ?_
  · constructor
    · rw [ends]
      exact stops_nil _
    · intro _ _
      rw [ends]
      rfl
  · rw [spelled, split_spelled valid ends]

theorem Cut.suffixed {radix : Radix} {body stem : Text} {suffix : Option WrittenSuffix}
    (cut : Cut radix body stem suffix) :
    ∀ written ∈ suffix, written.suffix.Allowed radix ∧ stem.getLast? ≠ some separator := by
  intro written member
  cases cut with
  | whole => cases member
  | glued allowed _ last =>
    cases member
    exact ⟨allowed, last⟩
  | separated _ allowed last =>
    cases member
    exact ⟨allowed, last⟩

/-! ## The integer part -/

theorem integerPart_eq {literal : Literal} (ends : literal.tail = []) :
    literal.integerPart = literal.whole := by
  simp [integerPart, ends]

theorem exponentPart_eq {literal : Literal} (ends : literal.tail = []) :
    literal.exponentPart = literal.exponent := by
  by_cases pointed : literal.isPointed = true
  · simp [exponentPart, pointed, ends]
  · have none : literal.exponent = [] := by simp_all [isPointed]
    simp [exponentPart, pointed, none]

theorem isDigit_of_mem_withoutSeparators {radix : Radix} {text : Text} (run : IsRun radix text) :
    ∀ c ∈ withoutSeparators text, radix.isDigit c = true := by
  intro c member
  obtain ⟨inside, other⟩ := List.mem_filter.mp member
  simpa [isDigitOrSeparator, bne_iff_ne.mp other] using run c inside

theorem separator_not_mem_digits (literal : Literal) : separator ∉ literal.digits := by
  simp [digits, integerGroups, flatten_groups, withoutSeparators]

theorem integerPart_of_isPointed {literal : Literal} (pointed : literal.isPointed = true) :
    literal.integerPart = literal.whole := by
  simp [integerPart, pointed]

theorem ne_nil_of_isPointed {literal : Literal} (pointed : literal.isPointed = true) :
    literal.fraction ++ literal.exponent ≠ [] := by
  intro none
  obtain ⟨fraction, exponent⟩ := List.append_eq_nil_iff.mp none
  simp [isPointed, fraction, exponent] at pointed

theorem radix_of_isPointed {literal : Literal} (valid : literal.toPieces.Valid literal.radix)
    (pointed : literal.isPointed = true) : literal.radix = .decimal := by
  refine Classical.byContradiction fun other => ne_nil_of_isPointed pointed ?_
  obtain ⟨fraction, exponent⟩ := valid.integral other
  rw [fraction, exponent]
  rfl

theorem digits_eq_withoutSeparators (literal : Literal) :
    literal.digits = withoutSeparators literal.integerPart := by
  rw [digits, integerGroups, flatten_groups]

theorem digitRun_eq (literal : Literal) : literal.digitRun = withoutSeparators literal.body := by
  rw [digitRun, rawGroups, flatten_groups]

theorem digits_ne_nil {literal : Literal} (valid : literal.toPieces.Valid literal.radix) :
    literal.digits ≠ [] := by
  obtain ⟨c, member, digit⟩ := valid.digit
  have other : c ≠ separator := by
    rintro rfl
    rw [not_isDigit_separator] at digit
    cases digit
  have inside : c ∈ literal.integerPart := by
    unfold integerPart
    split
    · exact member
    · exact List.mem_append_left _ member
  rw [digits_eq_withoutSeparators]
  exact List.ne_nil_of_mem (List.mem_filter.mpr ⟨inside, bne_iff_ne.mpr other⟩)

/-! Where the tail is not counted with the integer part, that has digits and separators only. -/

section
variable {literal : Literal} (part : literal.integerPart = literal.whole)
include part

theorem digits_eq : literal.digits = withoutSeparators literal.whole := by
  rw [digits_eq_withoutSeparators, part]

theorem isDigit_of_mem_digits (valid : literal.toPieces.Valid literal.radix) {c : Char}
    (member : c ∈ literal.digits) : literal.radix.isDigit c = true := by
  rw [digits_eq part] at member
  exact isDigit_of_mem_withoutSeparators valid.whole c member

end

theorem isDecimal_of_mem_digits {literal : Literal} (valid : literal.toPieces.Valid literal.radix)
    (ends : literal.tail = []) (base : literal.radix = .decimal) :
    ∀ c ∈ literal.digits, Radix.decimal.isDigit c = true := by
  intro c member
  rw [← base]
  exact isDigit_of_mem_digits (integerPart_eq ends) valid member

end NumeralStyle.Literal
