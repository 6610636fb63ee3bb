import NumeralStyle.Proofs.Literal.Suffix

/-! Reading a literal, said without the functions that read it. A text is read as a literal exactly
if it starts with the lead of the literal's base, and the rest is cut into the literal's suffix and a
number of which the literal has the valid and maximal pieces (`parse_eq_ok_iff`). Whether a text is
a literal at all is decided by the number it has behind the lead (`exists_parse_iff`). -/
namespace NumeralStyle.Radix

theorem split_lead_append {radix : Radix} (base : radix ≠ .decimal) (body : Text) :
    split (radix.lead ++ body) = (radix, body) := by
  cases radix with
  | decimal => exact absurd rfl base
  | hex => rfl
  | octal => rfl
  | binary => rfl

theorem split_eq_decimal {raw : Text} (base : (split raw).1 = .decimal) :
    split raw = (.decimal, raw) := by
  have whole := lead_append_split raw
  rw [base] at whole
  exact Prod.ext base whole

/-- A lead that is read as such leaves the text behind it. -/
theorem split_eq_of_base {radix : Radix} {body : Text}
    (base : (split (radix.lead ++ body)).1 = radix) : split (radix.lead ++ body) = (radix, body) := by
  have whole := lead_append_split (radix.lead ++ body)
  rw [base] at whole
  exact Prod.ext base (List.append_cancel_left whole)

/-- A text is decimal where it starts with no lead. -/
theorem split_decimal_iff {raw : Text} :
    split raw = (.decimal, raw) ↔ ∀ radix : Radix, radix ≠ .decimal → ¬ radix.lead <+: raw := by
  constructor
  · rintro same radix base ⟨body, rfl⟩
    rw [split_lead_append base] at same
    exact base (congrArg Prod.fst same)
  · intro none
    by_cases base : (split raw).1 = .decimal
    · exact split_eq_decimal base
    · exact absurd ⟨(split raw).2, lead_append_split raw⟩ (none _ base)

end NumeralStyle.Radix

namespace NumeralStyle.Literal
open Text

/-- No number is empty or starts with a separator, if it is decimal. -/
theorem IsNumber.first_decimal {text : Text} (number : IsNumber .decimal text) :
    ∃ first rest, text = first :: rest ∧ Radix.decimal.isDigit first = true := by
  obtain ⟨⟨whole, fraction, exponent, tail⟩, valid, rfl⟩ := number
  obtain ⟨first, starts, digit⟩ := valid.first rfl
  obtain ⟨others, rfl⟩ := List.head?_eq_some_iff.mp starts
  exact ⟨first, others ++ fraction ++ exponent ++ tail, by simp [Pieces.text], digit⟩

/-- A number starts with a digit, unless it starts with a separator. -/
theorem IsNumber.isDigit_head {radix : Radix} {c : Char} {rest : Text}
    (number : IsNumber radix (c :: rest)) (other : c ≠ separator) : radix.isDigit c = true := by
  by_cases base : radix = .decimal
  · subst base
    obtain ⟨first, others, same, digit⟩ := number.first_decimal
    obtain ⟨rfl, -⟩ := List.cons.inj same
    exact digit
  · obtain ⟨⟨d, member, -⟩, -⟩ := (isNumber_prefixed_iff base).mp number
    cases inside : isDigitOrSeparator radix c with
    | false => simp [inside] at member
    | true => simpa [isDigitOrSeparator, other] using inside

theorem parse_eq {raw : Text} (filled : raw ≠ []) (first : raw.head? ≠ some separator) :
    parse raw = (split (Radix.split raw).1 (cutSuffix (Radix.split raw).1 (Radix.split raw).2).1).bind
      fun pieces => (checkTail (Radix.split raw).1 pieces.tail).bind fun _ =>
        .ok { pieces with
          raw
          radix := (Radix.split raw).1
          suffix := (cutSuffix (Radix.split raw).1 (Radix.split raw).2).2 } := by
  simp only [parse, filled, first, if_false]
  rfl

/-- What starts a text that has a number behind its lead. -/
theorem starts_of_isNumber {raw body : Text} {radix : Radix} (base : Radix.split raw = (radix, body))
    (number : IsNumber radix body) : raw ≠ [] ∧ raw.head? ≠ some separator := by
  have whole := Radix.lead_append_split raw
  rw [base] at whole
  subst whole
  by_cases decimal : radix = .decimal
  · subst decimal
    obtain ⟨first, rest, rfl, digit⟩ := number.first_decimal
    refine ⟨by simp [Radix.lead], ?_⟩
    simp only [Radix.lead, List.nil_append, List.head?_cons, ne_eq, Option.some.injEq]
    rintro rfl
    exact absurd digit (by decide)
  · cases radix with
    | decimal => exact absurd rfl decimal
    | hex => exact ⟨by simp [Radix.lead], by simp [Radix.lead, separator]⟩
    | octal => exact ⟨by simp [Radix.lead], by simp [Radix.lead, separator]⟩
    | binary => exact ⟨by simp [Radix.lead], by simp [Radix.lead, separator]⟩

theorem parse_eq_ok_iff {raw : Text} {literal : Literal} :
    parse raw = .ok literal ↔
      literal.raw = raw ∧ ∃ body, Radix.split raw = (literal.radix, body) ∧
        Cut literal.radix body literal.body literal.suffix ∧
        literal.toPieces.Valid literal.radix ∧ literal.toPieces.Maximal literal.radix := by
  constructor
  · intro read
    by_cases filled : raw = []
    · simp [parse, filled] at read
    by_cases first : raw.head? = some separator
    · simp [parse, filled, first] at read
    rw [parse_eq filled first] at read
    cases found : split (Radix.split raw).1 (cutSuffix (Radix.split raw).1 (Radix.split raw).2).1 with
    | error fault => simp [found, Except.bind] at read
    | ok pieces =>
      cases checked : checkTail (Radix.split raw).1 pieces.tail with
      | error fault => simp [found, checked, Except.bind] at read
      | ok _ =>
        simp only [found, checked, Except.bind, Except.ok.injEq] at read
        subst read
        obtain ⟨valid, maximal, spelled⟩ :=
          split_eq_ok_iff.mp ⟨found, checkTail_eq_ok_iff.mp checked⟩
        refine ⟨rfl, (Radix.split raw).2, rfl, ?_, valid, maximal⟩
        have cut := cut_cutSuffix (Radix.split raw).1 (Radix.split raw).2
        rwa [← spelled] at cut
  · rintro ⟨rfl, body, base, cut, valid, maximal⟩
    have number : IsNumber literal.radix body := cut.isNumber_iff.mpr ⟨_, valid, rfl⟩
    obtain ⟨filled, first⟩ := starts_of_isNumber base number
    obtain ⟨found, tail⟩ : split literal.radix literal.body = .ok literal.toPieces ∧
        IsTail literal.tail := split_eq_ok_iff.mpr ⟨valid, maximal, rfl⟩
    have checked := (@checkTail_eq_ok_iff literal.radix _).mpr tail
    simp only [parse_eq filled first, base, cut.cutSuffix_eq, found, checked, Except.bind]

/-- What has no suffix ends in none. -/
theorem Cut.find?_eq_none {radix : Radix} {body stem : Text} (cut : Cut radix body stem none) :
    Suffix.find? radix body = none ∧ body = stem := by
  cases cut with
  | whole missing => exact ⟨missing, rfl⟩

theorem raw_of_parse {raw : Text} {literal : Literal} (read : parse raw = .ok literal) :
    literal.raw = raw :=
  (parse_eq_ok_iff.mp read).1

theorem valid_of_parse {raw : Text} {literal : Literal} (read : parse raw = .ok literal) :
    literal.toPieces.Valid literal.radix := by
  obtain ⟨-, body, -, -, valid, -⟩ := parse_eq_ok_iff.mp read
  exact valid

theorem radix_of_parse {raw : Text} {literal : Literal} (read : parse raw = .ok literal) :
    (Radix.split raw).1 = literal.radix := by
  obtain ⟨-, body, split, -⟩ := parse_eq_ok_iff.mp read
  rw [split]

/-- A literal is spelled as its lead, its number and what stands behind that. -/
theorem exists_ending {raw : Text} {literal : Literal} (read : parse raw = .ok literal) :
    ∃ ending, Ending literal.suffix ending ∧ raw = literal.radix.lead ++ (literal.body ++ ending) := by
  obtain ⟨rfl, text, base, cut, -⟩ := parse_eq_ok_iff.mp read
  obtain ⟨ending, rfl, suffixed⟩ := cut.exists_ending
  have whole := Radix.lead_append_split literal.raw
  rw [base] at whole
  exact ⟨ending, suffixed, whole.symm⟩

theorem exists_parse_iff {raw : Text} :
    (∃ literal, parse raw = .ok literal) ↔
      IsNumber (Radix.split raw).1 (Radix.split raw).2 := by
  have cut := cut_cutSuffix (Radix.split raw).1 (Radix.split raw).2
  rw [cut.isNumber_iff]
  constructor
  · rintro ⟨literal, read⟩
    obtain ⟨-, body, base, cut', valid, -⟩ := parse_eq_ok_iff.mp read
    simp only [base, cut'.cutSuffix_eq]
    exact ⟨_, valid, rfl⟩
  · rintro ⟨pieces, valid, spelled⟩
    obtain ⟨longest, valid, maximal, same⟩ := exists_maximal valid
    rw [← spelled, ← same] at cut
    refine ⟨⟨longest, raw, (Radix.split raw).1, _⟩, parse_eq_ok_iff.mpr ⟨rfl, _, rfl, cut, ?_⟩⟩
    exact ⟨valid, maximal⟩

end NumeralStyle.Literal
