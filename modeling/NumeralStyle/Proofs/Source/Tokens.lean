import NumeralStyle.Proofs.Literal.Reading
import NumeralStyle.Proofs.Source.Scanned

/-! Whether the tokens of a scan are literals. How far a number reaches and how a literal is spelled
are two rules, and on ASCII the first keeps to the second: a token without the lead of a base is
always a literal, and one with a lead is a literal if digits of its base follow and no decimal digit
comes right behind them (`parse_token_error_iff`). -/
namespace NumeralStyle.Lexeme
open CharClass Text Literal

theorem isTailChar_of_ident {text : Text} (ascii : ∀ c ∈ text, c.val < 128) (ident : IsIdent text) :
    ∀ c ∈ text, isTailChar c = true := by
  intro c member
  rw [← isIdentChar_of_ascii (ascii c member)]
  exact ident c member

theorem isRun_of_plain {text : Text} (ascii : ∀ c ∈ text, c.val < 128) (plain : IsPlain text) :
    IsRun .decimal text := by
  intro c member
  rcases plain c member with digit | rfl
  · rw [isDigit_of_ascii (ascii c member), ← decimal_isDigit] at digit
    exact isDigitOrSeparator_of_isDigit digit
  · decide

/-- What stands before the letter of an exponent has no letter itself. -/
theorem isRun_of_no_letters {text : Text} (ascii : ∀ c ∈ text, c.val < 128) (ident : IsIdent text)
    (letters : ∀ c ∈ text, isLetter c = false) : IsRun .decimal text := by
  intro c member
  have tail := isTailChar_of_ident ascii ident c member
  have none := letters c member
  rw [isLetter_of_ascii (ascii c member)] at none
  by_cases inside : isDigitOrSeparator .decimal c = true
  · exact inside
  · have letter := isAlpha_of_isTailChar tail (Bool.eq_false_iff.mpr inside) (.inl rfl)
    simp [none] at letter

theorem isExponent_of_sign {letter sign digit : Char} (marks : letter = 'e' ∨ letter = 'E')
    (signs : sign = '+' ∨ sign = '-') (isDigit : Radix.decimal.isDigit digit = true) :
    IsExponent [letter, sign, digit] := by
  have one : [sign] = [] ∨ [sign] = ['+'] ∨ [sign] = ['-'] := by
    rcases signs with rfl | rfl <;> simp
  have run : IsRun .decimal [digit] := by
    intro c member
    obtain rfl := List.mem_singleton.mp member
    exact isDigitOrSeparator_of_isDigit isDigit
  exact .marked marks one run ⟨digit, by simp, isDigit⟩

/-- In ASCII the digit at the start is a decimal one, and stands before what is no digit. -/
theorem starts_of_ascii {run rest : Text} {c : Char} (ascii : ∀ d ∈ run, d.val < 128)
    (digit : StartsWithDigit (run ++ c :: rest)) (other : CharClass.isDigit c = false) :
    ∃ d ∈ run.head?, Radix.decimal.isDigit d = true := by
  obtain ⟨d, starts, isDigit⟩ := digit
  cases run with
  | nil =>
    cases starts
    rw [other] at isDigit
    cases isDigit
  | cons first others =>
    cases starts
    rw [isDigit_of_ascii (ascii d (by simp)), ← decimal_isDigit] at isDigit
    exact ⟨d, rfl, isDigit⟩

theorem mark_not_isDigit {letter : Char} (marks : letter = 'e' ∨ letter = 'E') :
    CharClass.isDigit letter = false := by
  rcases marks with rfl | rfl <;> decide

theorem isNumber_of_pieces {whole fraction exponent rest : Text} (run : IsRun .decimal whole)
    (first : ∃ c ∈ whole.head?, Radix.decimal.isDigit c = true) (fractional : IsFraction fraction)
    (marked : IsExponent exponent) (chars : ∀ c ∈ rest, isTailChar c = true) :
    IsNumber .decimal (whole ++ fraction ++ exponent ++ rest) := by
  have number : IsNumber .decimal (whole ++ fraction ++ exponent) := by
    obtain ⟨c, starts, digit⟩ := first
    exact ⟨⟨whole, fraction, exponent, []⟩, ⟨run, ⟨c, List.mem_of_mem_head? starts, digit⟩,
      fun _ => ⟨c, starts, digit⟩, fractional, marked, fun other => absurd rfl other, .none⟩,
      by simp [Pieces.text]⟩
  exact number.append_chars chars

/-- A number in ASCII that starts with a digit and no lead is spelled like a decimal literal. -/
theorem isNumber_of_munch {afterPoint : Bool} {raw rest : Text} (ascii : ∀ c ∈ raw, c.val < 128)
    (digit : StartsWithDigit raw) (base : (Radix.split raw).1 = .decimal)
    (munch : Munch afterPoint raw rest) : IsNumber .decimal raw := by
  cases munch with
  | prefixed other => exact absurd base other
  | plain _ ident =>
    obtain ⟨c, starts, isDigit⟩ := digit
    obtain ⟨others, rfl⟩ := List.head?_eq_some_iff.mp starts
    have chars := isTailChar_of_ident ascii ident
    rw [isDigit_of_ascii (ascii c (by simp)), ← decimal_isDigit] at isDigit
    have run : IsRun .decimal [c] := by
      intro d member
      obtain rfl := List.mem_singleton.mp member
      exact isDigitOrSeparator_of_isDigit isDigit
    exact isNumber_of_pieces run ⟨c, rfl, isDigit⟩ .none .none
      fun d member => chars d (List.mem_cons_of_mem _ member)
  | @signed run digits _ sign _ ident mark signs leads inside =>
    obtain ⟨before, letter, rfl, marks, letters⟩ := mark
    obtain ⟨c, starts, isDigit⟩ := leads
    obtain ⟨others, rfl⟩ := List.head?_eq_some_iff.mp starts
    have whole : before ++ [letter] ++ sign :: c :: others =
        before ++ [] ++ [letter, sign, c] ++ others := by simp
    rw [whole] at ascii digit ⊢
    have asciiBefore : ∀ d ∈ before, d.val < 128 := fun d member => ascii d (by simp [member])
    have asciiOthers : ∀ d ∈ others, d.val < 128 := fun d member => ascii d (by simp [member])
    rw [isDigit_of_ascii (ascii c (by simp)), ← decimal_isDigit] at isDigit
    rw [List.append_nil, List.append_assoc, List.cons_append] at digit
    have first := starts_of_ascii asciiBefore digit (mark_not_isDigit marks)
    have run := isRun_of_no_letters asciiBefore
      (fun d member => ident d (List.mem_append_left _ member)) letters
    exact isNumber_of_pieces run first .none (isExponent_of_sign marks signs isDigit)
      (isTailChar_of_ident asciiOthers fun d member => inside d (List.mem_cons_of_mem _ member))
  | @pointed run fraction _ _ plain _ _ ident =>
    have asciiRun : ∀ c ∈ run, c.val < 128 := fun c member => ascii c (by simp [member])
    have asciiFraction : ∀ c ∈ fraction, c.val < 128 := fun c member => ascii c (by simp [member])
    have first := starts_of_ascii asciiRun digit (by decide)
    have number := isNumber_of_pieces (isRun_of_plain asciiRun plain) first
      (.point (isRun_takeWhile .decimal [])) .none (isTailChar_of_ident asciiFraction ident)
    simpa using number
  | @pointedSigned run fraction digits _ sign _ plain _ _ ident mark signs leads inside =>
    obtain ⟨before, letter, same, marks, letters⟩ := mark
    obtain ⟨c, starts, isDigit⟩ := leads
    obtain ⟨others, rfl⟩ := List.head?_eq_some_iff.mp starts
    -- The letter ends the run behind the point, because no point is a letter.
    rcases List.eq_nil_or_concat' fraction with rfl | ⟨inner, last, rfl⟩
    · obtain ⟨-, point⟩ := List.append_inj' same rfl
      obtain rfl := (List.cons.inj point).1
      exact absurd marks (by decide)
    rw [← List.cons_append, ← List.append_assoc] at same
    obtain ⟨rfl, ends⟩ := List.append_inj' same rfl
    obtain rfl := (List.cons.inj ends).1
    have whole : run ++ '.' :: (inner ++ [last]) ++ sign :: c :: others =
        run ++ '.' :: inner ++ [last, sign, c] ++ others := by simp
    rw [whole] at ascii digit ⊢
    have asciiRun : ∀ d ∈ run, d.val < 128 := fun d member => ascii d (by simp [member])
    have asciiInner : ∀ d ∈ inner, d.val < 128 := fun d member => ascii d (by simp [member])
    have asciiOthers : ∀ d ∈ others, d.val < 128 := fun d member => ascii d (by simp [member])
    rw [isDigit_of_ascii (ascii c (by simp)), ← decimal_isDigit] at isDigit
    rw [List.append_assoc, List.append_assoc, List.cons_append] at digit
    have first := starts_of_ascii asciiRun digit (by decide)
    have behind := isRun_of_no_letters asciiInner
      (fun d member => ident d (List.mem_append_left _ member))
      fun d member => letters d (by simp [member])
    exact isNumber_of_pieces (isRun_of_plain asciiRun plain) first (.point behind)
      (isExponent_of_sign marks signs isDigit)
      (isTailChar_of_ident asciiOthers fun d member => inside d (List.mem_cons_of_mem _ member))

end NumeralStyle.Lexeme

namespace NumeralStyle

/-- A token of a scan is a number as far as it reaches. -/
theorem Scanned.munch {cursor : Cursor} {tokens : List Token} {token : Token}
    (scanned : Scanned cursor tokens) (emitted : token ∈ tokens) :
    Lexeme.StartsWithDigit token.raw ∧
      ∃ afterPoint rest, Lexeme.Munch afterPoint token.raw rest := by
  induction scanned with
  | done => cases emitted
  | skip _ _ _ ih => exact ih emitted
  | number _ digit munch _ ih =>
    rcases List.mem_cons.mp emitted with rfl | behind
    · exact ⟨digit, _, _, munch⟩
    · exact ih behind

namespace Literal
open CharClass Text

/-- What is left behind the digits of a base is a tail unless it starts with a decimal digit. -/
theorem isTail_dropWhile_iff {radix : Radix} {text : Text} (chars : ∀ c ∈ text, isTailChar c = true) :
    IsTail (text.dropWhile (isDigitOrSeparator radix)) ↔
      ∀ c ∈ (text.dropWhile (isDigitOrSeparator radix)).head?, c.isDigit = false := by
  have stops := stops_dropWhile (isDigitOrSeparator radix) text
  have inside : ∀ c ∈ text.dropWhile (isDigitOrSeparator radix), isTailChar c = true :=
    fun c member => chars c ((List.dropWhile_sublist _).mem member)
  generalize text.dropWhile (isDigitOrSeparator radix) = rest at *
  constructor
  · intro tail
    cases tail with
    | none => simp
    | @letters first others letter _ =>
      intro c starts
      cases starts
      exact ascii_forall (fun c => c.isAlpha = true → c.isDigit = false) (by decide)
        (ascii_of_isAlpha letter) letter
  · intro noDigit
    cases rest with
    | nil => exact .none
    | cons first others =>
      have notSeparator : first ≠ separator := by
        rintro rfl
        exact absurd (stops_cons.mp stops) (by simp [isDigitOrSeparator])
      have here := inside first (by simp)
      simp only [isTailChar, Char.isAlphanum, noDigit first rfl, Bool.or_false, Bool.or_eq_true,
        beq_iff_eq, notSeparator, or_false] at here
      exact .letters here fun c member => inside c (List.mem_cons_of_mem _ member)

/-- A text is refused exactly if it is not spelled like a number behind its lead. -/
theorem parse_error_iff {raw : Text} :
    (∃ fault, parse raw = .error fault) ↔ ¬ IsNumber (Radix.split raw).1 (Radix.split raw).2 := by
  rw [← exists_parse_iff]
  cases parse raw <;> simp

/-- What is spelled like a number behind its lead is in ASCII throughout. -/
theorem ascii_of_isNumber {raw : Text}
    (number : IsNumber (Radix.split raw).1 (Radix.split raw).2) : ∀ c ∈ raw, c.val < 128 := by
  intro c member
  rw [← Radix.lead_append_split raw] at member
  rcases List.mem_append.mp member with inLead | inBody
  · have leads : ∀ radix : Radix, ∀ d ∈ radix.lead, d.val < 128 := by
      intro radix
      cases radix <;> decide
    exact leads _ c inLead
  · exact number.ascii c inBody

/-- Why letters, digits and separators behind the lead of a base are refused. -/
theorem not_isNumber_prefixed_iff {radix : Radix} {body : Text} (base : radix ≠ .decimal)
    (chars : ∀ c ∈ body, isTailChar c = true) :
    ¬ IsNumber radix body ↔
      (∀ c ∈ body.takeWhile (isDigitOrSeparator radix), radix.isDigit c = false) ∨
        ∃ c ∈ (body.dropWhile (isDigitOrSeparator radix)).head?, c.isDigit = true := by
  rw [isNumber_prefixed_iff base, isTail_dropWhile_iff chars, Classical.not_and_iff_not_or_not]
  simp

end Literal

namespace Scan
open Literal

/-- A token is refused as a literal exactly if it is not in ASCII, or has the lead of a base and
then no digit of the base, or a decimal digit right behind the digits of the base. Without a lead no
token in ASCII is refused. -/
theorem parse_token_error_iff {source : Text} {tokens : List Token} {token : Token}
    (scanned : ofText source = .ok tokens) (emitted : token ∈ tokens) :
    ((∃ fault, parse token.raw = .error fault) ↔
      (∃ c ∈ token.raw, ¬ c.val < 128) ∨
        ∃ (radix : Radix) (body : Text), radix ≠ .decimal ∧ token.raw = radix.lead ++ body ∧
          ((∀ c ∈ body.takeWhile (isDigitOrSeparator radix), radix.isDigit c = false) ∨
            ∃ c ∈ (body.dropWhile (isDigitOrSeparator radix)).head?, c.isDigit = true)) ∧
    ((∀ c ∈ token.raw, c.val < 128) →
      (∀ radix : Radix, radix ≠ .decimal → ¬ radix.lead <+: token.raw) →
        ∃ literal, parse token.raw = .ok literal) := by
  obtain ⟨digit, afterPoint, rest, munch⟩ := (ofText_eq_ok_iff.mp scanned).munch emitted
  generalize token.raw = raw at *
  rw [parse_error_iff, exists_parse_iff]
  by_cases foreign : ∃ c ∈ raw, ¬ c.val < 128
  · obtain ⟨c, member, other⟩ := id foreign
    have refused : ¬ IsNumber (Radix.split raw).1 (Radix.split raw).2 :=
      fun number => other (ascii_of_isNumber number c member)
    exact ⟨iff_of_true refused (.inl foreign), fun ascii => absurd (ascii c member) other⟩
  have ascii : ∀ c ∈ raw, c.val < 128 := by simpa using foreign
  rw [or_iff_right foreign]
  by_cases base : (Radix.split raw).1 = .decimal
  · have number := Lexeme.isNumber_of_munch ascii digit base munch
    have same := Radix.split_eq_decimal base
    rw [same]
    refine ⟨iff_of_false (fun refused => refused number) ?_, fun _ _ => number⟩
    rintro ⟨radix, body, other, whole, -⟩
    exact Radix.split_decimal_iff.mp same radix other ⟨body, whole.symm⟩
  · have whole := Radix.lead_append_split raw
    have ident := munch.isIdent_of_prefixed base
    have chars : ∀ c ∈ (Radix.split raw).2, isTailChar c = true := by
      intro c member
      exact Lexeme.isTailChar_of_ident ascii ident c (whole ▸ List.mem_append_right _ member)
    refine ⟨?_, fun _ noLead => absurd ⟨_, whole⟩ (noLead _ base)⟩
    rw [not_isNumber_prefixed_iff base chars]
    constructor
    · exact fun refused => ⟨_, _, base, whole.symm, refused⟩
    · rintro ⟨radix, body, other, rfl, refused⟩
      rwa [Radix.split_lead_append other]

/-- An octal lead with a decimal digit behind it. -/
theorem parse_token_error_octal :
    ofText ['0', 'o', '8'] = .ok [⟨['0', 'o', '8'], Span.ofText ['0', 'o', '8']⟩] ∧
      ∃ fault, parse ['0', 'o', '8'] = .error fault := by
  have scanned : ofText ['0', 'o', '8'] = .ok [⟨['0', 'o', '8'], Span.ofText ['0', 'o', '8']⟩] := by
    have whole : (Cursor.start ['0', 'o', '8']).ahead = ['0', 'o', '8'] ++ [] := rfl
    have ident : Lexeme.IsIdent ['0', 'o', '8'] := by unfold Lexeme.IsIdent; decide
    have munch : Lexeme.Munch (Cursor.start ['0', 'o', '8']).isAfterPoint ['0', 'o', '8'] [] :=
      .prefixed (by decide) ident (Text.stops_nil _)
    exact ofText_eq_ok_iff.mpr (.number whole ⟨'0', rfl, by decide⟩ munch (.done rfl))
  refine ⟨scanned, (parse_token_error_iff scanned (List.mem_singleton.mpr rfl)).1.mpr (.inr ?_)⟩
  exact ⟨.octal, ['8'], by decide, rfl, .inl (by decide)⟩

end Scan
end NumeralStyle
