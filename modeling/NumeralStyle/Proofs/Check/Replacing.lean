import NumeralStyle.Proofs.Check.Following
import NumeralStyle.Proofs.Source.Replaced

/-! Suggestions in the places of their literals. What a suggestion changes are the digits before a
point and the separators before a suffix, and neither decides how far a number reaches; a suggestion
with the lead of a base reaches as far as identifier characters go, and so does its literal. So each
suggestion can replace its literal, whatever stands around it (`Fix.replaces`). -/
namespace NumeralStyle.Literal
open CharClass Lexeme Text

/-! ## Spellings up to their suffix -/

section
variable {suffix : Option WrittenSuffix} {whole other fraction exponent ending ending' rest : Text}

theorem Ending.isIdent (ends : Ending suffix ending) : IsIdent ending := by
  cases ends with
  | none => exact fun c member => by cases member
  | glued suffix => exact isIdent_of_isTail (isTail_suffix suffix)
  | separated count suffix =>
    exact (isIdent_of_isRun (isRun_separators .decimal (count + 1))).append
      (isIdent_of_isTail (isTail_suffix suffix))

theorem Ending.eq_nil_iff (ends : Ending suffix ending) : ending = [] ↔ suffix = .none := by
  cases ends with
  | none => simp
  | glued suffix => simp [suffix.text_ne_nil]
  | separated count suffix => simp [suffix.text_ne_nil]

/-- Separators aside, endings with the same suffix have the same characters. -/
theorem Ending.mem (ends : Ending suffix ending) (ends' : Ending suffix ending') {c : Char}
    (member : c ∈ ending) : c = separator ∨ c ∈ ending' := by
  cases ends with
  | none => cases member
  | glued =>
    cases ends'
    exact .inr member
  | separated count suffix =>
    cases ends' with
    | separated count' =>
      rcases List.mem_append.mp member with separates | inside
      · exact .inl (List.eq_of_mem_replicate separates)
      · exact .inr (List.mem_append_right _ inside)

theorem Ending.head?_eq (ends : Ending suffix ending) (ends' : Ending suffix ending') :
    ending.head? = ending'.head? := by
  cases ends with
  | none =>
    cases ends'
    rfl
  | glued =>
    cases ends'
    rfl
  | separated =>
    cases ends'
    rfl

/-- The first of several letters at the end of a literal is not the letter of an exponent. -/
theorem not_endsInMark_spelled (run : IsRun .decimal whole) (pointed : IsFraction fraction)
    (marked : IsExponent exponent) (ends : Ending suffix ending) :
    ¬ EndsInMark (whole ++ (fraction ++ (exponent ++ ending))) := by
  have lettered (suffix : Suffix) :
      ∃ letter behind, suffix.text = letter :: behind ∧ isLetter letter = true ∧ behind ≠ [] := by
    cases suffix <;> exact ⟨_, _, rfl, by decide, by decide⟩
  cases ends with
  | none =>
    cases marked with
    | none =>
      rintro ⟨before, letter, same, marks, -⟩
      have last : letter ∈ whole ++ fraction := by
        rw [List.append_nil, List.append_nil] at same
        simp [same]
      rcases List.mem_append.mp last with inWhole | inFraction
      · have letterless := isLetter_of_isRun run letter inWhole
        rcases marks with rfl | rfl <;> exact absurd letterless (by decide)
      · have chars := pointed.chars letter inFraction
        rcases marks with rfl | rfl <;> exact absurd chars (by decide)
    | @marked letter sign digits marks signs inside digit =>
      obtain ⟨c, member, -⟩ := digit
      have isLetter : isLetter letter = true := by rcases marks with rfl | rfl <;> decide
      have filled : sign ++ digits ++ [] ≠ [] := by simp [List.ne_nil_of_mem member]
      rw [List.cons_append, ← List.append_assoc]
      exact not_endsInMark_of_isLetter isLetter filled
  | glued suffix =>
    obtain ⟨letter, behind, text, isLetter, filled⟩ := lettered suffix
    rw [text, ← List.append_assoc, ← List.append_assoc]
    exact not_endsInMark_of_isLetter isLetter filled
  | separated count suffix =>
    obtain ⟨letter, behind, text, isLetter, filled⟩ := lettered suffix
    rw [text, ← List.append_assoc, ← List.append_assoc, ← List.append_assoc]
    exact not_endsInMark_of_isLetter isLetter filled

/-- The point of a literal sees the same behind it, whatever number of separators is before the
suffix. -/
theorem point_respelled {afterPoint : Bool} {before after : Text} (run' : IsRun .decimal other)
    (pointed : IsFraction fraction) (marked : IsExponent exponent) (ends : Ending suffix ending)
    (ends' : Ending suffix ending')
    (fits : Fits afterPoint (whole ++ (fraction ++ (exponent ++ ending))) rest)
    (same : other ++ (fraction ++ (exponent ++ ending')) = before ++ '.' :: after) :
    afterPoint = false ∧ PointAhead ('.' :: (after ++ rest)) := by
  have noneBefore := (isIdent_of_isRun run').point_not_mem
  have noneBehind : '.' ∉ exponent ++ ending' := by
    simp [marked.point_not_mem, ends'.isIdent.point_not_mem]
  cases pointed with
  | none =>
    have member : '.' ∈ other ++ (exponent ++ ending') := by
      rw [List.nil_append] at same
      simp [same]
    simp only [List.mem_append, noneBefore, false_or] at member noneBehind
    exact absurd member noneBehind
  | @point digits inside =>
    have none : '.' ∉ digits ++ (exponent ++ ending') := by
      rw [List.mem_append, not_or]
      exact ⟨(isIdent_of_isRun inside).point_not_mem, noneBehind⟩
    have spelled : other ++ '.' :: (digits ++ (exponent ++ ending')) = before ++ '.' :: after := same
    obtain ⟨-, -, rfl⟩ := cut_at spelled noneBefore none
    obtain ⟨lone, ahead⟩ := fits.point whole (digits ++ (exponent ++ ending)) rfl
    have heads : (ending ++ rest).head? = (ending' ++ rest).head? := by
      rw [List.head?_append, List.head?_append, ends.head?_eq ends']
    refine ⟨lone, ?_⟩
    rw [← List.append_assoc, List.append_assoc] at ahead ⊢
    exact pointAhead_append heads ahead

/-- So does the sign of its exponent. -/
theorem sign_respelled {afterPoint : Bool} {before after : Text} {sign : Char}
    (run' : IsRun .decimal other) (pointed : IsFraction fraction) (marked : IsExponent exponent)
    (ends : Ending suffix ending) (ends' : Ending suffix ending')
    (fits : Fits afterPoint (whole ++ (fraction ++ (exponent ++ ending))) rest)
    (same : other ++ (fraction ++ (exponent ++ ending')) = before ++ sign :: after)
    (signs : sign = '+' ∨ sign = '-') : StartsWithDigit after := by
  have noneBefore : sign ∉ other ++ fraction := by
    rw [List.mem_append, not_or]
    exact ⟨(isIdent_of_isRun run').sign_not_mem signs, pointed.sign_not_mem signs⟩
  have cut := exponent_cases marked .none
  rw [List.append_nil] at cut
  rw [← List.append_assoc] at same
  rcases cut with ident | ⟨letter, found, digits, rfl, marks, signs', ident⟩
  · have member : sign ∈ other ++ fraction ++ (exponent ++ ending') := by simp [same]
    rcases List.mem_append.mp member with before | behind
    · exact absurd before noneBefore
    · exact absurd behind ((ident.append ends'.isIdent).sign_not_mem signs)
  · have noLetter : sign ≠ letter := by rcases signs with rfl | rfl <;> rintro rfl <;> simp at marks
    have front : sign ∉ other ++ fraction ++ [letter] := by
      rw [List.mem_append, not_or]
      exact ⟨noneBefore, by simpa using noLetter⟩
    have spelled : other ++ fraction ++ [letter] ++ found :: (digits ++ ending') =
        before ++ sign :: after := by
      rw [← same]
      simp
    obtain ⟨-, -, rfl⟩ := cut_at spelled front ((ident.append ends'.isIdent).sign_not_mem signs)
    have starts := fits.sign (whole ++ fraction ++ [letter]) found (digits ++ ending) (by simp) signs'
    rwa [StartsWithDigit, List.head?_append, ends.head?_eq ends', ← List.head?_append] at starts

/-- Other digits before the point, and another number of separators before the suffix, do not change
where a literal fits. -/
theorem fits_respelled {afterPoint : Bool} (run : IsRun .decimal whole) (run' : IsRun .decimal other)
    (pointed : IsFraction fraction) (marked : IsExponent exponent) (ends : Ending suffix ending)
    (ends' : Ending suffix ending')
    (fits : Fits afterPoint (whole ++ (fraction ++ (exponent ++ ending))) rest) :
    Fits afterPoint (other ++ (fraction ++ (exponent ++ ending'))) rest where
  stops := fits.stops
  point _ _ same := point_respelled run' pointed marked ends ends' fits same
  sign _ _ _ same signs := sign_respelled run' pointed marked ends ends' fits same signs
  noPoint := by
    rintro ⟨lone, plain, ahead⟩
    refine fits.noPoint ⟨lone, fun c member => ?_, ahead⟩
    simp only [List.mem_append] at member
    rcases member with inWhole | inFraction | inExponent | inEnding
    · exact isPlain_of_isRun run c inWhole
    · exact plain c (by simp [inFraction])
    · exact plain c (by simp [inExponent])
    · rcases ends.mem ends' inEnding with rfl | inEnding'
      · exact .inr rfl
      · exact plain c (by simp [inEnding'])
  noSign marks := not_endsInMark_spelled run' pointed marked ends' marks.1

/-- A literal ends with a point if nothing is behind the point. -/
theorem getLast?_spelled (run : IsRun .decimal whole) (ends : Ending suffix ending) :
    (whole ++ (fraction ++ (exponent ++ ending))).getLast? = some '.' ↔
      suffix = none ∧ (fraction ++ exponent).getLast? = some '.' := by
  have noneBefore : whole.getLast? ≠ some '.' :=
    fun last => (isIdent_of_isRun run).point_not_mem (List.mem_of_getLast? last)
  rw [← ends.eq_nil_iff, ← List.append_assoc fraction, List.getLast?_append,
    List.getLast?_append (l := fraction ++ exponent)]
  rcases List.eq_nil_or_concat' ending with rfl | ⟨before, last, rfl⟩
  · simp only [List.getLast?_nil, Option.none_or, true_and, Option.or_eq_some_iff, noneBefore,
      and_false, or_false]
  · have noPoint : last ≠ '.' := by
      rintro rfl
      exact ends.isIdent.point_not_mem (by simp)
    simp [noPoint]

end

/-! ## Literals in each other's place -/

variable {widths : Widths} {literal fixed other : Literal} {kind : FindingKind}

/-- A literal that is read throughout is spelled out by its pieces and its suffix. -/
theorem exists_spelled (read : parse literal.raw = .ok literal) (ends : literal.tail = []) :
    ∃ ending, Ending literal.suffix ending ∧ literal.raw = literal.radix.lead ++
      (literal.whole ++ (literal.fraction ++ (literal.exponent ++ ending))) := by
  obtain ⟨ending, suffixed, spelled⟩ := exists_ending read
  rw [body, ends] at spelled
  exact ⟨ending, suffixed, by simpa using spelled⟩

/-- A literal starts with a decimal digit, that of its lead if it has one. -/
theorem starts_of_parse (read : parse literal.raw = .ok literal) (ends : literal.tail = []) :
    ∃ c ∈ literal.raw.head?, c.isDigit = true := by
  have valid := valid_of_parse read
  obtain ⟨ending, -, spelled⟩ := exists_spelled read ends
  cases base : literal.radix with
  | decimal =>
    obtain ⟨c, first, digit⟩ := valid.first base
    obtain ⟨rest, whole⟩ := List.head?_eq_some_iff.mp first
    rw [base, decimal_isDigit] at digit
    exact ⟨c, by rw [spelled, base, whole]; rfl, digit⟩
  | hex => exact ⟨'0', by rw [spelled, base]; rfl, by decide⟩
  | octal => exact ⟨'0', by rw [spelled, base]; rfl, by decide⟩
  | binary => exact ⟨'0', by rw [spelled, base]; rfl, by decide⟩

/-- Without a point and an exponent a literal is all identifier characters. -/
theorem isIdent_of_integral (read : parse literal.raw = .ok literal) (ends : literal.tail = [])
    (integral : literal.fraction = [] ∧ literal.exponent = []) : IsIdent literal.raw := by
  have valid := valid_of_parse read
  obtain ⟨ending, suffixed, spelled⟩ := exists_spelled read ends
  have lead : IsIdent literal.radix.lead := by
    unfold IsIdent
    cases literal.radix <;> decide
  rw [spelled, integral.1, integral.2]
  exact lead.append ((isIdent_of_isRun valid.whole).append suffixed.isIdent)

theorem isNumber_of_decimal (read : parse literal.raw = .ok literal)
    (base : literal.radix = .decimal) :
    (Radix.split literal.raw).1 = .decimal ∧ IsNumber .decimal literal.raw := by
  have decimal : (Radix.split literal.raw).1 = .decimal := (radix_of_parse read).trans base
  have number := exists_parse_iff.mp ⟨_, read⟩
  rw [Radix.split_eq_decimal decimal] at number
  exact ⟨decimal, number⟩

/-- Decimal literals can stand in each other's place if they differ in no more than the digits before
the point and the separators. -/
theorem replaces_of_decimal (read : parse literal.raw = .ok literal) (ends : literal.tail = [])
    (read' : parse other.raw = .ok other) (ends' : other.tail = [])
    (base : literal.radix = .decimal) (base' : other.radix = .decimal)
    (fraction : other.fraction = literal.fraction) (exponent : other.exponent = literal.exponent)
    (suffix : other.suffix = literal.suffix) : Replaces literal.raw other.raw := by
  have first := starts_of_parse read ends
  have starts := starts_of_parse read' ends'
  have valid := valid_of_parse read
  have valid' := valid_of_parse read'
  obtain ⟨decimal, number⟩ := isNumber_of_decimal read base
  obtain ⟨decimal', number'⟩ := isNumber_of_decimal read' base'
  obtain ⟨ending, suffixed, spelled⟩ := exists_spelled read ends
  obtain ⟨ending', suffixed', spelled'⟩ := exists_spelled read' ends'
  have run := valid.whole
  have run' := valid'.whole
  rw [base, Radix.lead, List.nil_append] at spelled
  rw [base', Radix.lead, List.nil_append, fraction, exponent] at spelled'
  rw [base] at run
  rw [base'] at run'
  rw [suffix] at suffixed'
  refine ⟨first, starts, ?_, fun munch => (munch_iff_fits number' decimal').mpr ?_⟩
  · rw [spelled, spelled', getLast?_spelled run suffixed, getLast?_spelled run' suffixed']
  · have fits := (munch_iff_fits number decimal).mp munch
    rw [spelled] at fits
    rw [spelled']
    exact fits_respelled run run' valid.fraction valid.exponent suffixed suffixed' fits

/-- A literal with a lead can stand in the place of one without a point and an exponent. -/
theorem replaces_of_prefixed (read : parse literal.raw = .ok literal) (ends : literal.tail = [])
    (read' : parse other.raw = .ok other) (ends' : other.tail = [])
    (integral : literal.fraction = [] ∧ literal.exponent = []) (base' : other.radix ≠ .decimal) :
    Replaces literal.raw other.raw := by
  have valid' := valid_of_parse read'
  have ident := isIdent_of_integral read ends integral
  have ident' := isIdent_of_integral read' ends' (valid'.integral base')
  have prefixed : (Radix.split other.raw).1 ≠ .decimal := by rwa [radix_of_parse read']
  have noPoint {text : Text} (inside : IsIdent text) : text.getLast? ≠ some '.' :=
    fun last => inside.point_not_mem (List.mem_of_getLast? last)
  exact ⟨starts_of_parse read ends, starts_of_parse read' ends',
    iff_of_false (noPoint ident) (noPoint ident'), fun munch => .prefixed prefixed ident' munch.stops⟩

/-- A suggestion can stand in the place of its literal. -/
theorem Fix.replaces (fix : Fix widths literal kind fixed) (read : parse literal.raw = .ok literal)
    (ends : literal.tail = []) : Replaces literal.raw fixed.raw := by
  have read' := fix.parse_eq_ok read ends
  have ends' := fix.tail_eq_nil ends
  cases fix with
  | grouped =>
    by_cases base : literal.radix = .decimal
    · have exponent : (literal.regrouped widths).exponent = literal.exponent := rfl
      exact replaces_of_decimal read ends read' ends' base base rfl exponent rfl
    · have valid := valid_of_parse read
      exact replaces_of_prefixed read ends read' ends' (valid.integral base) base
  | decimal zero => exact replaces_of_decimal read ends read' ends' zero.radix rfl rfl rfl rfl
  | octal zero =>
    obtain ⟨fraction, exponent, -⟩ := kind_eq_integer_iff.mp zero.kind
    have octal : Radix.octal ≠ .decimal := by decide
    exact replaces_of_prefixed read ends read' ends' ⟨fraction, exponent⟩ octal

end NumeralStyle.Literal

namespace NumeralStyle.Report
open Literal

/-- What a finding suggests can stand in the place of its token. -/
theorem replaces_of_suggested [Platform] {widths : Widths} {token : Token} {report : Report}
    {finding : Finding}
    {spelling : Text} (reported : ofToken widths token = .ok report)
    (known : report.literal.unrecognizedSuffix = none) (among : finding ∈ report.findings)
    (suggested : spelling ∈ finding.suggestions) : Replaces token.raw spelling := by
  obtain ⟨fixed, fix, rfl⟩ := exists_fix_of_suggested reported among suggested
  rw [raw_eq reported]
  exact fix.replaces (parse_literal reported) (unrecognizedSuffix_eq_none_iff.mp known)

end NumeralStyle.Report
