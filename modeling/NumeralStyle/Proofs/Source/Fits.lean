import NumeralStyle.Proofs.Literal.Reading
import NumeralStyle.Proofs.Source.Munch

/-! Where a decimal literal is one token. A text that is spelled like a decimal literal reaches just
up to the text behind it if no character around its points and signs keeps it from that, and nothing
behind it can be taken along (`munch_iff_fits`). -/
namespace NumeralStyle.Lexeme
open CharClass Literal Text

/-- What keeps a decimal literal in one piece, and apart from the text behind it. -/
structure Fits (afterPoint : Bool) (raw rest : Text) : Prop where
  stops : Stops isIdentChar rest
  /-- Each point belongs to the literal. -/
  point : ∀ before after, raw = before ++ '.' :: after →
    afterPoint = false ∧ PointAhead ('.' :: (after ++ rest))
  /-- Each sign stands before a digit. -/
  sign : ∀ before sign after, raw = before ++ sign :: after → sign = '+' ∨ sign = '-' →
    StartsWithDigit after
  /-- A point behind the literal does not belong to it. -/
  noPoint : ¬ (afterPoint = false ∧ IsPlain raw ∧ PointAhead rest)
  /-- A sign behind the literal does not belong to it. -/
  noSign : ¬ (EndsInMark raw ∧ SignAhead rest)

theorem IsIdent.point_not_mem {text : Text} (ident : IsIdent text) : '.' ∉ text :=
  fun member => absurd (ident _ member) (by decide)

theorem IsIdent.sign_not_mem {text : Text} {sign : Char} (ident : IsIdent text)
    (signs : sign = '+' ∨ sign = '-') : sign ∉ text := by
  intro member
  have inside := ident sign member
  rw [sign_not_ident signs] at inside
  cases inside

theorem IsIdent.append {front behind : Text} (first : IsIdent front) (second : IsIdent behind) :
    IsIdent (front ++ behind) := by
  intro c member
  rcases List.mem_append.mp member with inFront | inBehind
  · exact first c inFront
  · exact second c inBehind

theorem IsIdent.mark {letter : Char} (marks : letter = 'e' ∨ letter = 'E') : IsIdent [letter] := by
  intro c member
  obtain rfl := List.mem_singleton.mp member
  rcases marks with rfl | rfl <;> decide

theorem point_ne_sign {sign : Char} (signs : sign = '+' ∨ sign = '-') : sign ≠ '.' := by
  rcases signs with rfl | rfl <;> decide

/-- The letter at the end is the only one. -/
theorem not_endsInMark_of_isLetter {front behind : Text} {c : Char} (letter : isLetter c = true)
    (filled : behind ≠ []) : ¬ EndsInMark (front ++ c :: behind) := by
  rintro ⟨before, mark, same, -, letters⟩
  obtain ⟨inner, last, rfl⟩ := (List.eq_nil_or_concat' behind).resolve_left filled
  rw [← List.cons_append, ← List.append_assoc] at same
  obtain ⟨rfl, -⟩ := List.append_inj' same rfl
  have none := letters c (by simp)
  rw [letter] at none
  cases none

/-- No number behind a mark and a sign ends in a mark itself. -/
theorem not_endsInMark_append {number digits : Text} (mark : EndsInMark number)
    (filled : digits ≠ []) : ¬ EndsInMark (number ++ digits) := by
  obtain ⟨before, letter, rfl, marks, -⟩ := mark
  have isLetter : isLetter letter = true := by rcases marks with rfl | rfl <;> decide
  rw [List.append_assoc, List.singleton_append]
  exact not_endsInMark_of_isLetter isLetter filled

theorem not_isPlain_of_mem {text : Text} {c : Char} (member : c ∈ text)
    (outside : isIdentChar c = false) : ¬ IsPlain text := by
  intro plain
  have inside := plain.isIdent c member
  rw [outside] at inside
  cases inside

theorem Munch.fits {afterPoint : Bool} {number rest : Text} (munch : Munch afterPoint number rest)
    (base : (Radix.split number).1 = .decimal) : Fits afterPoint number rest := by
  cases munch with
  | prefixed other => exact absurd base other
  | plain _ ident stops noSign noPoint =>
    refine ⟨stops, ?_, ?_, noPoint, noSign⟩
    · rintro before after rfl
      exact absurd (by simp) ident.point_not_mem
    · rintro before sign after rfl signs
      exact absurd (by simp) (ident.sign_not_mem signs)
  | @signed run digits _ sign _ ident mark signs digit inside stops =>
    have noPoint : '.' ∉ run ++ sign :: digits := by
      simp [ident.point_not_mem, inside.point_not_mem, (point_ne_sign signs).symm]
    refine ⟨stops, ?_, ?_, fun own => ?_, fun marked => ?_⟩
    · intro before after same
      exact absurd (by simp [same]) noPoint
    · intro before other after same others
      obtain ⟨-, -, rfl⟩ := cut_at same (ident.sign_not_mem others) (inside.sign_not_mem others)
      exact digit
    · exact not_isPlain_of_mem (by simp) (sign_not_ident signs) own.2.1
    · exact not_endsInMark_append mark (List.cons_ne_nil sign digits) marked.1
  | @pointed run fraction _ _ plain lone ahead ident stops noSign =>
    refine ⟨stops, ?_, ?_, fun own => ?_, noSign⟩
    · intro before after same
      obtain ⟨-, -, rfl⟩ := cut_at same plain.isIdent.point_not_mem ident.point_not_mem
      exact ⟨lone, ahead⟩
    · intro before sign after same signs
      have noSign : sign ∉ run ++ '.' :: fraction := by
        simp [plain.isIdent.sign_not_mem signs, ident.sign_not_mem signs, point_ne_sign signs]
      exact absurd (by simp [same]) noSign
    · exact not_isPlain_of_mem (by simp) point_not_ident own.2.1
  | @pointedSigned run fraction digits _ sign _ plain lone ahead ident mark signs digit inside
      stops =>
    have whole : run ++ '.' :: fraction ++ sign :: digits =
        run ++ '.' :: (fraction ++ sign :: digits) := by simp
    refine ⟨stops, ?_, ?_, fun own => ?_, fun marked => ?_⟩
    · intro before after same
      have noPoint : '.' ∉ fraction ++ sign :: digits := by
        simp [ident.point_not_mem, inside.point_not_mem, (point_ne_sign signs).symm]
      rw [whole] at same
      obtain ⟨-, -, rfl⟩ := cut_at same plain.isIdent.point_not_mem noPoint
      rw [List.append_assoc]
      have first : (sign :: digits).head? = (sign :: digits ++ rest).head? := rfl
      exact ⟨lone, pointAhead_append first ahead⟩
    · intro before other after same others
      have noSign : other ∉ run ++ '.' :: fraction := by
        simp [plain.isIdent.sign_not_mem others, ident.sign_not_mem others, point_ne_sign others]
      obtain ⟨-, -, rfl⟩ := cut_at same noSign (inside.sign_not_mem others)
      exact digit
    · exact not_isPlain_of_mem (by simp) (sign_not_ident signs) own.2.1
    · exact not_endsInMark_append mark (List.cons_ne_nil sign digits) marked.1

/-! ## From the pieces -/

theorem isIdent_of_isRun {radix : Radix} {run : Text} (inside : IsRun radix run) : IsIdent run := by
  intro c member
  have tail := isTailChar_of_isDigitOrSeparator (inside c member)
  rwa [isIdentChar_of_ascii (ascii_of_isTailChar tail)]

theorem isIdent_of_isTail {tail : Text} (valid : IsTail tail) : IsIdent tail := by
  intro c member
  have inside := valid.chars c member
  rwa [isIdentChar_of_ascii (ascii_of_isTailChar inside)]

theorem isPlain_of_isRun {run : Text} (inside : IsRun .decimal run) : IsPlain run := by
  intro c member
  have digit := inside c member
  simp only [isDigitOrSeparator, Bool.or_eq_true, beq_iff_eq, decimal_isDigit] at digit
  rcases digit with digit | rfl
  · exact .inl (by rw [isDigit_of_ascii (ascii_of_isDigit digit), digit])
  · exact .inr rfl

theorem isLetter_of_isRun {run : Text} (inside : IsRun .decimal run) :
    ∀ c ∈ run, isLetter c = false := by
  intro c member
  have digit := inside c member
  have ascii := ascii_of_isTailChar (isTailChar_of_isDigitOrSeparator digit)
  rw [isLetter_of_ascii ascii]
  exact ascii_forall (fun c => isDigitOrSeparator .decimal c = true → c.isAlpha = false)
    (by decide) ascii digit

/-- An exponent has no sign, or is cut in two by it. -/
theorem exponent_cases {exponent tail : Text} (valid : IsExponent exponent) (ends : IsTail tail) :
    IsIdent (exponent ++ tail) ∨ ∃ letter sign digits, exponent ++ tail = letter :: sign :: digits ∧
      (letter = 'e' ∨ letter = 'E') ∧ (sign = '+' ∨ sign = '-') ∧ IsIdent digits := by
  have identTail := isIdent_of_isTail ends
  cases valid with
  | none => exact .inl identTail
  | @marked letter sign run marks signs inside digit =>
    have ident := (isIdent_of_isRun inside).append identTail
    rcases signs with rfl | rfl | rfl
    · exact .inl ((IsIdent.mark marks).append ident)
    · exact .inr ⟨letter, '+', run ++ tail, rfl, marks, .inl rfl, ident⟩
    · exact .inr ⟨letter, '-', run ++ tail, rfl, marks, .inr rfl, ident⟩

theorem endsInMark_concat {before : Text} {letter : Char}
    (letters : ∀ c ∈ before, isLetter c = false) (marks : letter = 'e' ∨ letter = 'E') :
    EndsInMark (before ++ [letter]) :=
  ⟨before, letter, rfl, marks, letters⟩

/-- A number without a point fits as far as its exponent allows. -/
theorem munch_of_fits_integral {afterPoint : Bool} {whole exponent tail rest : Text}
    (run : IsRun .decimal whole) (marked : IsExponent exponent) (ends : IsTail tail)
    (base : (Radix.split (whole ++ (exponent ++ tail))).1 = .decimal)
    (fits : Fits afterPoint (whole ++ (exponent ++ tail)) rest) :
    Munch afterPoint (whole ++ (exponent ++ tail)) rest := by
  have identWhole := isIdent_of_isRun run
  rcases exponent_cases marked ends with ident | ⟨letter, sign, digits, same, marks, signs, ident⟩
  · exact .plain base (identWhole.append ident) fits.stops fits.noSign fits.noPoint
  · have cut : whole ++ (exponent ++ tail) = whole ++ [letter] ++ sign :: digits := by simp [same]
    rw [cut] at base fits ⊢
    rw [split_run_append (stops_cons.mpr (sign_not_ident signs))] at base
    have mark := endsInMark_concat (isLetter_of_isRun run) marks
    exact .signed base (identWhole.append (IsIdent.mark marks)) mark signs
      (fits.sign _ sign digits rfl signs) ident fits.stops

/-- A number with a point fits as far as its exponent allows. -/
theorem munch_of_fits_pointed {afterPoint : Bool} {whole fraction exponent tail rest : Text}
    (run : IsRun .decimal whole) (behind : IsRun .decimal fraction) (marked : IsExponent exponent)
    (ends : IsTail tail)
    (base : (Radix.split (whole ++ '.' :: (fraction ++ (exponent ++ tail)))).1 = .decimal)
    (fits : Fits afterPoint (whole ++ '.' :: (fraction ++ (exponent ++ tail))) rest) :
    Munch afterPoint (whole ++ '.' :: (fraction ++ (exponent ++ tail))) rest := by
  have plain := isPlain_of_isRun run
  have identFraction := isIdent_of_isRun behind
  obtain ⟨lone, ahead⟩ := fits.point whole _ rfl
  rw [split_run_append (stops_cons.mpr point_not_ident)] at base
  rcases exponent_cases marked ends with ident | ⟨letter, sign, digits, same, marks, signs, ident⟩
  · exact .pointed base plain lone ahead (identFraction.append ident) fits.stops fits.noSign
  · have cut : whole ++ '.' :: (fraction ++ (exponent ++ tail)) =
        whole ++ '.' :: (fraction ++ [letter]) ++ sign :: digits := by simp [same]
    have front : PointAhead ('.' :: (fraction ++ [letter] ++ sign :: digits)) := by
      rw [same, List.append_assoc] at ahead
      have first : (letter :: sign :: digits ++ rest).head? = (letter :: sign :: digits).head? := rfl
      rw [List.append_assoc]
      exact pointAhead_append first ahead
    have letters : ∀ c ∈ whole ++ '.' :: fraction, isLetter c = false := by
      intro c member
      simp only [List.mem_append, List.mem_cons] at member
      rcases member with inWhole | rfl | inFraction
      · exact isLetter_of_isRun run c inWhole
      · decide
      · exact isLetter_of_isRun behind c inFraction
    have mark : EndsInMark (whole ++ '.' :: (fraction ++ [letter])) := by
      have concat := endsInMark_concat letters marks
      rwa [List.append_assoc, List.cons_append] at concat
    rw [cut] at fits ⊢
    exact .pointedSigned base plain lone front (identFraction.append (IsIdent.mark marks)) mark signs
      (fits.sign _ sign digits rfl signs) ident fits.stops

/-- A text spelled like a decimal literal is a number up to where it fits. -/
theorem munch_of_fits {afterPoint : Bool} {raw rest : Text} (number : IsNumber .decimal raw)
    (base : (Radix.split raw).1 = .decimal) (fits : Fits afterPoint raw rest) :
    Munch afterPoint raw rest := by
  obtain ⟨⟨whole, fraction, exponent, tail⟩, valid, rfl⟩ := number
  obtain ⟨run, -, -, pointed, marked, -, ends⟩ := valid
  cases pointed with
  | none =>
    simp only [Pieces.text, List.append_nil, List.append_assoc] at base fits ⊢
    exact munch_of_fits_integral run marked ends base fits
  | point behind =>
    simp only [Pieces.text, List.append_assoc, List.cons_append] at base fits ⊢
    exact munch_of_fits_pointed run behind marked ends base fits

theorem munch_iff_fits {afterPoint : Bool} {raw rest : Text} (number : IsNumber .decimal raw)
    (base : (Radix.split raw).1 = .decimal) : Munch afterPoint raw rest ↔ Fits afterPoint raw rest :=
  ⟨fun munch => munch.fits base, munch_of_fits number base⟩

end NumeralStyle.Lexeme
