import NumeralStyle.Proofs.CharClass.Ascii
import NumeralStyle.Proofs.Text.Runs
import NumeralStyle.Source.Lexeme

/-! How far a number reaches. The five ways in which a number can end are the cases of `Munch`, each
with what it looks at: the number itself, whether a lone point is behind it, and the first two
characters after it. `Lexeme.numberText` takes a number from the start of a text exactly if it
reaches that far by one of the five (`munch_numberText`, `numberText_of_munch`). -/
namespace NumeralStyle.Lexeme
open CharClass Text

/-- Identifier characters only. -/
def IsIdent (text : Text) : Prop := ∀ c ∈ text, isIdentChar c = true

/-- Digits of any script and underscores only. -/
def IsPlain (text : Text) : Prop := ∀ c ∈ text, isDigit c = true ∨ c = '_'

/-- The letter of an exponent at the end, and no letter before it. -/
def EndsInMark (number : Text) : Prop :=
  ∃ before letter, number = before ++ [letter] ∧ (letter = 'e' ∨ letter = 'E') ∧
    ∀ c ∈ before, isLetter c = false

/-- A digit at the start. -/
def StartsWithDigit (text : Text) : Prop := ∃ c ∈ text.head?, isDigit c = true

/-- A sign and a digit at the start. -/
def SignAhead (rest : Text) : Prop :=
  ∃ sign digit others, rest = sign :: digit :: others ∧ (sign = '+' ∨ sign = '-') ∧
    isDigit digit = true

/-- A point at the start, with neither another point nor a name behind it. -/
def PointAhead (rest : Text) : Prop :=
  ∃ others, rest = '.' :: others ∧ ∀ c ∈ others.head?, c ≠ '.' ∧ isIdentStart c = false

/-- A number that reaches just up to `rest`. -/
inductive Munch (afterPoint : Bool) : (number rest : Text) → Prop
  /-- Behind the lead of a base, all identifier characters. -/
  | prefixed {run rest : Text} : (Radix.split run).1 ≠ .decimal → IsIdent run →
      Stops isIdentChar rest → Munch afterPoint run rest
  /-- All identifier characters, and neither an exponent's sign nor a point of its own behind. -/
  | plain {run rest : Text} : (Radix.split run).1 = .decimal → IsIdent run →
      Stops isIdentChar rest → ¬ (EndsInMark run ∧ SignAhead rest) →
      ¬ (afterPoint = false ∧ IsPlain run ∧ PointAhead rest) → Munch afterPoint run rest
  /-- An exponent with a sign. -/
  | signed {run digits rest : Text} {sign : Char} : (Radix.split run).1 = .decimal → IsIdent run →
      EndsInMark run → (sign = '+' ∨ sign = '-') → StartsWithDigit digits →
      IsIdent digits → Stops isIdentChar rest → Munch afterPoint (run ++ sign :: digits) rest
  /-- A point and what is behind it, and no exponent's sign behind that. -/
  | pointed {run fraction rest : Text} : (Radix.split run).1 = .decimal → IsPlain run →
      afterPoint = false → PointAhead ('.' :: (fraction ++ rest)) → IsIdent fraction →
      Stops isIdentChar rest → ¬ (EndsInMark (run ++ '.' :: fraction) ∧ SignAhead rest) →
      Munch afterPoint (run ++ '.' :: fraction) rest
  /-- A point and an exponent with a sign. -/
  | pointedSigned {run fraction digits rest : Text} {sign : Char} :
      (Radix.split run).1 = .decimal → IsPlain run → afterPoint = false →
      PointAhead ('.' :: (fraction ++ sign :: digits)) → IsIdent fraction →
      EndsInMark (run ++ '.' :: fraction) → (sign = '+' ∨ sign = '-') →
      StartsWithDigit digits → IsIdent digits → Stops isIdentChar rest →
      Munch afterPoint (run ++ '.' :: fraction ++ sign :: digits) rest

/-! ## What a number looks at -/

theorem sign_not_ident {sign : Char} (signs : sign = '+' ∨ sign = '-') :
    isIdentChar sign = false := by
  rcases signs with rfl | rfl <;> decide

theorem point_not_ident : isIdentChar '.' = false := by decide

theorem IsPlain.isIdent {text : Text} (plain : IsPlain text) : IsIdent text := by
  intro c member
  rcases plain c member with digit | rfl
  · exact isIdentChar_of_isDigit digit
  · decide

theorem pointAhead_cons {others : Text} :
    PointAhead ('.' :: others) ↔ ∀ c ∈ others.head?, c ≠ '.' ∧ isIdentStart c = false := by
  constructor
  · rintro ⟨behind, same, next⟩
    obtain ⟨-, rfl⟩ := List.cons.inj same
    exact next
  · exact fun next => ⟨others, rfl, next⟩

/-- Of the text behind a point, its first character counts. -/
theorem pointAhead_append {others rest more : Text} (same : rest.head? = more.head?)
    (ahead : PointAhead ('.' :: (others ++ rest))) : PointAhead ('.' :: (others ++ more)) := by
  refine pointAhead_cons.mpr fun c starts => pointAhead_cons.mp ahead c ?_
  cases others with
  | nil => rwa [List.nil_append, same]
  | cons next others => exact starts

theorem not_endsInMark_of_isPlain {text : Text} (plain : IsPlain text) : ¬ EndsInMark text := by
  rintro ⟨before, letter, rfl, marks, -⟩
  have last := plain letter (by simp)
  rcases marks with rfl | rfl <;> exact absurd last (by decide)

theorem signedExponent_of_not {number text : Text} (not : ¬ (EndsInMark number ∧ SignAhead text)) :
    signedExponent number text = [] := by
  unfold signedExponent
  split
  · rename_i letter before sign digit rest reversed
    split
    · rename_i holds
      simp only [Bool.and_eq_true, Bool.or_eq_true, beq_iff_eq, Bool.not_eq_true',
        List.any_eq_false, Bool.not_eq_true] at holds
      obtain ⟨⟨⟨marks, letters⟩, signs⟩, isDigit⟩ := holds
      refine absurd ⟨⟨before.reverse, letter, ?_, marks, ?_⟩, sign, digit, rest, rfl, signs, isDigit⟩
        not
      · simpa using congrArg List.reverse reversed
      · intro c member
        exact letters c (List.mem_reverse.mp member)
    · rfl
  · rfl

theorem signedExponent_of_mark {number digits rest : Text} {sign : Char} (mark : EndsInMark number)
    (signs : sign = '+' ∨ sign = '-') (digit : StartsWithDigit digits)
    (ident : IsIdent digits) (stops : Stops isIdentChar rest) :
    signedExponent number (sign :: digits ++ rest) = sign :: digits := by
  obtain ⟨before, letter, rfl, marks, letters⟩ := mark
  obtain ⟨first, starts, isDigit⟩ := digit
  obtain ⟨others, rfl⟩ := List.head?_eq_some_iff.mp starts
  have taken := takeWhile_run_append ident stops
  have holds : ((letter == 'e' || letter == 'E') && !before.reverse.any isLetter &&
      (sign == '+' || sign == '-') && CharClass.isDigit first) = true := by
    simp only [Bool.and_eq_true, Bool.or_eq_true, beq_iff_eq, Bool.not_eq_true',
      List.any_eq_false, Bool.not_eq_true]
    exact ⟨⟨⟨marks, fun c member => letters c (List.mem_reverse.mp member)⟩, signs⟩, isDigit⟩
  simp only [signedExponent, List.reverse_append, List.reverse_singleton, List.cons_append,
    List.nil_append, holds, if_true]
  rw [← List.cons_append, taken]

theorem takesPoint_iff {number text : Text} :
    takesPoint number text = true ↔ IsPlain number ∧ PointAhead text := by
  have plain : (number.all fun c => isDigit c || c == '_') = true ↔ IsPlain number := by
    simp [IsPlain]
  unfold takesPoint
  rw [Bool.and_eq_true, plain, and_comm]
  refine and_congr_right fun _ => ?_
  split
  · exact ⟨fun _ => ⟨[], rfl, by simp⟩, fun _ => rfl⟩
  · rename_i next others
    simp only [Bool.and_eq_true, bne_iff_ne, ne_eq, Bool.not_eq_true']
    constructor
    · rintro ⟨single, start⟩
      exact ⟨next :: others, rfl, by simpa using ⟨single, start⟩⟩
    · rintro ⟨behind, same, ahead⟩
      obtain ⟨-, rfl⟩ := List.cons.inj same
      exact ahead next rfl
  · rename_i notLast notMore
    simp only [Bool.false_eq_true, false_iff]
    rintro ⟨behind, rfl, -⟩
    cases behind with
    | nil => exact notLast rfl
    | cons next others => exact notMore next others rfl

/-- Two characters decide the base. -/
theorem split_cons_cons (c d : Char) (rest : Text) :
    (Radix.split (c :: d :: rest)).1 = (Radix.split [c, d]).1 := by
  unfold Radix.split
  split <;> simp_all

/-- The lead of a base lies within a run of identifier characters. -/
theorem split_run_append {run rest : Text} (stops : Stops isIdentChar rest) :
    (Radix.split (run ++ rest)).1 = (Radix.split run).1 := by
  match run, rest with
  | [], [] => rfl
  | [], c :: rest =>
    have outside := stops_cons.mp stops
    have notZero : c ≠ '0' := by rintro rfl; exact absurd outside (by decide)
    simp only [List.nil_append]
    unfold Radix.split
    split <;> simp_all
  | [c], [] => rfl
  | [c], d :: rest =>
    have outside := stops_cons.mp stops
    have notLetter : d ≠ 'x' ∧ d ≠ 'o' ∧ d ≠ 'b' := by
      refine ⟨?_, ?_, ?_⟩ <;> rintro rfl <;> exact absurd outside (by decide)
    rw [List.singleton_append, split_cons_cons]
    unfold Radix.split
    split <;> simp_all
  | c :: d :: run, rest =>
    rw [List.cons_append, List.cons_append, split_cons_cons, split_cons_cons c d run]

/-- The sign of an exponent takes the run behind it along. -/
theorem exists_signed {number rest : Text} (mark : EndsInMark number) (ahead : SignAhead rest) :
    ∃ sign digits behind, rest = sign :: digits ++ behind ∧ (sign = '+' ∨ sign = '-') ∧
      StartsWithDigit digits ∧ IsIdent digits ∧ Stops isIdentChar behind ∧
      signedExponent number rest = sign :: digits := by
  obtain ⟨sign, first, others, rfl, signs, digit⟩ := ahead
  have ident : IsIdent ((first :: others).takeWhile isIdentChar) := fun _ => List.mem_takeWhile_imp
  have stops := stops_dropWhile isIdentChar (first :: others)
  have starts : StartsWithDigit ((first :: others).takeWhile isIdentChar) :=
    ⟨first, by simp [isIdentChar_of_isDigit digit], digit⟩
  have whole := List.takeWhile_append_dropWhile (p := isIdentChar) (l := first :: others)
  refine ⟨sign, _, _, ?_, signs, starts, ident, stops, ?_⟩
  · rw [List.cons_append, whole]
  · have taken := signedExponent_of_mark mark signs starts ident stops
    rwa [List.cons_append, whole] at taken

/-- The number at the start of a text reaches just up to what is left of the text. -/
theorem munch_numberText (afterPoint : Bool) (text : Text) :
    ∃ rest, text = numberText afterPoint text ++ rest ∧
      Munch afterPoint (numberText afterPoint text) rest := by
  have whole := List.takeWhile_append_dropWhile (p := isIdentChar) (l := text)
  have ident : IsIdent (text.takeWhile isIdentChar) := fun _ => List.mem_takeWhile_imp
  have stops := stops_dropWhile isIdentChar text
  have base : (Radix.split text).1 = (Radix.split (text.takeWhile isIdentChar)).1 := by
    have lead : (Radix.split (text.takeWhile isIdentChar ++ text.dropWhile isIdentChar)).1 = _ :=
      split_run_append stops
    rwa [whole] at lead
  unfold numberText
  generalize text.takeWhile isIdentChar = run at *
  generalize text.dropWhile isIdentChar = rest at *
  dsimp only
  by_cases prefixed : (Radix.split text).1 ≠ .decimal
  · rw [if_pos prefixed]
    exact ⟨rest, whole.symm, .prefixed (base ▸ prefixed) ident stops⟩
  rw [if_neg prefixed]
  have decimal : (Radix.split run).1 = .decimal := base ▸ Classical.not_not.mp prefixed
  by_cases marked : EndsInMark run ∧ SignAhead rest
  · obtain ⟨sign, digits, behind, rfl, signs, digit, inside, stops, taken⟩ :=
      exists_signed marked.1 marked.2
    rw [taken, if_pos (List.cons_ne_nil sign digits)]
    refine ⟨behind, ?_, .signed decimal ident marked.1 signs digit inside stops⟩
    rw [← whole, List.append_assoc]
  rw [signedExponent_of_not marked, if_neg fun some => some rfl]
  by_cases point : ¬ (!afterPoint && takesPoint run rest) = true
  · rw [if_neg point]
    refine ⟨rest, whole.symm, .plain decimal ident stops marked fun own => point ?_⟩
    rw [own.1, takesPoint_iff.mpr own.2]
    rfl
  rw [Classical.not_not] at point
  rw [if_pos point]
  simp only [Bool.and_eq_true, Bool.not_eq_true', takesPoint_iff] at point
  obtain ⟨lone, plain, ahead⟩ := point
  obtain ⟨others, rfl, next⟩ := ahead
  rw [List.tail_cons]
  have wholeFraction := List.takeWhile_append_dropWhile (p := isIdentChar) (l := others)
  have identFraction : IsIdent (others.takeWhile isIdentChar) := fun _ => List.mem_takeWhile_imp
  have stopsFraction := stops_dropWhile isIdentChar others
  generalize others.takeWhile isIdentChar = fraction at *
  generalize others.dropWhile isIdentChar = behind at *
  subst wholeFraction
  by_cases marked : EndsInMark (run ++ '.' :: fraction) ∧ SignAhead behind
  · obtain ⟨sign, digits, last, rfl, signs, digit, inside, stops, taken⟩ :=
      exists_signed marked.1 marked.2
    rw [taken]
    refine ⟨last, ?_, .pointedSigned decimal plain lone ?_ identFraction marked.1 signs digit inside
      stops⟩
    · rw [← whole]
      simp
    · have same : (sign :: digits ++ last).head? = (sign :: digits).head? := rfl
      exact pointAhead_append same (pointAhead_cons.mpr next)
  · rw [signedExponent_of_not marked, List.append_nil]
    refine ⟨behind, ?_, .pointed decimal plain lone (pointAhead_cons.mpr next)
      identFraction stopsFraction marked⟩
    rw [← whole]
    simp

/-- A point that belongs to a number takes the run behind it along. -/
theorem numberText_point {run fraction rest : Text} (base : (Radix.split run).1 = .decimal)
    (plain : IsPlain run) (ahead : PointAhead ('.' :: (fraction ++ rest)))
    (ident : IsIdent fraction) (stops : Stops isIdentChar rest) :
    numberText false (run ++ '.' :: (fraction ++ rest)) =
      run ++ '.' :: fraction ++ signedExponent (run ++ '.' :: fraction) rest := by
  have stopsPoint : Stops isIdentChar ('.' :: (fraction ++ rest)) := stops_cons.mpr point_not_ident
  have noMark : ¬ (EndsInMark run ∧ SignAhead ('.' :: (fraction ++ rest))) :=
    fun marked => not_endsInMark_of_isPlain plain marked.1
  have point : (!false && takesPoint run ('.' :: (fraction ++ rest))) = true :=
    takesPoint_iff.mpr ⟨plain, ahead⟩
  rw [← split_run_append stopsPoint] at base
  unfold numberText
  dsimp only
  rw [if_neg fun other => other base, takeWhile_run_append plain.isIdent stopsPoint,
    dropWhile_run_append plain.isIdent stopsPoint, signedExponent_of_not noMark,
    if_neg fun some => some rfl, if_pos point, List.tail_cons, takeWhile_run_append ident stops,
    dropWhile_run_append ident stops]

/-- A number that reaches just up to `rest` is the one at the start of the text. -/
theorem numberText_of_munch {afterPoint : Bool} {number rest : Text}
    (munch : Munch afterPoint number rest) : numberText afterPoint (number ++ rest) = number := by
  cases munch with
  | prefixed base ident stops =>
    rw [← split_run_append stops] at base
    unfold numberText
    dsimp only
    rw [if_pos base, takeWhile_run_append ident stops]
  | plain base ident stops noSign noPoint =>
    rw [← split_run_append stops] at base
    have point : ¬ (!afterPoint && takesPoint number rest) = true := by
      simpa [takesPoint_iff] using noPoint
    unfold numberText
    dsimp only
    rw [if_neg fun other => other base, takeWhile_run_append ident stops,
      dropWhile_run_append ident stops, signedExponent_of_not noSign, if_neg fun some => some rfl,
      if_neg point]
  | @signed run digits _ sign base ident mark signs digit inside stops =>
    have stopsSign : Stops isIdentChar (sign :: digits ++ rest) :=
      stops_cons.mpr (sign_not_ident signs)
    rw [← split_run_append stopsSign] at base
    have taken := signedExponent_of_mark mark signs digit inside stops
    unfold numberText
    dsimp only
    rw [List.append_assoc, if_neg fun other => other base, takeWhile_run_append ident stopsSign,
      dropWhile_run_append ident stopsSign, taken,
      if_pos (List.cons_ne_nil sign digits)]
  | pointed base plain lone ahead ident stops noSign =>
    subst lone
    rw [List.append_assoc, List.cons_append, numberText_point base plain ahead ident stops,
      signedExponent_of_not noSign, List.append_nil]
  | @pointedSigned run fraction digits _ sign base plain lone ahead ident mark signs digit inside
      stops =>
    subst lone
    have stopsSign : Stops isIdentChar (sign :: digits ++ rest) :=
      stops_cons.mpr (sign_not_ident signs)
    have whole : run ++ '.' :: fraction ++ sign :: digits ++ rest =
        run ++ '.' :: (fraction ++ (sign :: digits ++ rest)) := by simp
    have same : (sign :: digits).head? = (sign :: digits ++ rest).head? := rfl
    rw [whole, numberText_point base plain (pointAhead_append same ahead) ident stopsSign,
      signedExponent_of_mark mark signs digit inside stops]

theorem Munch.stops {afterPoint : Bool} {number rest : Text} (munch : Munch afterPoint number rest) :
    Stops isIdentChar rest := by
  cases munch <;> assumption

/-- A number looks at the text behind it only for what starts there: an identifier character, the sign
of an exponent, or a point. -/
theorem Munch.congr {afterPoint : Bool} {number rest others : Text}
    (munch : Munch afterPoint number rest) (stops : Stops isIdentChar others)
    (sign : SignAhead others → SignAhead rest) (point : PointAhead others → PointAhead rest)
    (behind : ∀ fraction, PointAhead ('.' :: (fraction ++ rest)) →
      PointAhead ('.' :: (fraction ++ others))) : Munch afterPoint number others := by
  cases munch with
  | prefixed base ident => exact .prefixed base ident stops
  | plain base ident _ noSign noPoint =>
    refine .plain base ident stops (fun marked => noSign ?_) fun own => noPoint ?_
    · exact ⟨marked.1, sign marked.2⟩
    · exact ⟨own.1, own.2.1, point own.2.2⟩
  | signed base ident mark signs digit inside =>
    exact .signed base ident mark signs digit inside stops
  | @pointed run fraction _ base plain lone ahead ident _ noSign =>
    exact .pointed base plain lone (behind fraction ahead) ident stops fun marked =>
      noSign ⟨marked.1, sign marked.2⟩
  | pointedSigned base plain lone ahead ident mark signs digit inside =>
    exact .pointedSigned base plain lone ahead ident mark signs digit inside stops

/-- Behind the lead of a base a number has identifier characters only. -/
theorem Munch.isIdent_of_prefixed {afterPoint : Bool} {number rest : Text}
    (munch : Munch afterPoint number rest) (base : (Radix.split number).1 ≠ .decimal) :
    IsIdent number := by
  cases munch with
  | prefixed _ ident => exact ident
  | plain decimal => exact absurd decimal base
  | signed decimal _ _ signs =>
    rw [split_run_append (stops_cons.mpr (sign_not_ident signs))] at base
    exact absurd decimal base
  | pointed decimal =>
    rw [split_run_append (stops_cons.mpr point_not_ident)] at base
    exact absurd decimal base
  | pointedSigned decimal =>
    rw [List.append_assoc, List.cons_append,
      split_run_append (stops_cons.mpr point_not_ident)] at base
    exact absurd decimal base

end NumeralStyle.Lexeme
