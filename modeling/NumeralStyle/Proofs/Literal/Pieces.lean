import NumeralStyle.Proofs.CharClass.Ascii
import NumeralStyle.Proofs.Text.Runs

/-! The pieces of a number, said without the functions that read them. Pieces are valid when each of
them is spelled as its kind is, and maximal when none of them could be longer; splitting a text
finds the pieces that are both (`split_eq_ok_iff`). Any valid pieces can be made maximal, so a text
that has valid pieces is never refused (`exists_maximal`). -/
namespace NumeralStyle.Literal
open Text CharClass

/-- A run of digits of a base and of separators. -/
def IsRun (radix : Radix) (text : Text) : Prop := ∀ c ∈ text, isDigitOrSeparator radix c = true

/-- A fraction: nothing, or a point and a run. -/
inductive IsFraction : Text → Prop
  | none : IsFraction []
  | point {run : Text} : IsRun .decimal run → IsFraction ('.' :: run)

/-- An exponent: nothing, or its letter, a sign or none, and a run that has a digit. -/
inductive IsExponent : Text → Prop
  | none : IsExponent []
  | marked {letter : Char} {sign run : Text} : letter = 'e' ∨ letter = 'E' →
      sign = [] ∨ sign = ['+'] ∨ sign = ['-'] → IsRun .decimal run →
      (∃ c ∈ run, Radix.decimal.isDigit c = true) → IsExponent (letter :: (sign ++ run))

/-- A tail: nothing, or a letter and then letters, digits and separators. -/
inductive IsTail : Text → Prop
  | none : IsTail []
  | letters {first : Char} {rest : Text} : first.isAlpha = true →
      (∀ c ∈ rest, isTailChar c = true) → IsTail (first :: rest)

end NumeralStyle.Literal

namespace NumeralStyle

namespace Pieces
open Literal Text

/-- The pieces as they are written. -/
def text (pieces : Pieces) : Text :=
  pieces.whole ++ pieces.fraction ++ pieces.exponent ++ pieces.tail

/-- Each piece is spelled as its kind is. -/
structure Valid (radix : Radix) (pieces : Pieces) : Prop where
  whole : IsRun radix pieces.whole
  digit : ∃ c ∈ pieces.whole, radix.isDigit c = true
  /-- A decimal number starts with a digit; others may start with a separator. -/
  first : radix = .decimal → ∃ c ∈ pieces.whole.head?, radix.isDigit c = true
  fraction : IsFraction pieces.fraction
  exponent : IsExponent pieces.exponent
  /-- Only decimal numbers have a fraction or an exponent. -/
  integral : radix ≠ .decimal → pieces.fraction = [] ∧ pieces.exponent = []
  tail : IsTail pieces.tail

/-- No piece could take anything from the tail. -/
structure Maximal (radix : Radix) (pieces : Pieces) : Prop where
  run : Stops (isDigitOrSeparator radix) pieces.tail
  exponent : radix = .decimal → pieces.exponent = [] →
    splitExponent pieces.tail = ([], pieces.tail)

end Pieces

namespace Literal
open Text CharClass

theorem isDigitOrSeparator_of_isDigit {radix : Radix} {c : Char} (digit : radix.isDigit c = true) :
    isDigitOrSeparator radix c = true := by
  simp [isDigitOrSeparator, digit]

theorem isDigit_zero (radix : Radix) : radix.isDigit '0' = true := by
  cases radix <;> decide

theorem isTailChar_of_isDigitOrSeparator {radix : Radix} {c : Char}
    (inside : isDigitOrSeparator radix c = true) : isTailChar c = true := by
  simp only [isDigitOrSeparator, Bool.or_eq_true, beq_iff_eq] at inside
  rcases inside with digit | rfl
  · have listed : ∀ d ∈ radix.digits, isTailChar d = true := by cases radix <;> decide
    exact listed c (Radix.mem_of_isDigit digit)
  · decide

theorem IsRun.append {radix : Radix} {first second : Text} (left : IsRun radix first)
    (right : IsRun radix second) : IsRun radix (first ++ second) := by
  intro c member
  rcases List.mem_append.mp member with inFirst | inSecond
  · exact left c inFirst
  · exact right c inSecond

theorem isRun_takeWhile (radix : Radix) (text : Text) :
    IsRun radix (text.takeWhile (isDigitOrSeparator radix)) :=
  fun _ => List.mem_takeWhile_imp

/-- A character that ends a run of decimal digits and separators, and stands in a tail, is a letter:
the ten digits are digits of base ten and of base sixteen. -/
theorem isAlpha_of_isTailChar {radix : Radix} {c : Char} (tail : isTailChar c = true)
    (outside : isDigitOrSeparator radix c = false) (base : radix = .decimal ∨ radix = .hex) :
    c.isAlpha = true := by
  have ascii := ascii_of_isTailChar tail
  rcases base with rfl | rfl
  · exact ascii_forall (fun c => isTailChar c = true →
      isDigitOrSeparator .decimal c = false → c.isAlpha = true) (by decide) ascii tail outside
  · exact ascii_forall (fun c => isTailChar c = true →
      isDigitOrSeparator .hex c = false → c.isAlpha = true) (by decide) ascii tail outside

/-- No letter is a decimal digit or a separator. -/
theorem outside_of_isAlpha {c : Char} (letter : c.isAlpha = true) :
    isDigitOrSeparator .decimal c = false :=
  ascii_forall (fun c => c.isAlpha = true → isDigitOrSeparator .decimal c = false)
    (by decide) (ascii_of_isAlpha letter) letter

theorem IsTail.stops {tail : Text} (valid : IsTail tail) :
    Stops (isDigitOrSeparator .decimal) tail := by
  cases valid with
  | none => exact stops_nil _
  | letters letter _ => exact stops_cons.mpr (outside_of_isAlpha letter)

theorem checkTail_eq_ok_iff {radix : Radix} {tail : Text} :
    checkTail radix tail = .ok () ↔ IsTail tail := by
  cases tail with
  | nil => exact ⟨fun _ => .none, fun _ => rfl⟩
  | cons first rest =>
    by_cases accepted : (first.isAlpha && rest.all isTailChar) = true
    · obtain ⟨letter, others⟩ := Bool.and_eq_true_iff.mp accepted
      simp only [checkTail, accepted, if_true, true_iff]
      exact .letters letter (List.all_eq_true.mp others)
    · simp only [checkTail, accepted, Bool.false_eq_true, if_false, reduceCtorEq, false_iff]
      intro valid
      cases valid with
      | letters letter others =>
        exact accepted (Bool.and_eq_true_iff.mpr ⟨letter, List.all_eq_true.mpr others⟩)

/-! ## Fractions -/

theorem isFraction_splitFraction (text : Text) : IsFraction (splitFraction text).1 := by
  unfold splitFraction
  split
  · exact .point (isRun_takeWhile _ _)
  · exact .none

theorem splitFraction_append (text : Text) :
    (splitFraction text).1 ++ (splitFraction text).2 = text := by
  unfold splitFraction
  split
  · simp
  · rfl

theorem stops_splitFraction {text : Text} (stops : Stops (isDigitOrSeparator .decimal) text) :
    Stops (isDigitOrSeparator .decimal) (splitFraction text).2 := by
  unfold splitFraction
  split
  · exact stops_dropWhile _ _
  · exact stops

theorem splitFraction_of_isFraction {fraction rest : Text} (valid : IsFraction fraction)
    (stops : Stops (isDigitOrSeparator .decimal) rest) (noPoint : rest.head? ≠ some '.') :
    splitFraction (fraction ++ rest) = (fraction, rest) := by
  cases valid with
  | none =>
    unfold splitFraction
    split
    · rename_i same
      simp_all
    · rfl
  | point run =>
    simp only [List.cons_append, splitFraction, takeWhile_run_append run stops,
      dropWhile_run_append run stops]

/-! ## Exponents -/

theorem splitSign_append (text : Text) : (splitSign text).1 ++ (splitSign text).2 = text := by
  unfold splitSign
  split <;> rfl

theorem splitSign_sign (text : Text) :
    (splitSign text).1 = [] ∨ (splitSign text).1 = ['+'] ∨ (splitSign text).1 = ['-'] := by
  unfold splitSign
  split <;> simp

theorem splitSign_of_sign {sign run rest : Text} (signs : sign = [] ∨ sign = ['+'] ∨ sign = ['-'])
    (inside : IsRun .decimal run) (filled : run ≠ []) :
    splitSign (sign ++ run ++ rest) = (sign, run ++ rest) := by
  obtain ⟨first, others, rfl⟩ := List.exists_cons_of_ne_nil filled
  have digit := inside first (by simp)
  rcases signs with rfl | rfl | rfl
  · unfold splitSign
    split
    · rename_i same
      cases same
      exact absurd digit (by decide)
    · rename_i same
      cases same
      exact absurd digit (by decide)
    · rfl
  · rfl
  · rfl

theorem isExponent_splitExponent (text : Text) : IsExponent (splitExponent text).1 := by
  unfold splitExponent
  split
  · rename_i letter rest
    dsimp only
    split
    · rename_i found
      obtain ⟨marks, digits⟩ := found
      refine .marked marks (splitSign_sign rest) (isRun_takeWhile _ _) ?_
      simpa using digits
    · exact .none
  · exact .none

theorem splitExponent_append (text : Text) :
    (splitExponent text).1 ++ (splitExponent text).2 = text := by
  unfold splitExponent
  split
  · rename_i letter rest
    dsimp only
    split
    · simp only [List.cons_append, List.append_assoc, List.takeWhile_append_dropWhile,
        splitSign_append]
    · rfl
  · rfl

theorem stops_splitExponent {text : Text} (stops : Stops (isDigitOrSeparator .decimal) text) :
    Stops (isDigitOrSeparator .decimal) (splitExponent text).2 := by
  unfold splitExponent
  split
  · dsimp only
    split
    · exact stops_dropWhile _ _
    · exact stops
  · exact stops

theorem splitExponent_of_isExponent {exponent rest : Text} (valid : IsExponent exponent)
    (stops : Stops (isDigitOrSeparator .decimal) rest)
    (none : exponent = [] → splitExponent rest = ([], rest)) :
    splitExponent (exponent ++ rest) = (exponent, rest) := by
  cases valid with
  | none => exact none rfl
  | @marked letter sign run marks signs inside digit =>
    obtain ⟨c, member, isDigit⟩ := digit
    have signed : splitSign (sign ++ run ++ rest) = (sign, run ++ rest) :=
      splitSign_of_sign signs inside (List.ne_nil_of_mem member)
    have digits : run.any (Radix.decimal.isDigit ·) = true := List.any_eq_true.mpr ⟨c, member, isDigit⟩
    simp only [List.cons_append, splitExponent, signed, takeWhile_run_append inside stops,
      dropWhile_run_append inside stops, marks, digits, and_self, if_true]

theorem IsFraction.stops_append {fraction rest : Text} (valid : IsFraction fraction)
    (stops : Stops (isDigitOrSeparator .decimal) rest) :
    Stops (isDigitOrSeparator .decimal) (fraction ++ rest) := by
  cases valid with
  | none => exact stops
  | point _ => exact stops_cons.mpr (by decide)

theorem IsExponent.stops_append {exponent rest : Text} (valid : IsExponent exponent)
    (stops : Stops (isDigitOrSeparator .decimal) rest) :
    Stops (isDigitOrSeparator .decimal) (exponent ++ rest) := by
  cases valid with
  | none => exact stops
  | marked marks _ _ _ =>
    refine stops_cons.mpr ?_
    rcases marks with rfl | rfl <;> decide

/-- An exponent and a tail start with a letter, if they start at all. -/
theorem head_ne_point {exponent tail : Text} (valid : IsExponent exponent) (ends : IsTail tail) :
    (exponent ++ tail).head? ≠ some '.' := by
  cases valid with
  | none =>
    cases ends with
    | none => simp
    | letters letter _ =>
      simp only [List.nil_append, List.head?_cons, ne_eq, Option.some.injEq]
      rintro rfl
      exact absurd letter (by decide)
  | marked marks _ _ _ => rcases marks with rfl | rfl <;> simp

/-! ## Splitting -/

theorem splitDecimal_eq_some_iff {stem : Text} {pieces : Pieces} :
    (splitDecimal stem = some pieces ∧ IsTail pieces.tail) ↔
      pieces.Valid .decimal ∧ pieces.Maximal .decimal ∧ pieces.text = stem := by
  constructor
  · rintro ⟨found, tail⟩
    unfold splitDecimal at found
    split at found
    · simp at found
    · rename_i first rest
      split at found
      · rename_i digit
        dsimp only at found
        obtain rfl := Option.some.inj found
        have opens : (first :: rest).takeWhile (isDigitOrSeparator .decimal) =
            first :: rest.takeWhile (isDigitOrSeparator .decimal) :=
          List.takeWhile_cons_of_pos (isDigitOrSeparator_of_isDigit digit)
        refine ⟨⟨isRun_takeWhile _ _, ⟨first, ?_, digit⟩, fun _ => ⟨first, ?_, digit⟩,
          isFraction_splitFraction _, isExponent_splitExponent _, fun other => absurd rfl other,
          tail⟩, ⟨?_, fun _ missing => ?_⟩, ?_⟩
        · simp [opens]
        · simp [opens]
        · exact stops_splitExponent (stops_splitFraction (stops_dropWhile _ _))
        · dsimp only at missing ⊢
          have whole := splitExponent_append
            (splitFraction ((first :: rest).dropWhile (isDigitOrSeparator .decimal))).2
          rw [missing, List.nil_append] at whole
          rw [whole]
          exact Prod.ext missing whole
        · simp only [Pieces.text, List.append_assoc, splitExponent_append, splitFraction_append,
            List.takeWhile_append_dropWhile]
      · simp at found
  · rintro ⟨valid, maximal, rfl⟩
    refine ⟨?_, valid.tail⟩
    obtain ⟨whole, fraction, exponent, tail⟩ := pieces
    obtain ⟨first, starts, digit⟩ := valid.first rfl
    obtain ⟨others, rfl⟩ := List.head?_eq_some_iff.mp starts
    have behind := splitExponent_of_isExponent valid.exponent maximal.run (maximal.exponent rfl)
    have middle := splitFraction_of_isFraction valid.fraction
      (valid.exponent.stops_append maximal.run) (head_ne_point valid.exponent valid.tail)
    have stops := valid.fraction.stops_append (valid.exponent.stops_append maximal.run)
    have taken := takeWhile_run_append valid.whole stops
    have dropped := dropWhile_run_append valid.whole stops
    simp only [List.cons_append] at taken dropped
    simp only [Pieces.text, List.append_assoc, List.cons_append, splitDecimal, digit, if_true, taken,
      dropped, middle, behind]

/-- Neither digits nor a tail have a point. -/
theorem ne_point_of_isTailChar {c : Char} (tail : isTailChar c = true) : c ≠ '.' := by
  rintro rfl
  exact absurd tail (by decide)

theorem IsTail.chars {tail : Text} (valid : IsTail tail) : ∀ c ∈ tail, isTailChar c = true := by
  cases valid with
  | none => simp
  | letters letter others =>
    intro c member
    rcases List.mem_cons.mp member with rfl | behind
    · simp [isTailChar, Char.isAlphanum, letter]
    · exact others c behind

theorem splitPrefixed_iff {radix : Radix} {stem : Text} {pieces : Pieces}
    (base : radix ≠ .decimal) :
    (split radix stem = .ok pieces ∧ IsTail pieces.tail) ↔
      pieces.Valid radix ∧ pieces.Maximal radix ∧ pieces.text = stem := by
  rw [split, if_neg base]
  constructor
  · rintro ⟨found, tail⟩
    split at found
    · simp at found
    · dsimp only at found
      split at found
      · simp at found
      · rename_i filled
        obtain rfl := Except.ok.inj found
        have run : IsRun radix (stem.takeWhile (isDigitOrSeparator radix)) := isRun_takeWhile _ _
        have digit : ∃ c ∈ stem.takeWhile (isDigitOrSeparator radix), radix.isDigit c = true := by
          obtain ⟨c, member, different⟩ := List.all_eq_false.mp (Bool.eq_false_iff.mpr filled)
          have inside := run c member
          rw [isDigitOrSeparator, Bool.or_eq_true] at inside
          exact ⟨c, member, inside.resolve_right different⟩
        refine ⟨⟨run, digit, fun same => absurd same base, .none, .none, fun _ => ⟨rfl, rfl⟩, tail⟩,
          ⟨stops_dropWhile _ _, fun same => absurd same base⟩, ?_⟩
        simp [Pieces.text, splitPrefixed]
  · rintro ⟨valid, maximal, rfl⟩
    refine ⟨?_, valid.tail⟩
    obtain ⟨whole, fraction, exponent, tail⟩ := pieces
    obtain ⟨rfl, rfl⟩ := valid.integral base
    have taken := takeWhile_run_append valid.whole maximal.run
    have dropped := dropWhile_run_append valid.whole maximal.run
    have noPoint : (whole ++ tail).contains '.' = false := by
      rw [Bool.eq_false_iff, ne_eq, List.contains_iff_mem, List.mem_append]
      rintro (inWhole | inTail)
      · exact ne_point_of_isTailChar (isTailChar_of_isDigitOrSeparator (valid.whole _ inWhole)) rfl
      · exact ne_point_of_isTailChar (valid.tail.chars _ inTail) rfl
    have filled : whole.all (· == separator) = false := by
      obtain ⟨c, member, digit⟩ := valid.digit
      rw [Bool.eq_false_iff, ne_eq, List.all_eq_true]
      intro separators
      obtain rfl := beq_iff_eq.mp (separators c member)
      exact absurd digit (by cases radix <;> decide)
    simp only [Pieces.text, List.append_nil, noPoint, Bool.false_eq_true, if_false, splitPrefixed,
      taken, dropped, filled]

/-- Splitting a text and accepting its tail finds the valid and maximal pieces that spell it. -/
theorem split_eq_ok_iff {radix : Radix} {stem : Text} {pieces : Pieces} :
    (split radix stem = .ok pieces ∧ IsTail pieces.tail) ↔
      pieces.Valid radix ∧ pieces.Maximal radix ∧ pieces.text = stem := by
  by_cases base : radix = .decimal
  · subst base
    rw [← splitDecimal_eq_some_iff, split]
    cases splitDecimal stem <;> simp
  · exact splitPrefixed_iff base

/-! ## Acceptance -/

/-- A text that valid pieces spell. -/
def IsNumber (radix : Radix) (text : Text) : Prop :=
  ∃ pieces : Pieces, pieces.Valid radix ∧ pieces.text = text

/-- What is left of a tail behind digits is a tail again, where all ten digits are digits. -/
theorem isTail_of_stops {radix : Radix} {text : Text} (base : radix = .decimal ∨ radix = .hex)
    (inside : ∀ c ∈ text, isTailChar c = true) (stops : Stops (isDigitOrSeparator radix) text) :
    IsTail text := by
  cases text with
  | nil => exact .none
  | cons first rest =>
    exact .letters (isAlpha_of_isTailChar (inside first (by simp)) (stops_cons.mp stops) base)
      fun c member => inside c (by simp [member])

theorem IsTail.dropWhile {radix : Radix} {tail : Text} (base : radix ≠ .decimal)
    (valid : IsTail tail) : IsTail (tail.dropWhile (isDigitOrSeparator radix)) := by
  by_cases hex : radix = .hex
  · exact isTail_of_stops (.inr hex)
      (fun c member => valid.chars c ((List.dropWhile_sublist _).mem member))
      (stops_dropWhile _ _)
  · cases valid with
    | none => exact .none
    | @letters first rest letter others =>
      have outside : isDigitOrSeparator radix first = false := by
        revert letter
        refine fun letter => ascii_forall (fun c => c.isAlpha = true →
          isDigitOrSeparator radix c = false) ?_ (ascii_of_isAlpha letter) letter
        cases radix with
        | decimal => exact absurd rfl base
        | hex => exact absurd rfl hex
        | octal => decide
        | binary => decide
      rw [List.dropWhile_cons_of_neg (by simp [outside])]
      exact .letters letter others

/-- Valid pieces give up to their neighbours what these can take. -/
theorem exists_maximal {radix : Radix} {pieces : Pieces} (valid : pieces.Valid radix) :
    ∃ longest : Pieces, longest.Valid radix ∧ longest.Maximal radix ∧ longest.text = pieces.text := by
  obtain ⟨whole, fraction, exponent, tail⟩ := pieces
  by_cases base : radix = .decimal
  · subst base
    by_cases marked : exponent = []
    · subst marked
      have spelled := splitExponent_append tail
      have stops := stops_splitExponent valid.tail.stops
      have ends : IsTail (splitExponent tail).2 := by
        refine isTail_of_stops (.inl rfl) (fun c member => valid.tail.chars c ?_) stops
        exact spelled ▸ List.mem_append_right _ member
      refine ⟨⟨whole, fraction, (splitExponent tail).1, (splitExponent tail).2⟩,
        { valid with
          exponent := isExponent_splitExponent tail
          integral := fun other => absurd rfl other
          tail := ends },
        ⟨stops, fun _ missing => ?_⟩, ?_⟩
      · dsimp only at missing ⊢
        rw [missing, List.nil_append] at spelled
        rw [spelled]
        exact Prod.ext missing spelled
      · simp [Pieces.text, spelled]
    · exact ⟨_, valid, ⟨valid.tail.stops, fun _ missing => absurd missing marked⟩, rfl⟩
  · obtain ⟨rfl, rfl⟩ := valid.integral base
    obtain ⟨c, member, digit⟩ := valid.digit
    refine ⟨⟨whole ++ tail.takeWhile (isDigitOrSeparator radix), [], [],
        tail.dropWhile (isDigitOrSeparator radix)⟩,
      { valid with
        whole := valid.whole.append (isRun_takeWhile _ _)
        digit := ⟨c, List.mem_append_left _ member, digit⟩
        first := fun same => absurd same base
        tail := valid.tail.dropWhile base },
      ⟨stops_dropWhile _ _, fun same => absurd same base⟩, ?_⟩
    simp [Pieces.text]

/-- In a base other than ten the longest run at the start decides. -/
theorem isNumber_prefixed_iff {radix : Radix} (base : radix ≠ .decimal) {body : Text} :
    IsNumber radix body ↔
      (∃ c ∈ body.takeWhile (isDigitOrSeparator radix), radix.isDigit c = true) ∧
        IsTail (body.dropWhile (isDigitOrSeparator radix)) := by
  constructor
  · rintro ⟨pieces, valid, rfl⟩
    obtain ⟨⟨whole, fraction, exponent, tail⟩, valid, maximal, spelled⟩ := exists_maximal valid
    obtain ⟨rfl, rfl⟩ := valid.integral base
    rw [← spelled]
    simp only [Pieces.text, List.append_nil]
    rw [takeWhile_run_append valid.whole maximal.run, dropWhile_run_append valid.whole maximal.run]
    exact ⟨valid.digit, valid.tail⟩
  · rintro ⟨digit, tail⟩
    exact ⟨⟨_, [], [], _⟩, ⟨isRun_takeWhile _ _, digit, fun same => absurd same base, .none, .none,
      fun _ => ⟨rfl, rfl⟩, tail⟩, by simp [Pieces.text]⟩

end NumeralStyle.Literal
