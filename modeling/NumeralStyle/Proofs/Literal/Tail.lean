import NumeralStyle.Proofs.Literal.Known

/-! Tails among digits. The tail of an integer counts with its integer part, so what is done to the
digits of an integer is done to its tail as well. As long as the separators are all that differs, the
digits are found again in front of the tail, and no exponent is found in it (`parse_recut`). -/
namespace NumeralStyle.Literal
open Text CharClass

/-! ## Where a tail starts -/

theorem ne_separator_of_isAlpha {c : Char} (letter : c.isAlpha = true) : c ≠ separator := by
  rintro rfl
  exact absurd letter (by decide)

theorem withoutSeparators_cons {c : Char} {rest : Text} (other : c ≠ separator) :
    withoutSeparators (c :: rest) = c :: withoutSeparators rest :=
  List.filter_cons_of_pos (bne_iff_ne.mpr other)

/-- What starts behind the digits of a text starts there also among separators. -/
theorem exists_dropWhile_eq {radix : Radix} {text run behind : Text} {c : Char}
    (spelled : withoutSeparators text = run ++ c :: behind)
    (inside : ∀ d ∈ run, radix.isDigit d = true) (stops : radix.isDigit c = false) :
    ∃ rest, text.dropWhile (isDigitOrSeparator radix) = c :: rest ∧
      withoutSeparators rest = behind := by
  have whole := List.takeWhile_append_dropWhile (p := isDigitOrSeparator radix) (l := text)
  have front := isRun_takeWhile radix text
  have outside := stops_dropWhile (isDigitOrSeparator radix) text
  generalize text.takeWhile (isDigitOrSeparator radix) = before at *
  generalize text.dropWhile (isDigitOrSeparator radix) = after at *
  have digits := isDigit_of_mem_withoutSeparators front
  have cut : withoutSeparators before ++ withoutSeparators after = run ++ c :: behind := by
    rw [← spelled, ← whole]
    exact (List.filter_append ..).symm
  cases after with
  | nil =>
    have member : c ∈ withoutSeparators before ++ withoutSeparators [] := by simp [cut]
    rw [digits c (by simpa [withoutSeparators] using member)] at stops
    cases stops
  | cons d rest =>
    have neither := stops_cons.mp outside
    simp only [isDigitOrSeparator, Bool.or_eq_false_iff, beq_eq_false_iff_ne] at neither
    rw [withoutSeparators_cons neither.2] at cut
    have left := congrArg (List.dropWhile radix.isDigit) cut
    rw [dropWhile_run_append digits (stops_cons.mpr neither.1),
      dropWhile_run_append inside (stops_cons.mpr stops)] at left
    obtain ⟨rfl, same⟩ := List.cons.inj left
    exact ⟨rest, rfl, same⟩

theorem not_isDigit_of_isAlpha {radix : Radix} (low : radix = .decimal ∨ radix = .octal) {c : Char}
    (letter : c.isAlpha = true) : radix.isDigit c = false := by
  have ascii := ascii_of_isAlpha letter
  rcases low with rfl | rfl
  · exact ascii_forall (fun c => c.isAlpha = true → Radix.decimal.isDigit c = false) (by decide)
      ascii letter
  · exact ascii_forall (fun c => c.isAlpha = true → Radix.octal.isDigit c = false) (by decide)
      ascii letter

theorem stops_tail {radix : Radix} (letters : ∀ c : Char, c.isAlpha = true → radix.isDigit c = false)
    {tail : Text} (ends : IsTail tail) :
    Stops radix.isDigit tail ∧ Stops radix.isDigit (withoutSeparators tail) := by
  cases ends with
  | none => exact ⟨stops_nil _, stops_nil _⟩
  | letters letter _ =>
    rw [withoutSeparators_cons (ne_separator_of_isAlpha letter)]
    exact ⟨stops_cons.mpr (letters _ letter), stops_cons.mpr (letters _ letter)⟩

/-- The digits of an integer go on with its tail. -/
theorem digits_of_integral {literal : Literal} (integral : literal.isPointed = false) :
    literal.digits = withoutSeparators literal.whole ++ withoutSeparators literal.tail := by
  have part : literal.integerPart = literal.whole ++ literal.tail := by simp [integerPart, integral]
  rw [digits_eq_withoutSeparators, part]
  exact List.filter_append ..

/-- Taking leading zeros off digits with a tail leaves the tail, unless it then comes first. -/
theorem dropWhile_zeros_append {radix : Radix} {digits tail : Text} (stops : Stops radix.isDigit tail)
    (starts : ∃ c ∈ ((digits ++ tail).dropWhile (· == '0')).head?, radix.isDigit c = true) :
    (digits ++ tail).dropWhile (· == '0') = digits.dropWhile (· == '0') ++ tail := by
  rw [List.dropWhile_append] at starts ⊢
  rw [if_neg]
  intro gone
  rw [if_pos gone] at starts
  have noZero : Stops (· == '0') tail := by
    intro d first
    rw [beq_eq_false_iff_ne]
    rintro rfl
    have outside := stops '0' first
    rw [isDigit_zero] at outside
    cases outside
  have nothing : ∀ d ∈ ([] : Text), (d == '0') = true := by simp
  have kept : tail.dropWhile (· == '0') = tail := dropWhile_run_append nothing noZero
  obtain ⟨c, first, isDigit⟩ := starts
  rw [kept] at first
  rw [stops c first] at isDigit
  cases isDigit

/-! ## Exponents -/

theorem splitSign_of_tail {text : Text} (chars : ∀ c ∈ text, isTailChar c = true) :
    splitSign text = ([], text) := by
  unfold splitSign
  split
  · exact absurd (chars '+' (by simp)) (by decide)
  · exact absurd (chars '-' (by simp)) (by decide)
  · rfl

/-- A run has a digit if the text has one at its start, the separators aside. -/
theorem any_takeWhile_isDigit (text : Text) :
    (text.takeWhile (isDigitOrSeparator .decimal)).any (Radix.decimal.isDigit ·) =
      (withoutSeparators text).head?.any (Radix.decimal.isDigit ·) := by
  induction text with
  | nil => rfl
  | cons c rest ih =>
    by_cases between : c = separator
    · subst between
      have passes : isDigitOrSeparator .decimal separator = true := by decide
      rw [List.takeWhile_cons_of_pos passes, List.any_cons, ih, not_isDigit_separator,
        Bool.false_or]
      rfl
    · rw [withoutSeparators_cons between]
      cases digit : Radix.decimal.isDigit c with
      | true => simp [isDigitOrSeparator, digit]
      | false => simp [isDigitOrSeparator, digit, between]

/-- Whether an exponent starts a text does not depend on separators behind its letter. -/
theorem splitExponent_congr {letter : Char} {rest others : Text}
    (chars : ∀ c ∈ rest, isTailChar c = true) (chars' : ∀ c ∈ others, isTailChar c = true)
    (same : withoutSeparators rest = withoutSeparators others)
    (none : splitExponent (letter :: rest) = ([], letter :: rest)) :
    splitExponent (letter :: others) = ([], letter :: others) := by
  simp only [splitExponent, splitSign_of_tail chars, any_takeWhile_isDigit] at none
  simp only [splitExponent, splitSign_of_tail chars', any_takeWhile_isDigit, ← same]
  split at none
  · cases none
  · rename_i missing
    rw [if_neg missing]

theorem splitExponent_tail {literal : Literal} (maximal : literal.toPieces.Maximal literal.radix)
    (integral : literal.isPointed = false) (base : literal.radix = .decimal) :
    splitExponent literal.tail = ([], literal.tail) := by
  have none : literal.exponent = [] := by simp_all [isPointed]
  exact maximal.exponent base none

/-! ## What a tail is not taken for -/

/-- No suffix starts in front of a tail. -/
theorem find?_eq_none_of_core {radix : Radix} {core other tail : Text}
    (chars : ∀ c ∈ core, isDigitOrSeparator radix c = true ∨ c ∈ ['.', 'e', 'E', '+', '-'])
    (filled : other ≠ []) (missing : Suffix.find? radix (other ++ tail) = none) :
    Suffix.find? radix (core ++ tail) = none := by
  cases found : Suffix.find? radix (core ++ tail) with
  | none => rfl
  | some suffix =>
    obtain ⟨allowed, stem, -, same⟩ := Suffix.find?_eq_some_iff.mp found
    have ends : ∃ before, tail = before ++ suffix.text := by
      rcases List.append_eq_append_iff.mp same with ⟨more, -, split⟩ | ⟨more, whole, split⟩
      · exact ⟨more, split⟩
      · cases more with
        | nil => exact ⟨[], split.symm⟩
        | cons c more =>
          exact absurd (chars c (by simp [whole])) (suffix_head allowed c (by simp [split]))
    obtain ⟨before, rfl⟩ := ends
    have again : Suffix.find? radix (other ++ (before ++ suffix.text)) = some suffix :=
      Suffix.find?_eq_some_iff.mpr ⟨allowed, other ++ before, by simp [filled], by simp⟩
    rw [missing] at again
    cases again

/-- Two characters in front of a tail are not the lead of a base. -/
theorem split_core {core more : Text}
    (chars : ∀ c ∈ core, isDigitOrSeparator .decimal c = true ∨ c ∈ ['.', 'e', 'E', '+', '-'])
    (long : 2 ≤ core.length) : Radix.split (core ++ more) = (.decimal, core ++ more) := by
  refine Radix.split_decimal_iff.mpr fun radix other leads => ?_
  obtain ⟨c, letter, member⟩ := exists_mem_lead other
  have short : radix.lead.length ≤ 2 := by cases radix <;> decide
  have within := List.prefix_of_prefix_length_le leads (List.prefix_append _ _)
    (Nat.le_trans short long)
  have outside : ∀ d ∈ ['x', 'o', 'b'],
      ¬ (isDigitOrSeparator .decimal d = true ∨ d ∈ ['.', 'e', 'E', '+', '-']) := by decide
  exact outside c letter (chars c (within.subset member))

/-! ## Reading a rewritten integer -/

/-- The literal with what its integer part has behind its digits taken off as its tail. -/
def recut (literal : Literal) : Literal :=
  { literal with
    whole := literal.whole.takeWhile (isDigitOrSeparator literal.radix)
    tail := literal.whole.dropWhile (isDigitOrSeparator literal.radix) }

/-- The integer part of `other` is made of digits and then of the tail of `literal`, but for the
separators among them. -/
structure Carries (literal other : Literal) : Prop where
  integral : other.fraction = [] ∧ other.exponent = []
  spelled : ∃ run, (∀ c ∈ run, other.radix.isDigit c = true) ∧
    withoutSeparators other.whole = run ++ withoutSeparators literal.tail
  stops : Stops other.radix.isDigit literal.tail
  last : other.whole.getLast? ≠ some separator
  exponent : other.radix = .decimal → splitExponent literal.tail = ([], literal.tail)

variable {literal other : Literal}

/-- What is taken off is the tail, but for its separators. -/
theorem Carries.tail_recut (carries : Carries literal other) (ends : IsTail literal.tail)
    (tailed : literal.tail ≠ []) :
    ∃ first rest rest', literal.tail = first :: rest ∧ other.recut.tail = first :: rest' ∧
      first.isAlpha = true ∧ withoutSeparators rest' = withoutSeparators rest := by
  obtain ⟨run, inside, spelled⟩ := carries.spelled
  have stops := carries.stops
  cases whole : literal.tail with
  | nil => exact absurd whole tailed
  | cons first rest =>
    rw [whole] at ends spelled stops
    cases ends with
    | letters letter _ =>
      rw [withoutSeparators_cons (ne_separator_of_isAlpha letter)] at spelled
      obtain ⟨rest', dropped, same⟩ :=
        exists_dropWhile_eq spelled inside (stops_cons.mp stops)
      exact ⟨first, rest, rest', rfl, dropped, letter, same⟩

/-- An integer that carries a tail is read as it is meant to be, where it starts with a digit, its
lead is read as such and nothing at its end as a suffix. -/
theorem Carries.parse_recut (carries : Carries literal other) (ends : IsTail literal.tail)
    (tailed : literal.tail ≠ []) (starts : ∃ c ∈ other.whole.head?, other.radix.isDigit c = true)
    (base : Radix.split other.raw = (other.radix, other.whole ++ other.suffixText))
    (bare : other.suffix = none → Suffix.find? other.radix other.whole = none)
    (allowed : ∀ written ∈ other.suffix, written.suffix.Allowed other.radix) :
    parse other.raw = .ok other.recut ∧ other.recut.tail ≠ [] ∧
      withoutSeparators other.recut.tail = withoutSeparators literal.tail := by
  obtain ⟨first, rest, rest', whole, whole', letter, same⟩ := carries.tail_recut ends tailed
  have other' := ne_separator_of_isAlpha letter
  obtain ⟨fraction, exponent⟩ := carries.integral
  have chars : ∀ c ∈ rest, isTailChar c = true := fun c member =>
    ends.chars c (by rw [whole]; exact List.mem_cons_of_mem _ member)
  have chars' : ∀ c ∈ rest', isTailChar c = true := by
    intro c member
    by_cases between : c = separator
    · subst between
      decide
    · have within : c ∈ withoutSeparators rest' :=
        List.mem_filter.mpr ⟨member, bne_iff_ne.mpr between⟩
      rw [same] at within
      exact chars c (List.mem_filter.mp within).1
  have body : other.recut.body = other.whole := by
    simp only [Literal.body, recut, fraction, exponent, List.append_nil]
    exact List.takeWhile_append_dropWhile
  obtain ⟨digit, opens, isDigit⟩ := starts
  obtain ⟨digits, spelled⟩ := List.head?_eq_some_iff.mp opens
  have opens' : digit ∈ other.recut.whole.head? := by
    simp [recut, spelled, isDigitOrSeparator_of_isDigit isDigit]
  refine ⟨parse_eq_ok_of_pieces other.recut ?_ ?_ (fun none => ?_)
    (fun written member => ?_) ?_, ?_, ?_⟩
  · exact {
      whole := isRun_takeWhile _ _
      digit := ⟨digit, List.mem_of_mem_head? opens', isDigit⟩
      first := fun _ => ⟨digit, opens', isDigit⟩
      fraction := by rw [show other.recut.fraction = [] from fraction]; exact .none
      exponent := by rw [show other.recut.exponent = [] from exponent]; exact .none
      integral := fun _ => carries.integral
      tail := by rw [whole']; exact .letters letter chars' }
  · refine ⟨stops_dropWhile _ _, fun decimal _ => ?_⟩
    have none := carries.exponent decimal
    rw [whole] at none
    rw [whole']
    exact splitExponent_congr chars chars' same.symm none
  · rw [body]
    exact bare none
  · rw [body]
    exact ⟨allowed written member, carries.last⟩
  · rw [body]
    exact base
  · rw [whole']
    exact List.cons_ne_nil _ _
  · rw [whole, whole', withoutSeparators_cons other', withoutSeparators_cons other', same]

end NumeralStyle.Literal
