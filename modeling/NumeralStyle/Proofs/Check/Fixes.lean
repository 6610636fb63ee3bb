import NumeralStyle.Proofs.Check.Advice
import NumeralStyle.Proofs.Check.Regroup
import NumeralStyle.Proofs.Literal.Known

/-! The literals that suggestions spell. A suggestion spells the literal with canonical groups or
without leading zeros (`exists_fix`), and that spelling is read as just that literal
(`Fix.parse_eq_ok`). -/
namespace NumeralStyle.Literal
open Text Check

/-- The literal with its integer part in canonical groups. -/
def regrouped (widths : Widths) (literal : Literal) : Literal :=
  let grouped := regroup (widths.of literal.radix) (literal.radix != .decimal) literal.digits
  { literal with
    raw := literal.radix.lead ++ grouped ++ literal.fraction ++ literal.exponentPart ++
      literal.suffixText
    whole := grouped }

/-- The literal in a base, without separators and leading zeros. -/
def trimmed (radix : Radix) (literal : Literal) : Literal :=
  let digits := literal.digits.dropWhile (· == '0')
  { literal with raw := radix.lead ++ (digits ++ literal.suffixText), radix, whole := digits }

/-- The literals that the suggestions of a finding spell, by the kind of the finding. -/
inductive Fix (widths : Widths) (literal : Literal) : FindingKind → Literal → Prop
  | grouped {kind : FindingKind} : groupingKind widths literal = some kind →
      Fix widths literal kind (literal.regrouped widths)
  | decimal : HasLeadingZero literal → Fix widths literal .zeroPrefixed (literal.trimmed .decimal)
  | octal : HasLeadingZero literal → (∀ c ∈ literal.digits, c ≠ '8' ∧ c ≠ '9') →
      Fix widths literal .zeroPrefixed (literal.trimmed .octal)

variable {widths : Widths} {literal fixed : Literal} {kind : FindingKind}

/-- The base that a suggestion is meant in: base eight for the second one about leading zeros, and else
the literal's own. -/
def meantRadix (literal : Literal) (kind : FindingKind) (index : Nat) : Radix :=
  if kind = .zeroPrefixed ∧ index = 1 then .octal else literal.radix

theorem low_of_not_any {digits : Text} (low : ¬ (digits.any fun c => c == '8' || c == '9') = true) :
    ∀ c ∈ digits, c ≠ '8' ∧ c ≠ '9' := by
  simpa only [List.any_eq_true, not_exists, not_and, Bool.or_eq_true, beq_iff_eq, not_or] using low

/-- Each suggestion spells a fix, in the base that it is meant in. -/
theorem exists_fix_at {advice : Advice} {index : Nat} {spelling : Text}
    (given : advice ∈ literal.advice widths) (suggested : advice.suggestions[index]? = some spelling) :
    ∃ fixed, Fix widths literal advice.kind fixed ∧ fixed.raw = spelling ∧
      fixed.radix = literal.meantRadix advice.kind index := by
  rcases mem_advice_iff.mp given with found | found | found | found
  · rw [(casing_eq_some found).2.2] at suggested
    cases suggested
  · rw [(suffixSeparation_eq_some found).2] at suggested
    cases suggested
  · obtain ⟨zero, kind, suggestions⟩ := leadingZero_eq_some found
    rw [kind]
    rw [suggestions] at suggested
    cases index with
    | zero =>
      obtain rfl := Option.some.inj suggested
      exact ⟨_, .decimal zero, rfl, zero.radix.symm⟩
    | succ index =>
      rw [List.getElem?_cons_succ] at suggested
      split at suggested
      · cases suggested
      · rename_i low
        cases index with
        | zero =>
          obtain rfl := Option.some.inj suggested
          exact ⟨_, .octal zero (low_of_not_any low), rfl, rfl⟩
        | succ index => cases suggested
  · obtain ⟨due, suggestions⟩ := grouping_eq_some found
    rw [suggestions] at suggested
    cases index with
    | zero =>
      obtain rfl := Option.some.inj suggested
      refine ⟨_, .grouped due, rfl, ?_⟩
      rw [meantRadix, if_neg (by simp)]
      rfl
    | succ index => cases suggested

theorem exists_fix {advice : Advice} {spelling : Text} (given : advice ∈ literal.advice widths)
    (suggested : spelling ∈ advice.suggestions) :
    ∃ fixed, Fix widths literal advice.kind fixed ∧ fixed.raw = spelling := by
  obtain ⟨index, found⟩ := List.mem_iff_getElem?.mp suggested
  obtain ⟨fixed, fix, spelled, -⟩ := exists_fix_at given found
  exact ⟨fixed, fix, spelled⟩

/-! ## Canonical groups -/

theorem widths_of_pos (widths : Widths) (radix : Radix) : 0 < widths.of radix := by
  unfold Widths.of
  split
  · exact widths.decimal_pos
  · exact widths.prefixed_pos

/-- The digits of a literal as they are grouped, behind a lead with zeros in front. -/
def filledDigits (widths : Widths) (literal : Literal) : Text :=
  filled (widths.of literal.radix) (literal.radix != .decimal) literal.digits

theorem separator_not_mem_filledDigits : separator ∉ literal.filledDigits widths :=
  separator_not_mem_filled (separator_not_mem_digits literal)

theorem withoutSeparators_regrouped :
    withoutSeparators (literal.regrouped widths).whole = literal.filledDigits widths :=
  withoutSeparators_regroup (widths_of_pos widths _) _ (separator_not_mem_digits literal)

theorem isDigit_of_mem_filledDigits (valid : literal.toPieces.Valid literal.radix)
    (part : literal.integerPart = literal.whole) {c : Char}
    (member : c ∈ literal.filledDigits widths) :
    literal.radix.isDigit c = true := by
  obtain ⟨count, same⟩ :=
    exists_filled (widths.of literal.radix) (literal.radix != .decimal) literal.digits
  rw [filledDigits, same] at member
  rcases List.mem_append.mp member with zero | inside
  · rw [List.eq_of_mem_replicate zero]
    exact isDigit_zero _
  · exact isDigit_of_mem_digits part valid inside

/-- Grouped digits do not start with a separator. -/
theorem exists_head_regrouped (widths : Widths) (valid : literal.toPieces.Valid literal.radix) :
    ∃ c ∈ (literal.regrouped widths).whole.head?, c ∈ literal.filledDigits widths := by
  have some : literal.filledDigits widths ≠ [] := by
    obtain ⟨count, spelled⟩ :=
      exists_filled (widths.of literal.radix) (literal.radix != .decimal) literal.digits
    rw [filledDigits, spelled]
    simp [digits_ne_nil valid]
  obtain ⟨c, rest, whole⟩ := List.exists_cons_of_ne_nil some
  have starts : (literal.regrouped widths).whole.head? = (literal.filledDigits widths).head? :=
    head?_regroup (widths_of_pos widths _) _ (separator_not_mem_digits literal)
  refine ⟨c, ?_, by simp [whole]⟩
  rw [starts, whole]
  rfl

/-- Grouped digits start with a digit of their base. -/
theorem starts_regrouped (widths : Widths) (valid : literal.toPieces.Valid literal.radix)
    (part : literal.integerPart = literal.whole) :
    ∃ c ∈ (literal.regrouped widths).whole.head?, literal.radix.isDigit c = true := by
  obtain ⟨c, starts, inside⟩ := exists_head_regrouped widths valid
  exact ⟨c, starts, isDigit_of_mem_filledDigits valid part inside⟩

theorem valid_regrouped (widths : Widths) (valid : literal.toPieces.Valid literal.radix)
    (part : literal.integerPart = literal.whole) :
    (literal.regrouped widths).toPieces.Valid (literal.regrouped widths).radix := by
  obtain ⟨first, starts, isDigit⟩ :
      ∃ c ∈ (literal.regrouped widths).whole.head?, literal.radix.isDigit c = true :=
    starts_regrouped widths valid part
  refine { valid with
    whole := fun c member => ?_
    digit := ⟨first, List.mem_of_mem_head? starts, isDigit⟩
    first := fun _ => ⟨first, starts, isDigit⟩ }
  by_cases other : c = separator
  · simp [isDigitOrSeparator, other]
  · have inside : c ∈ withoutSeparators (literal.regrouped widths).whole := by
      simp [withoutSeparators, member, other]
    rw [withoutSeparators_regrouped] at inside
    exact isDigitOrSeparator_of_isDigit (isDigit_of_mem_filledDigits valid part inside)

/-- Grouped digits do not end with a separator. -/
theorem getLast?_whole_regrouped :
    (literal.regrouped widths).whole.getLast? ≠ some separator := by
  have ending : (literal.regrouped widths).whole.getLast? = (literal.filledDigits widths).getLast? :=
    getLast?_regroup (widths_of_pos widths _) _ (separator_not_mem_digits literal)
  rw [ending]
  exact fun same => separator_not_mem_filledDigits (List.mem_of_getLast? same)

/-- Regrouping leaves the end of a number that a suffix can follow. -/
theorem getLast?_body_regrouped (last : literal.body.getLast? ≠ some separator) :
    (literal.regrouped widths).body.getLast? ≠ some separator := by
  have front : (literal.regrouped widths).whole.getLast? ≠ some separator := getLast?_whole_regrouped
  simp only [body, List.append_assoc] at last ⊢
  rw [List.getLast?_append] at last ⊢
  intro same
  rcases Option.or_eq_some_iff.mp same with behind | ⟨-, first⟩
  · exact last (Option.or_eq_some_iff.mpr (.inl behind))
  · exact front first

theorem parse_regrouped (read : parse literal.raw = .ok literal) (ends : literal.tail = []) :
    parse (literal.regrouped widths).raw = .ok (literal.regrouped widths) := by
  obtain ⟨-, body, -, cut, valid, -⟩ := parse_eq_ok_iff.mp read
  have spelled : (literal.regrouped widths).raw = (literal.regrouped widths).radix.lead ++
      ((literal.regrouped widths).body ++ (literal.regrouped widths).suffixText) := by
    simp [regrouped, Literal.body, exponentPart_eq ends, ends, suffixText]
  refine parse_eq_ok_of_spelled (valid_regrouped widths valid (integerPart_eq ends)) ends ?_ spelled
  intro written suffixed
  obtain ⟨allowed, last⟩ := cut.suffixed written suffixed
  have last' : (literal.regrouped widths).body.getLast? ≠ some separator :=
    getLast?_body_regrouped last
  exact ⟨allowed, last'⟩

/-! ## Without leading zeros -/

theorem kind_eq_integer_iff :
    literal.kind = .integer ↔
      literal.fraction = [] ∧ literal.exponent = [] ∧
        ∀ written ∈ literal.suffix, written.suffix.isFloat = false := by
  cases suffixed : literal.suffix <;> simp [Literal.kind, isPointed, and_assoc, suffixed]

/-- Digits that are not zeros alone start with another digit once their leading zeros are gone. -/
theorem starts_trimmed {digits : Text} (zero : isZeroPrefixed digits = true) :
    ∃ c ∈ (digits.dropWhile (· == '0')).head?, c ∈ digits ∧ c ≠ '0' := by
  simp only [isZeroPrefixed, Bool.and_eq_true, List.any_eq_true, decide_eq_true_eq] at zero
  obtain ⟨-, d, member, low, -⟩ := zero
  have stops := stops_dropWhile (· == '0') digits
  have whole := List.takeWhile_append_dropWhile (p := (· == '0')) (l := digits)
  cases found : digits.dropWhile (· == '0') with
  | nil =>
    rw [found, List.append_nil] at whole
    rw [← whole] at member
    obtain rfl : d = '0' := by simpa using List.mem_takeWhile_imp member
    exact absurd low (by decide)
  | cons c rest =>
    rw [found] at stops
    have inside : c ∈ digits.dropWhile (· == '0') := by simp [found]
    exact ⟨c, rfl, (List.dropWhile_sublist _).mem inside, by simpa using stops_cons.mp stops⟩

theorem valid_trimmed {radix : Radix} (ends : literal.tail = []) (zero : HasLeadingZero literal)
    (digits : ∀ c ∈ literal.digits, radix.isDigit c = true) :
    (literal.trimmed radix).toPieces.Valid radix := by
  obtain ⟨fraction, exponent, -⟩ := kind_eq_integer_iff.mp zero.kind
  obtain ⟨c, starts, inside, -⟩ := starts_trimmed zero.zero
  have first := digits c inside
  exact {
    whole := fun d member =>
      isDigitOrSeparator_of_isDigit (digits d ((List.dropWhile_sublist _).mem member))
    digit := ⟨c, List.mem_of_mem_head? starts, first⟩
    first := fun _ => ⟨c, starts, first⟩
    fraction := by rw [show (literal.trimmed radix).fraction = [] from fraction]; exact .none
    exponent := by rw [show (literal.trimmed radix).exponent = [] from exponent]; exact .none
    integral := fun _ => ⟨fraction, exponent⟩
    tail := by rw [show (literal.trimmed radix).tail = [] from ends]; exact .none }

theorem parse_trimmed {radix : Radix} (ends : literal.tail = []) (zero : HasLeadingZero literal)
    (digits : ∀ c ∈ literal.digits, radix.isDigit c = true) :
    parse (literal.trimmed radix).raw = .ok (literal.trimmed radix) := by
  obtain ⟨fraction, exponent, integral⟩ := kind_eq_integer_iff.mp zero.kind
  have body : (literal.trimmed radix).body = literal.digits.dropWhile (· == '0') := by
    simp [trimmed, Literal.body, fraction, exponent, ends]
  have spelled : (literal.trimmed radix).raw = (literal.trimmed radix).radix.lead ++
      ((literal.trimmed radix).body ++ (literal.trimmed radix).suffixText) := by
    rw [body]
    rfl
  refine parse_eq_ok_of_spelled (valid_trimmed ends zero digits) ends ?_ spelled
  intro written suffixed
  refine ⟨.inr (integral written suffixed), ?_⟩
  rw [body]
  intro last
  exact separator_not_mem_digits literal
    ((List.dropWhile_sublist _).mem (List.mem_of_getLast? last))

/-- Digits that are neither eight nor nine are octal digits. -/
theorem octal_isDigit {c : Char} (digit : Radix.decimal.isDigit c = true)
    (low : c ≠ '8' ∧ c ≠ '9') : Radix.octal.isDigit c = true := by
  have listed : ∀ d ∈ Radix.decimal.digits, d ≠ '8' ∧ d ≠ '9' → Radix.octal.isDigit d = true := by
    decide
  exact listed c (Radix.mem_of_isDigit digit) low

/-- What a suggestion spells is read as the literal that it is meant to be. -/
theorem Fix.parse_eq_ok (fix : Fix widths literal kind fixed)
    (read : parse literal.raw = .ok literal) (ends : literal.tail = []) :
    parse fixed.raw = .ok fixed := by
  have valid := valid_of_parse read
  cases fix with
  | grouped => exact parse_regrouped read ends
  | decimal zero => exact parse_trimmed ends zero (isDecimal_of_mem_digits valid ends zero.radix)
  | octal zero low =>
    apply parse_trimmed ends zero
    intro c member
    exact octal_isDigit (isDecimal_of_mem_digits valid ends zero.radix c member) (low c member)

theorem Fix.tail_eq_nil (fix : Fix widths literal kind fixed) (ends : literal.tail = []) :
    fixed.tail = [] := by
  cases fix <;> exact ends

end NumeralStyle.Literal
