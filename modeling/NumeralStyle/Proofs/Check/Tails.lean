import NumeralStyle.Proofs.Check.Following
import NumeralStyle.Proofs.Literal.Tail

/-! Suggestions for literals with a tail. The tail of an integer counts with its digits, so it is
grouped with them and moves to the front with them when leading zeros go. What comes out need not be
the literal any more, and not a literal at all; it is exactly if it starts with a digit, its lead is
not taken for another one and its end for no suffix (`Report.ofToken_suggestion_tail`). -/
namespace NumeralStyle.Literal
open Text Check CharClass

/-- The literal that is read from a suggestion is the one that the suggestion is for: it is written in
the base that is meant, with the same suffix and, but for separators, the same tail. -/
structure StaysIn (literal : Literal) (radix : Radix) (fixed : Literal) : Prop where
  radix : fixed.radix = radix
  suffix : fixed.suffix.map (·.suffix) = literal.suffix.map (·.suffix)
  tail : fixed.unrecognizedSuffix.map withoutSeparators =
    literal.unrecognizedSuffix.map withoutSeparators

/-- What a suggestion should keep: it is a literal, and the one that it is for, and new groups are not
minded again. -/
def KeptBy (widths : Widths) (literal : Literal) (kind : FindingKind) (radix : Radix)
    (spelling : Text) : Prop :=
  ∃ fixed, parse spelling = .ok fixed ∧ literal.StaysIn radix fixed ∧
    (kind ≠ .zeroPrefixed → grouping widths fixed = none)

/-- Neither end of a spelling is mistaken for something else. -/
structure Unmistaken (literal : Literal) (radix : Radix) (spelling : Text) : Prop where
  /-- A zero that now stands right before a letter is not taken for the lead of a base. -/
  base : (Radix.split spelling).1 = radix
  /-- The leading zeros were not all the digits that there were. -/
  digit : ∃ c ∈ (Radix.split spelling).2.head?, radix.isDigit c = true
  /-- The end of the tail is not taken for a suffix. -/
  suffix : literal.suffix = none → Suffix.find? radix (Radix.split spelling).2 = none

variable {widths : Widths} {literal fixed : Literal} {kind : FindingKind}

/-! ## What a fix spells -/

theorem Fix.suffix_eq (fix : Fix widths literal kind fixed) : fixed.suffix = literal.suffix := by
  cases fix <;> rfl

theorem Fix.exists_spelled (fix : Fix widths literal kind fixed) :
    ∃ more, fixed.raw = fixed.radix.lead ++ (fixed.whole ++ more) := by
  cases fix with
  | grouped =>
    exact ⟨literal.fraction ++ (literal.exponentPart ++ literal.suffixText), by simp [regrouped]⟩
  | decimal => exact ⟨literal.suffixText, rfl⟩
  | octal => exact ⟨literal.suffixText, rfl⟩

theorem Fix.raw_of_integral (fix : Fix widths literal kind fixed)
    (integral : literal.isPointed = false) :
    fixed.raw = fixed.radix.lead ++ (fixed.whole ++ fixed.suffixText) := by
  cases fix with
  | grouped =>
    have none : literal.fraction = [] := by simp_all [isPointed]
    simp [regrouped, exponentPart, integral, none, suffixText]
  | decimal => rfl
  | octal => rfl

theorem exists_head_trimmed (radix : Radix) (zero : HasLeadingZero literal) :
    ∃ c ∈ (literal.trimmed radix).whole.head?, c ≠ separator := by
  obtain ⟨c, starts, inside, -⟩ := starts_trimmed zero.zero
  refine ⟨c, starts, ?_⟩
  rintro rfl
  exact separator_not_mem_digits literal inside

/-- What a fix spells behind the lead does not start with a separator. -/
theorem Fix.exists_head (fix : Fix widths literal kind fixed)
    (valid : literal.toPieces.Valid literal.radix) :
    ∃ c ∈ fixed.whole.head?, c ≠ separator := by
  cases fix with
  | grouped =>
    obtain ⟨c, starts, inside⟩ := exists_head_regrouped widths valid
    refine ⟨c, starts, ?_⟩
    rintro rfl
    exact separator_not_mem_filledDigits inside
  | decimal zero => exact exists_head_trimmed .decimal zero
  | octal zero => exact exists_head_trimmed .octal zero

theorem isPointed_of_hasLeadingZero (zero : HasLeadingZero literal) : literal.isPointed = false := by
  obtain ⟨fraction, exponent, -⟩ := kind_eq_integer_iff.mp zero.kind
  simp [isPointed, fraction, exponent]

/-- With a point or an exponent, groups are all there is to fix. -/
theorem Fix.eq_regrouped (fix : Fix widths literal kind fixed) (pointed : literal.isPointed = true) :
    fixed = literal.regrouped widths := by
  cases fix with
  | grouped => rfl
  | decimal zero =>
    rw [isPointed_of_hasLeadingZero zero] at pointed
    cases pointed
  | octal zero =>
    rw [isPointed_of_hasLeadingZero zero] at pointed
    cases pointed

theorem Fix.allowed (fix : Fix widths literal kind fixed) (read : parse literal.raw = .ok literal) :
    ∀ written ∈ fixed.suffix, written.suffix.Allowed fixed.radix := by
  intro written member
  rw [fix.suffix_eq] at member
  obtain ⟨-, body, -, cut, -⟩ := parse_eq_ok_iff.mp read
  cases fix with
  | grouped => exact (cut.suffixed written member).1
  | decimal zero => exact .inl rfl
  | octal zero => exact .inr ((kind_eq_integer_iff.mp zero.kind).2.2 written member)

/-! ## Tails of integers -/

/-- Without its leading zeros an integer with a tail still carries it, if it starts with a digit. -/
theorem carries_trimmed {radix : Radix} (zero : HasLeadingZero literal)
    (valid : literal.toPieces.Valid literal.radix) (maximal : literal.toPieces.Maximal literal.radix)
    (digits : ∀ c ∈ withoutSeparators literal.whole, radix.isDigit c = true)
    (letters : ∀ c : Char, c.isAlpha = true → radix.isDigit c = false)
    (starts : ∃ c ∈ (literal.trimmed radix).whole.head?, radix.isDigit c = true) :
    Carries literal (literal.trimmed radix) := by
  obtain ⟨fraction, exponent, -⟩ := kind_eq_integer_iff.mp zero.kind
  have integral := isPointed_of_hasLeadingZero zero
  have clean : separator ∉ (literal.trimmed radix).whole := separator_not_mem_trimmed radix
  obtain ⟨stops, stops'⟩ := stops_tail letters valid.tail
  refine ⟨⟨fraction, exponent⟩, ⟨(withoutSeparators literal.whole).dropWhile (· == '0'),
    fun c member => digits c ((List.dropWhile_sublist _).mem member), ?_⟩, stops, ?_,
    fun _ => splitExponent_tail maximal integral zero.radix⟩
  · have same : withoutSeparators (literal.trimmed radix).whole = (literal.trimmed radix).whole := by
      refine List.filter_eq_self.mpr fun c member => bne_iff_ne.mpr ?_
      rintro rfl
      exact clean member
    rw [trimmed, digits_of_integral integral] at starts
    rw [same, trimmed, digits_of_integral integral]
    exact dropWhile_zeros_append stops' starts
  · exact fun last => clean (List.mem_of_getLast? last)

/-- In groups an integer with a tail still carries it. -/
theorem carries_regrouped (integral : literal.isPointed = false)
    (valid : literal.toPieces.Valid literal.radix)
    (maximal : literal.toPieces.Maximal literal.radix) :
    Carries literal (literal.regrouped widths) := by
  obtain ⟨count, spelled⟩ :=
    exists_filled (widths.of literal.radix) (literal.radix != .decimal) literal.digits
  refine ⟨?_, ⟨List.replicate count '0' ++ withoutSeparators literal.whole, ?_, ?_⟩, ?_,
    getLast?_whole_regrouped, fun base => splitExponent_tail maximal integral base⟩
  · simp_all [isPointed, regrouped]
  · intro c member
    rcases List.mem_append.mp member with zero | inside
    · rw [List.eq_of_mem_replicate zero]
      exact isDigit_zero _
    · exact isDigit_of_mem_withoutSeparators valid.whole c inside
  · rw [withoutSeparators_regrouped, filledDigits, spelled, digits_of_integral integral,
      List.append_assoc]
  · intro c first
    have outside := maximal.run c first
    rw [isDigitOrSeparator, Bool.or_eq_false_iff] at outside
    exact outside.1

theorem Fix.carries (fix : Fix widths literal kind fixed) (integral : literal.isPointed = false)
    (valid : literal.toPieces.Valid literal.radix) (maximal : literal.toPieces.Maximal literal.radix)
    (starts : ∃ c ∈ fixed.whole.head?, fixed.radix.isDigit c = true) : Carries literal fixed := by
  cases fix with
  | grouped => exact carries_regrouped integral valid maximal
  | decimal zero =>
    refine carries_trimmed zero valid maximal (fun c member => ?_)
      (fun _ => not_isDigit_of_isAlpha (.inl rfl)) starts
    rw [← zero.radix]
    exact isDigit_of_mem_withoutSeparators valid.whole c member
  | octal zero low =>
    refine carries_trimmed zero valid maximal (fun c member => ?_)
      (fun _ => not_isDigit_of_isAlpha (.inr rfl)) starts
    have digit := isDigit_of_mem_withoutSeparators valid.whole c member
    rw [zero.radix] at digit
    refine octal_isDigit digit (low c ?_)
    rw [digits_of_integral integral]
    exact List.mem_append_left _ member

/-! ## What is read from a suggestion -/

/-- A fix of an integer that is not mistaken is the integer with its tail. -/
theorem Fix.kept_of_integral (fix : Fix widths literal kind fixed)
    (read : parse literal.raw = .ok literal) (tailed : literal.tail ≠ [])
    (integral : literal.isPointed = false)
    (unmistaken : literal.Unmistaken fixed.radix fixed.raw) :
    KeptBy widths literal kind fixed.radix fixed.raw := by
  obtain ⟨-, -, -, -, valid, maximal⟩ := parse_eq_ok_iff.mp read
  have spelled := fix.raw_of_integral integral
  obtain ⟨base, digit, bare⟩ := unmistaken
  have split : Radix.split fixed.raw = (fixed.radix, fixed.whole ++ fixed.suffixText) := by
    rw [spelled] at base ⊢
    exact Radix.split_eq_of_base base
  rw [split] at digit bare
  have starts : ∃ c ∈ fixed.whole.head?, fixed.radix.isDigit c = true := by
    obtain ⟨c, first, -⟩ := fix.exists_head valid
    obtain ⟨rest, whole⟩ := List.head?_eq_some_iff.mp first
    rw [whole] at digit ⊢
    exact digit
  have carries := fix.carries integral valid maximal starts
  have bare' : fixed.suffix = none → Suffix.find? fixed.radix fixed.whole = none := by
    intro unsuffixed
    have found := bare (fix.suffix_eq ▸ unsuffixed)
    rwa [suffixText_of_none unsuffixed, List.append_nil] at found
  obtain ⟨parsed, tailed', tail⟩ :=
    carries.parse_recut valid.tail tailed starts split bare' (fix.allowed read)
  refine ⟨fixed.recut, parsed, ⟨rfl, ?_, ?_⟩, fun other => ?_⟩
  · exact congrArg _ fix.suffix_eq
  · rw [unrecognizedSuffix_of_tail tailed', unrecognizedSuffix_of_tail tailed]
    exact congrArg some tail
  · refine grouping_eq_none ?_
    cases fix with
    | grouped =>
      have part : (literal.regrouped widths).recut.integerPart = (literal.regrouped widths).whole := by
        have still : (literal.regrouped widths).recut.isPointed = false := integral
        rw [integerPart, still]
        exact List.takeWhile_append_dropWhile
      exact groupingKind_of_regroup (separator_not_mem_digits literal) part
    | decimal => exact absurd rfl other
    | octal => exact absurd rfl other

/-- A tail behind a point or an exponent is not touched. -/
theorem parse_regrouped_of_isPointed (read : parse literal.raw = .ok literal)
    (pointed : literal.isPointed = true)
    (unmistaken : literal.Unmistaken literal.radix (literal.regrouped widths).raw) :
    parse (literal.regrouped widths).raw = .ok (literal.regrouped widths) := by
  obtain ⟨-, body, -, cut, valid, maximal⟩ := parse_eq_ok_iff.mp read
  have part := integerPart_of_isPointed pointed
  have spelled : (literal.regrouped widths).raw = literal.radix.lead ++
      ((literal.regrouped widths).body ++ literal.suffixText) := by
    simp [regrouped, Literal.body, exponentPart, pointed]
  obtain ⟨base, -, bare⟩ := unmistaken
  rw [spelled] at base bare
  have split := Radix.split_eq_of_base base
  rw [split] at bare
  refine parse_eq_ok_of_pieces (literal.regrouped widths) (valid_regrouped widths valid part)
    ⟨maximal.run, maximal.exponent⟩ (fun unsuffixed => ?_) (fun written member => ?_) ?_
  · have unsuffixed' : literal.suffix = none := unsuffixed
    have found := bare unsuffixed'
    rwa [suffixText_of_none unsuffixed', List.append_nil] at found
  · obtain ⟨allowed, last⟩ := cut.suffixed written member
    exact ⟨allowed, getLast?_body_regrouped last⟩
  · rw [spelled]
    exact split

/-- A fix that is not mistaken is the literal with its tail. -/
theorem Fix.kept_of_unmistaken (fix : Fix widths literal kind fixed)
    (read : parse literal.raw = .ok literal) (tailed : literal.tail ≠ [])
    (unmistaken : literal.Unmistaken fixed.radix fixed.raw) :
    KeptBy widths literal kind fixed.radix fixed.raw := by
  cases pointed : literal.isPointed with
  | false => exact fix.kept_of_integral read tailed pointed unmistaken
  | true =>
    obtain rfl := fix.eq_regrouped pointed
    have part : (literal.regrouped widths).integerPart = (literal.regrouped widths).whole :=
      integerPart_of_isPointed pointed
    exact ⟨_, parse_regrouped_of_isPointed read pointed unmistaken, ⟨rfl, rfl, rfl⟩,
      fun _ => grouping_eq_none (groupingKind_regrouped part)⟩

/-- What is read from a fix as the literal was not mistaken. -/
theorem Fix.unmistaken_of_kept (fix : Fix widths literal kind fixed)
    (read : parse literal.raw = .ok literal)
    (kept : KeptBy widths literal kind fixed.radix fixed.raw) :
    literal.Unmistaken fixed.radix fixed.raw := by
  obtain ⟨again, parsed, ⟨radix, suffix, -⟩, -⟩ := kept
  have base : (Radix.split fixed.raw).1 = fixed.radix := (radix_of_parse parsed).trans radix
  refine ⟨base, ?_, fun unsuffixed => ?_⟩
  · obtain ⟨more, spelled⟩ := fix.exists_spelled
    obtain ⟨c, first, other⟩ := fix.exists_head (valid_of_parse read)
    obtain ⟨rest, whole⟩ := List.head?_eq_some_iff.mp first
    have number := exists_parse_iff.mp ⟨again, parsed⟩
    rw [spelled] at base number ⊢
    rw [Radix.split_eq_of_base base, whole] at number ⊢
    exact ⟨c, rfl, number.isDigit_head other⟩
  · have unsuffixed' : again.suffix = none := by
      rw [unsuffixed] at suffix
      exact Option.map_eq_none_iff.mp suffix
    obtain ⟨-, body, split, cut, -⟩ := parse_eq_ok_iff.mp parsed
    rw [unsuffixed'] at cut
    rw [split, ← radix]
    exact cut.find?_eq_none.1

/-- In front of the tail of a literal with a point or an exponent nothing can be mistaken. -/
theorem unmistaken_regrouped (read : parse literal.raw = .ok literal)
    (pointed : literal.isPointed = true) :
    literal.Unmistaken literal.radix (literal.regrouped widths).raw := by
  obtain ⟨-, body, -, cut, valid, -⟩ := parse_eq_ok_iff.mp read
  have part := integerPart_of_isPointed pointed
  have base := radix_of_isPointed valid pointed
  have more := List.length_pos_iff.mpr (ne_nil_of_isPointed pointed)
  have chars : ∀ c ∈ (literal.regrouped widths).whole ++ literal.fraction ++ literal.exponent,
      isDigitOrSeparator .decimal c = true ∨ c ∈ ['.', 'e', 'E', '+', '-'] := by
    intro c member
    have inside := core_chars (valid_regrouped widths valid part) c member
    rwa [show (literal.regrouped widths).radix = .decimal from base] at inside
  obtain ⟨first, starts, isDigit⟩ := starts_regrouped widths valid part
  obtain ⟨digits, whole⟩ := List.head?_eq_some_iff.mp starts
  have spelled : (literal.regrouped widths).raw =
      (literal.regrouped widths).whole ++ literal.fraction ++ literal.exponent ++
        (literal.tail ++ literal.suffixText) := by
    simp [regrouped, base, Radix.lead, exponentPart, pointed]
  have split : Radix.split (literal.regrouped widths).raw =
      (.decimal, (literal.regrouped widths).raw) := by
    rw [spelled]
    refine split_core chars ?_
    simp only [whole, List.length_append, List.length_cons] at more ⊢
    omega
  rw [base] at isDigit ⊢
  refine ⟨by rw [split], ⟨first, ?_, isDigit⟩, fun unsuffixed => ?_⟩
  · rw [split, spelled, whole]
    rfl
  · rw [unsuffixed, base] at cut
    obtain ⟨missing, rfl⟩ := cut.find?_eq_none
    rw [split, spelled, suffixText_of_none unsuffixed, List.append_nil]
    refine find?_eq_none_of_core chars ?_ missing
    rw [List.append_assoc]
    exact List.append_ne_nil_of_right_ne_nil _ (ne_nil_of_isPointed pointed)

end NumeralStyle.Literal

namespace NumeralStyle.Report
open Literal Check

variable {widths : Widths} {token : Token} {report : Report}

/-- A suggestion for a literal with a tail is read as that literal exactly if it starts with a digit
and neither its start is taken for the lead of another base nor its end for a suffix. For a literal
with a point or an exponent none of this ever happens. -/
theorem ofToken_suggestion_tail [Platform] (reported : ofToken widths token = .ok report)
    (unknown : report.literal.unrecognizedSuffix ≠ none) :
    ∀ finding ∈ report.findings, ∀ index spelling, finding.suggestions[index]? = some spelling →
      (KeptBy widths report.literal finding.kind (report.literal.meantRadix finding.kind index)
          spelling ↔
        report.literal.Unmistaken (report.literal.meantRadix finding.kind index) spelling) ∧
      (report.literal.isPointed = true →
        KeptBy widths report.literal finding.kind (report.literal.meantRadix finding.kind index)
          spelling) := by
  intro finding among index spelling suggested
  have read := parse_literal reported
  have tailed : report.literal.tail ≠ [] := mt unrecognizedSuffix_eq_none_iff.mpr unknown
  rw [(ofToken_eq_ok_iff.mp reported).2.2.2] at among
  obtain ⟨advice, given, rfl⟩ := List.mem_map.mp among
  obtain ⟨fixed, fix, rfl, radix⟩ := exists_fix_at given suggested
  have meant : report.literal.meantRadix (advice.at token.span).kind index = fixed.radix := radix.symm
  rw [meant]
  refine ⟨⟨fix.unmistaken_of_kept read, fix.kept_of_unmistaken read tailed⟩, fun pointed =>
    fix.kept_of_unmistaken read tailed ?_⟩
  obtain rfl := fix.eq_regrouped pointed
  exact unmistaken_regrouped read pointed

/-- A zero in front of a one, and a tail: the octal reading keeps the tail. -/
theorem ofToken_suggestion_tail_octal :
    ∃ report, ofToken .default ⟨['0', '1', 'x'], Span.ofText ['0', '1', 'x']⟩ = .ok report ∧
      report.literal.unrecognizedSuffix = some ['x'] ∧
      ∃ finding ∈ report.findings, finding.suggestions[1]? = some ['0', 'o', '1', 'x'] ∧
        KeptBy .default report.literal finding.kind .octal ['0', 'o', '1', 'x'] := by
  have reported : ∃ report finding,
      ofToken .default ⟨['0', '1', 'x'], Span.ofText ['0', '1', 'x']⟩ = .ok report ∧
        report.literal.unrecognizedSuffix = some ['x'] ∧ finding ∈ report.findings ∧
        finding.suggestions[1]? = some ['0', 'o', '1', 'x'] ∧
        report.literal.meantRadix finding.kind 1 = .octal :=
    ⟨_, _, rfl, rfl, List.mem_singleton.mpr rfl, rfl, rfl⟩
  obtain ⟨report, finding, reported, unknown, among, suggested, meant⟩ := reported
  have unmistaken : report.literal.Unmistaken .octal ['0', 'o', '1', 'x'] :=
    ⟨rfl, ⟨'1', rfl, by decide⟩, fun _ => by decide⟩
  have kept := (ofToken_suggestion_tail reported (by simp [unknown]) finding among 1
    ['0', 'o', '1', 'x'] suggested).1
  rw [meant] at kept
  exact ⟨report, reported, unknown, finding, among, suggested, kept.mpr unmistaken⟩

/-- A zero alone in front of a tail with a digit: what is suggested is not a literal. -/
theorem ofToken_suggestion_tail_no_literal :
    ∃ report, ofToken .default ⟨['0', 'a', '1'], Span.ofText ['0', 'a', '1']⟩ = .ok report ∧
      report.literal.unrecognizedSuffix = some ['a', '1'] ∧
      ∃ finding ∈ report.findings, finding.suggestions = [['a', '1'], ['0', 'o', 'a', '1']] ∧
        ∀ spelling ∈ finding.suggestions, parse spelling = .error .noDigits := by
  refine ⟨_, rfl, rfl, _, List.mem_singleton.mpr rfl, rfl, fun spelling member => ?_⟩
  rcases List.mem_cons.mp member with rfl | other
  · rfl
  · obtain rfl := List.mem_singleton.mp other
    rfl

/-- A zero grouped with a tail in front of which it stood: the two are taken for the lead of a base. -/
example : ∃ literal fixed, parse ['0', '_', 'x', '1'] = .ok literal ∧
    (grouping .default literal).map (·.suggestions) = some [['0', 'x', '1']] ∧
    parse ['0', 'x', '1'] = .ok fixed ∧ fixed.radix = .hex :=
  ⟨_, _, rfl, by cbv, rfl, rfl⟩

/-- A tail that loses the separator at its end: it is taken for a suffix, and the groups in front of it
are minded again. -/
example : ∃ literal fixed, parse ['1', '_', '0', '0', 'u', '8', '_'] = .ok literal ∧
    (grouping .default literal).map (·.suggestions) = some [['1', '0', '_', '0', 'u', '8']] ∧
    parse ['1', '0', '_', '0', 'u', '8'] = .ok fixed ∧ fixed.suffix = some ⟨.u8, false⟩ ∧
    groupingKind .default fixed = some .inconsistentGroups :=
  ⟨_, _, rfl, by cbv, rfl, rfl, rfl⟩

end NumeralStyle.Report
