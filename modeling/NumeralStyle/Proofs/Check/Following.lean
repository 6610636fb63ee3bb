import NumeralStyle.Proofs.Check.Fixes

/-! Following a suggestion. The checks say of the literal that a suggestion spells what they said of
the literal before, but for the groups, and for the leading zeros where it is those that went away
(`Fix.advice`). So there is no other finding afterwards, and after the first suggestion that there is
none is left (`ofToken_suggestion`). -/
namespace NumeralStyle.Check
open Literal Text

/-- Whether advice stands after a suggestion of a finding has been followed: advice on groups never
does, and advice on leading zeros does not if the finding was about these. -/
def standsAfter (kind : FindingKind) (advice : Advice) : Bool :=
  !(advice.kind == .largeGroups || advice.kind == .inconsistentGroups) &&
    !(kind == .zeroPrefixed && advice.kind == .zeroPrefixed)

variable {widths : Widths} {literal fixed : Literal} {kind : FindingKind}

theorem filter_kept {verdict : Option Advice} {test : Advice → Bool}
    (kept : ∀ advice, verdict = some advice → test advice = true) : verdict.filter test = verdict := by
  cases verdict with
  | none => rfl
  | some advice => exact Option.filter_some_pos (kept advice rfl)

theorem filter_dropped {verdict : Option Advice} {test : Advice → Bool}
    (dropped : ∀ advice, verdict = some advice → test advice = false) :
    verdict.filter test = none := by
  cases verdict with
  | none => rfl
  | some advice => exact Option.filter_some_neg (dropped advice rfl)

theorem filter_casing (literal : Literal) (kind : FindingKind) :
    (casing literal).filter (standsAfter kind) = casing literal := by
  refine filter_kept fun advice found => ?_
  simp [standsAfter, (casing_eq_some found).2.1]

theorem filter_suffixSeparation (literal : Literal) (kind : FindingKind) :
    (suffixSeparation literal).filter (standsAfter kind) = suffixSeparation literal := by
  refine filter_kept fun advice found => ?_
  simp [standsAfter, (suffixSeparation_eq_some found).1]

theorem filter_leadingZero (literal : Literal) (other : kind ≠ .zeroPrefixed) :
    (leadingZero literal).filter (standsAfter kind) = leadingZero literal := by
  refine filter_kept fun advice found => ?_
  simp [standsAfter, (leadingZero_eq_some found).2.1, other]

theorem filter_leadingZero_eq_none (literal : Literal) :
    (leadingZero literal).filter (standsAfter .zeroPrefixed) = none := by
  refine filter_dropped fun advice found => ?_
  simp [standsAfter, (leadingZero_eq_some found).2.1]

theorem filter_grouping (widths : Widths) (literal : Literal) (kind : FindingKind) :
    (grouping widths literal).filter (standsAfter kind) = none := by
  refine filter_dropped fun advice found => ?_
  rcases groupingKind_eq_some (grouping_eq_some found).1 with large | inconsistent
  · simp [standsAfter, large]
  · simp [standsAfter, inconsistent]

/-! ## Canonical groups -/

theorem digits_regrouped (ends : literal.tail = []) :
    (literal.regrouped widths).digits = literal.filledDigits widths := by
  have ends' : (literal.regrouped widths).tail = [] := ends
  rw [digits_eq (integerPart_eq ends'), withoutSeparators_regrouped]

/-- Zeros in front are no letters. -/
theorem filter_filledDigits :
    (literal.filledDigits widths).filter CharClass.isHexLetter =
      literal.digits.filter CharClass.isHexLetter := by
  obtain ⟨count, same⟩ :=
    exists_filled (widths.of literal.radix) (literal.radix != .decimal) literal.digits
  have zeros : (List.replicate count '0').filter CharClass.isHexLetter = [] := by
    refine List.filter_eq_nil_iff.mpr fun c member => ?_
    rw [List.eq_of_mem_replicate member]
    decide
  rw [filledDigits, same, List.filter_append, zeros, List.nil_append]

theorem letterDigits_regrouped (ends : literal.tail = []) :
    letterDigits (literal.regrouped widths) = letterDigits literal := by
  have whole : (withoutSeparators (literal.regrouped widths).whole).filter CharClass.isHexLetter =
      (withoutSeparators literal.whole).filter CharClass.isHexLetter := by
    rw [withoutSeparators_regrouped, filter_filledDigits, digits_eq (integerPart_eq ends)]
  unfold withoutSeparators at whole
  simp only [letterDigits, digitRun_eq, body, withoutSeparators, List.filter_append, whole]
  rfl

/-- The groups of a regrouped integer part are the canonical ones. -/
theorem integerGroups_of_regroup {pad : Bool} {digits : Text} (clean : separator ∉ digits)
    (part : literal.integerPart = regroup (widths.of literal.radix) pad digits) :
    literal.integerGroups =
      canonicalGroups (widths.of literal.radix) (filled (widths.of literal.radix) pad digits) := by
  rw [integerGroups, part]
  exact groups_regroup (widths_of_pos widths literal.radix) pad clean

/-- An integer part in canonical groups is not minded. -/
theorem groupingKind_of_regroup {pad : Bool} {digits : Text} (clean : separator ∉ digits)
    (part : literal.integerPart = regroup (widths.of literal.radix) pad digits) :
    groupingKind widths literal = none := by
  have positive := widths_of_pos widths literal.radix
  have same := integerGroups_of_regroup clean part
  unfold groupingKind
  split
  · rename_i leading others groups
    rw [same] at groups
    split
    · rename_i several
      refine classify_canonicalGroups positive groups ?_
      simp only [Bool.and_eq_true, Bool.not_eq_true'] at several
      intro none
      simp [none] at several
    · rfl
  · rfl

theorem groupingKind_regrouped (part : (literal.regrouped widths).integerPart =
    (literal.regrouped widths).whole) : groupingKind widths (literal.regrouped widths) = none :=
  groupingKind_of_regroup (separator_not_mem_digits literal) part

theorem verdicts_regrouped (ends : literal.tail = []) (other : kind ≠ .zeroPrefixed) :
    (literal.regrouped widths).verdicts widths =
      (literal.verdicts widths).map (Option.filter (standsAfter kind)) := by
  have part : (literal.regrouped widths).integerPart = (literal.regrouped widths).whole :=
    integerPart_eq ends
  have cases : casing (literal.regrouped widths) = casing literal :=
    casing_congr rfl (letterDigits_regrouped ends)
  have suffixes : suffixSeparation (literal.regrouped widths) = suffixSeparation literal :=
    suffixSeparation_congr rfl rfl
  have zeros : leadingZero (literal.regrouped widths) = leadingZero literal := by
    by_cases base : literal.radix = .decimal
    · refine leadingZero_congr rfl rfl ?_ rfl
      rw [digits_regrouped ends, filledDigits, base]
      rfl
    · have before : ¬ HasLeadingZero literal := fun zero => base zero.radix
      have after : ¬ HasLeadingZero (literal.regrouped widths) := fun zero => base zero.radix
      rw [leadingZero_eq_none before, leadingZero_eq_none after]
  simp only [Literal.verdicts, List.map_cons, List.map_nil, filter_casing, filter_suffixSeparation,
    filter_leadingZero literal other, filter_grouping, cases, suffixes, zeros,
    grouping_eq_none (groupingKind_regrouped part)]

/-! ## Without leading zeros -/

theorem separator_not_mem_trimmed (radix : Radix) :
    separator ∉ (literal.trimmed radix).whole :=
  fun member => separator_not_mem_digits literal ((List.dropWhile_sublist _).mem member)

theorem isGroup_trimmed (radix : Radix) (zero : HasLeadingZero literal) :
    IsGroup (literal.trimmed radix).whole := by
  obtain ⟨c, starts, -⟩ := starts_trimmed zero.zero
  exact ⟨List.ne_nil_of_mem (List.mem_of_mem_head? starts), separator_not_mem_trimmed radix⟩

theorem integerGroups_trimmed (radix : Radix) (zero : HasLeadingZero literal)
    (ends : literal.tail = []) :
    (literal.trimmed radix).integerGroups = [(literal.trimmed radix).whole] := by
  have ends' : (literal.trimmed radix).tail = [] := ends
  rw [integerGroups, integerPart_eq ends', groups_of_isGroup (isGroup_trimmed radix zero)]

theorem digits_trimmed (radix : Radix) (zero : HasLeadingZero literal) (ends : literal.tail = []) :
    (literal.trimmed radix).digits = literal.digits.dropWhile (· == '0') := by
  rw [digits, integerGroups_trimmed radix zero ends, List.flatten_singleton]
  rfl

theorem head?_digits_trimmed (radix : Radix) (zero : HasLeadingZero literal)
    (ends : literal.tail = []) : (literal.trimmed radix).digits.head? ≠ some '0' := by
  obtain ⟨c, first, -, other⟩ := starts_trimmed zero.zero
  rw [digits_trimmed radix zero ends, Option.mem_def.mp first]
  exact fun same => other (Option.some.inj same)

/-- Without leading zeros there are none to mind. -/
theorem not_hasLeadingZero_trimmed (radix : Radix) (zero : HasLeadingZero literal)
    (ends : literal.tail = []) : ¬ HasLeadingZero (literal.trimmed radix) := by
  intro again
  have starts := again.zero
  simp only [isZeroPrefixed, Bool.and_eq_true, beq_iff_eq] at starts
  exact head?_digits_trimmed radix zero ends starts.1

theorem groupingKind_trimmed (radix : Radix) (zero : HasLeadingZero literal)
    (ends : literal.tail = []) : groupingKind widths (literal.trimmed radix) = none := by
  simp [groupingKind, integerGroups_trimmed radix zero ends]

theorem verdicts_trimmed {radix : Radix} (zero : HasLeadingZero literal) (ends : literal.tail = [])
    (base : radix ≠ .hex) :
    (literal.trimmed radix).verdicts widths =
      (literal.verdicts widths).map (Option.filter (standsAfter .zeroPrefixed)) := by
  have decimal : literal.radix ≠ .hex := by simp [zero.radix]
  have cases : casing (literal.trimmed radix) = casing literal := by
    rw [casing_eq_none base, casing_eq_none decimal]
  have suffixes : suffixSeparation (literal.trimmed radix) = suffixSeparation literal :=
    suffixSeparation_congr rfl rfl
  simp only [Literal.verdicts, List.map_cons, List.map_nil, filter_casing, filter_suffixSeparation,
    filter_leadingZero_eq_none, filter_grouping, cases, suffixes,
    leadingZero_eq_none (not_hasLeadingZero_trimmed radix zero ends),
    grouping_eq_none (groupingKind_trimmed radix zero ends)]

end NumeralStyle.Check

namespace NumeralStyle.Literal
open Check

variable {widths : Widths} {literal fixed : Literal} {kind : FindingKind}

theorem Fix.groupingKind_eq_none (fix : Fix widths literal kind fixed) (ends : literal.tail = []) :
    groupingKind widths fixed = none := by
  cases fix with
  | grouped => exact groupingKind_regrouped (integerPart_eq ends)
  | decimal zero => exact groupingKind_trimmed .decimal zero ends
  | octal zero => exact groupingKind_trimmed .octal zero ends

/-- After a fix all advice stands but that on the groups and what the fix was for. -/
theorem Fix.advice (fix : Fix widths literal kind fixed) (ends : literal.tail = []) :
    fixed.advice widths = (literal.advice widths).filter (standsAfter kind) := by
  have verdicts : fixed.verdicts widths =
      (literal.verdicts widths).map (Option.filter (standsAfter kind)) := by
    cases fix with
    | grouped due =>
      refine verdicts_regrouped ends ?_
      rcases groupingKind_eq_some due with rfl | rfl <;> decide
    | decimal zero => exact verdicts_trimmed zero ends (by decide)
    | octal zero => exact verdicts_trimmed zero ends (by decide)
  rw [Literal.advice, verdicts, Literal.advice, List.filter_filterMap, List.filterMap_map]
  rfl

end NumeralStyle.Literal

namespace NumeralStyle.Report
open Literal Check

variable {widths : Widths} {token : Token} {report : Report}

/-- The first suggestion of a report, in the order of its findings. -/
def firstSuggestion? (report : Report) : Option Text :=
  (report.findings.flatMap (·.suggestions)).head?

theorem ofToken_eq_ok_iff [Platform] :
    ofToken widths token = .ok report ↔
      parse token.raw = .ok report.literal ∧ groupingOversize? widths report.literal = none ∧
        report.span = token.span ∧
        report.findings = (report.literal.advice widths).map (·.at token.span) := by
  obtain ⟨literal, span, findings⟩ := report
  unfold ofToken
  cases read : parse token.raw with
  | error fault => simp
  | ok found =>
    constructor
    · intro made
      dsimp only at made
      split at made
      · cases made
      · rename_i fits
        cases made
        exact ⟨rfl, fits, rfl, rfl⟩
    · rintro ⟨same, fits, place, listed⟩
      obtain rfl : found = literal := Except.ok.inj same
      obtain rfl : span = token.span := place
      obtain rfl : findings = (found.advice widths).map (·.at token.span) := listed
      simp only [fits]

theorem raw_eq [Platform]
    (reported : ofToken widths token = .ok report) : token.raw = report.literal.raw :=
  (raw_of_parse (ofToken_eq_ok_iff.mp reported).1).symm

theorem parse_literal [Platform] (reported : ofToken widths token = .ok report) :
    parse report.literal.raw = .ok report.literal := by
  rw [← raw_eq reported]
  exact (ofToken_eq_ok_iff.mp reported).1

theorem exists_fix_of_suggested [Platform] {finding : Finding} {spelling : Text}
    (reported : ofToken widths token = .ok report) (among : finding ∈ report.findings)
    (suggested : spelling ∈ finding.suggestions) :
    ∃ fixed, Fix widths report.literal finding.kind fixed ∧ fixed.raw = spelling := by
  rw [(ofToken_eq_ok_iff.mp reported).2.2.2] at among
  obtain ⟨advice, given, rfl⟩ := List.mem_map.mp among
  exact exists_fix given suggested

/-- What a fix spells has a report. -/
theorem ofToken_fix [Platform] {literal fixed : Literal} {kind : FindingKind}
    (fix : Fix widths literal kind fixed) (read : parse literal.raw = .ok literal)
    (ends : literal.tail = []) (place : Span) :
    ofToken widths ⟨fixed.raw, place⟩ =
      .ok ⟨fixed, place, (fixed.advice widths).map (·.at place)⟩ := by
  have fits : groupingOversize? widths fixed = none := by
    rw [groupingOversize?, fix.groupingKind_eq_none ends, Option.bind_none]
  exact ofToken_eq_ok_iff.mpr ⟨fix.parse_eq_ok read ends, fits, rfl, rfl⟩

theorem map_toAdvice_at (advice : List Advice) (place : Span) :
    (advice.map (·.at place)).map (·.toAdvice) = advice := by
  rw [List.map_map]
  exact List.map_id advice

/-- What stands after a fix suggests nothing, if leading zeros are what was fixed or there were
none. -/
theorem suggestions_eq_nil {literal : Literal} {advice : Advice} {kind : FindingKind}
    (given : advice ∈ literal.advice widths) (stands : standsAfter kind advice = true)
    (zero : kind = .zeroPrefixed ∨ leadingZero literal = none) : advice.suggestions = [] := by
  rcases mem_advice_iff.mp given with found | found | found | found
  · exact (casing_eq_some found).2.2
  · exact (suffixSeparation_eq_some found).2
  · rcases zero with rfl | none
    · have gone := filter_leadingZero_eq_none literal
      rw [found, Option.filter_some_pos stands] at gone
      cases gone
    · rw [found] at none
      cases none
  · have gone := filter_grouping widths literal kind
    rw [found, Option.filter_some_pos stands] at gone
    cases gone

/-- The first suggestion is about leading zeros, if there is advice on these. -/
theorem exists_advice_of_first {literal : Literal} {spelling : Text}
    (first : ((literal.advice widths).flatMap (·.suggestions)).head? = some spelling) :
    ∃ advice ∈ literal.advice widths, spelling ∈ advice.suggestions ∧
      (advice.kind = .zeroPrefixed ∨ leadingZero literal = none) := by
  cases found : leadingZero literal with
  | none =>
    obtain ⟨advice, given, suggested⟩ := List.mem_flatMap.mp (List.mem_of_mem_head? first)
    exact ⟨advice, given, suggested, .inr rfl⟩
  | some zero =>
    obtain ⟨-, kind, suggestions⟩ := leadingZero_eq_some found
    have before : (casing literal).toList.flatMap (·.suggestions) = [] := by
      cases cased : casing literal with
      | none => rfl
      | some advice => simp [(casing_eq_some cased).2.2]
    have between : (suffixSeparation literal).toList.flatMap (·.suggestions) = [] := by
      cases glued : suffixSeparation literal with
      | none => rfl
      | some advice => simp [(suffixSeparation_eq_some glued).2]
    refine ⟨zero, mem_advice_iff.mpr (.inr (.inr (.inl found))), ?_, .inl kind⟩
    rw [advice_eq, List.flatMap_append, before, List.flatMap_append, between, List.flatMap_append,
      found, Option.toList_some, List.flatMap_singleton, suggestions] at first
    cases first
    rw [suggestions]
    exact List.mem_cons_self ..

/-- Following a suggestion leaves all other findings as they are, and takes away those on the groups
and, where it is about these, the one on leading zeros. After the first suggestion there is none
left. -/
theorem ofToken_suggestion [Platform] (reported : ofToken widths token = .ok report)
    (known : report.literal.unrecognizedSuffix = none) :
    (∀ finding ∈ report.findings, ∀ spelling ∈ finding.suggestions, ∀ place : Span,
      ∃ after, ofToken widths ⟨spelling, place⟩ = .ok after ∧
        after.findings.map (·.toAdvice) =
          (report.findings.map (·.toAdvice)).filter (standsAfter finding.kind)) ∧
    ∀ spelling, report.firstSuggestion? = some spelling → ∀ place : Span,
      ∃ after, ofToken widths ⟨spelling, place⟩ = .ok after ∧ after.firstSuggestion? = none := by
  obtain ⟨-, -, -, findings⟩ := ofToken_eq_ok_iff.mp reported
  have read := parse_literal reported
  have ends := unrecognizedSuffix_eq_none_iff.mp known
  constructor
  · intro finding among spelling suggested place
    obtain ⟨fixed, fix, rfl⟩ := exists_fix_of_suggested reported among suggested
    refine ⟨_, ofToken_fix fix read ends place, ?_⟩
    rw [findings, map_toAdvice_at, map_toAdvice_at, fix.advice ends]
  · intro spelling first place
    rw [firstSuggestion?, findings, List.flatMap_map] at first
    obtain ⟨advice, given, suggested, zero⟩ := exists_advice_of_first first
    obtain ⟨fixed, fix, rfl⟩ := exists_fix given suggested
    refine ⟨_, ofToken_fix fix read ends place, ?_⟩
    have silent : ∀ left ∈ fixed.advice widths, left.suggestions = [] := by
      intro left member
      rw [fix.advice ends] at member
      obtain ⟨given, stands⟩ := List.mem_filter.mp member
      exact suggestions_eq_nil given stands zero
    rw [firstSuggestion?, List.flatMap_map, List.head?_eq_none_iff, List.flatMap_eq_nil_iff]
    exact silent

/-- Leading zeros. The first suggestion drops them, and nothing is suggested for what is left. -/
theorem ofToken_suggestion_leading_zero :
    ∃ report, ofToken .default ⟨['0', '7'], Span.ofText ['0', '7']⟩ = .ok report ∧
      report.literal.unrecognizedSuffix = none ∧ report.firstSuggestion? = some ['7'] ∧
      ∃ after, ofToken .default ⟨['7'], Span.ofText ['7']⟩ = .ok after ∧
        after.firstSuggestion? = none := by
  have reported : ∃ report, ofToken .default ⟨['0', '7'], Span.ofText ['0', '7']⟩ = .ok report ∧
      report.literal.unrecognizedSuffix = none ∧ report.firstSuggestion? = some ['7'] :=
    ⟨_, rfl, rfl, rfl⟩
  obtain ⟨report, reported, known, first⟩ := reported
  exact ⟨report, reported, known, first,
    (ofToken_suggestion reported known).2 ['7'] first (Span.ofText ['7'])⟩

end NumeralStyle.Report
