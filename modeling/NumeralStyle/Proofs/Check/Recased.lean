import NumeralStyle.Proofs.Check.Respelled

/-! Hexadecimal digits in one case. There is one finding on the case of the digits where they have
letters of both cases, and none otherwise. Letters stay digits when their case changes, and what ends the
digits stays where it is, so the literal is read as before and its groups have the lengths they had. Each
check but the one on the case says what it said before (`ofToken_recased`). -/
namespace NumeralStyle

/-- A change of the case of hexadecimal digits, after which there are no letters of one case. -/
structure IsRecasing (recase : Char → Char) : Prop where
  digit : ∀ c ∈ Radix.hex.digits, Radix.hex.isDigit (recase c) = true
  separator : recase separator = separator
  zero : recase '0' = '0'
  /-- One case is left. -/
  cased : (∀ c ∈ Radix.hex.digits, (recase c).isLower = false) ∨
    ∀ c ∈ Radix.hex.digits, (recase c).isUpper = false

theorem isRecasing_of_case {recase : Char → Char}
    (either : recase = Char.toLower ∨ recase = Char.toUpper) : IsRecasing recase := by
  rcases either with rfl | rfl
  · exact ⟨by decide, by decide, by decide, .inr (by decide)⟩
  · exact ⟨by decide, by decide, by decide, .inl (by decide)⟩

namespace Literal
open Check Text

/-- The literal under another spelling, with its digits in another case. -/
def recased (recase : Char → Char) (respelled : Text) (literal : Literal) : Literal :=
  { literal with raw := respelled, whole := literal.whole.map recase }

/-- The digits have letters of both cases. -/
structure MixesCases (literal : Literal) : Prop where
  lower : ∃ c ∈ literal.digits, 'a' ≤ c ∧ c ≤ 'f'
  upper : ∃ c ∈ literal.digits, 'A' ≤ c ∧ c ≤ 'F'

/-- Two spellings that differ in the case of the digits between the hexadecimal lead and the suffix. -/
def Recased (recase : Char → Char) (name : Text) (before after : Text) : Prop :=
  ∃ digits, IsRun .hex digits ∧ before = Radix.hex.lead ++ (digits ++ name) ∧
    after = Radix.hex.lead ++ (digits.map recase ++ name)

/-- Which spelling it is that differs so is settled by the first one. -/
theorem Recased.unique {recase : Char → Char} {name before after other : Text}
    (one : Recased recase name before after) (another : Recased recase name before other) :
    after = other := by
  obtain ⟨digits, -, rfl, rfl⟩ := one
  obtain ⟨digits', -, same, rfl⟩ := another
  obtain rfl := List.append_cancel_right (List.append_cancel_left same)
  rfl

/-- A hexadecimal literal that is read throughout: it has digits and no other pieces. -/
structure IsHex (literal : Literal) : Prop where
  radix : literal.radix = .hex
  valid : literal.toPieces.Valid .hex
  known : literal.tail = []

namespace IsHex

variable {literal : Literal} {recase : Char → Char} {raw respelled : Text}

theorem integral (hex : IsHex literal) : literal.fraction = [] ∧ literal.exponent = [] :=
  hex.valid.integral (by decide)

theorem body_eq (hex : IsHex literal) : literal.body = literal.whole := by
  simp only [body, hex.integral, hex.known, List.append_nil]

theorem exponentPart_eq_nil (hex : IsHex literal) : literal.exponentPart = [] := by
  rw [exponentPart_eq hex.known, hex.integral.2]

theorem digitRun_eq_digits (hex : IsHex literal) : literal.digitRun = literal.digits := by
  rw [digitRun_eq, hex.body_eq, digits_eq (integerPart_eq hex.known)]

theorem mem_digits (hex : IsHex literal) {c : Char} (member : c ∈ literal.digits) :
    c ∈ Radix.hex.digits := by
  rw [digits_eq (integerPart_eq hex.known)] at member
  exact Radix.mem_of_isDigit (isDigit_of_mem_withoutSeparators hex.valid.whole c member)

/-- A hexadecimal literal can have any number of separators before its suffix. -/
theorem parse_eq_ok (hex : IsHex literal) {ending : Text} (ends : Ending literal.suffix ending)
    (suffixed : ∀ written ∈ literal.suffix, written.suffix.Allowed literal.radix ∧
      literal.body.getLast? ≠ some separator)
    (spelled : literal.raw = Radix.hex.lead ++ (literal.body ++ ending)) :
    parse literal.raw = .ok literal := by
  have valid := hex.valid
  have base : Radix.hex ≠ .decimal := by decide
  rw [← hex.radix] at valid base
  refine parse_eq_ok_of_ending literal ends valid ?_ (fun _ => find?_body valid hex.known) suffixed ?_
  · constructor
    · rw [hex.known]
      exact stops_nil _
    · exact fun decimal => absurd decimal base
  · rw [spelled, ← hex.radix]
    exact Radix.split_lead_append base _

theorem recase_eq_separator (hex : IsHex literal) (recasing : IsRecasing recase) :
    ∀ c ∈ literal.whole, recase c = separator ↔ c = separator := by
  intro c member
  have inside := hex.valid.whole c member
  simp only [isDigitOrSeparator, Bool.or_eq_true, beq_iff_eq] at inside
  rcases inside with digit | rfl
  · have digit' := recasing.digit c (Radix.mem_of_isDigit digit)
    exact iff_of_false (ne_separator_of_isDigit digit') (ne_separator_of_isDigit digit)
  · exact iff_of_true recasing.separator rfl

/-! ## The literal in another case -/

theorem body_recased (hex : IsHex literal) :
    (literal.recased recase respelled).body = literal.whole.map recase := by
  simp only [recased, body, hex.integral, hex.known, List.append_nil]

theorem isHex_recased (hex : IsHex literal) (recasing : IsRecasing recase) :
    IsHex (literal.recased recase respelled) where
  radix := hex.radix
  known := hex.known
  valid := {
    hex.valid with
    whole := by
      intro c member
      obtain ⟨d, inside, rfl⟩ := List.mem_map.mp member
      by_cases apart : d = separator
      · rw [apart, recasing.separator]
        rfl
      · have digit : Radix.hex.isDigit d = true := by
          simpa [isDigitOrSeparator, apart] using hex.valid.whole d inside
        exact isDigitOrSeparator_of_isDigit (recasing.digit d (Radix.mem_of_isDigit digit))
    digit := by
      obtain ⟨c, member, digit⟩ := hex.valid.digit
      exact ⟨recase c, List.mem_map_of_mem member,
        recasing.digit c (Radix.mem_of_isDigit digit)⟩
    first := fun decimal => absurd decimal (by decide) }

theorem sameUpTo_recased (hex : IsHex literal) (recasing : IsRecasing recase) :
    SameUpTo recase literal (literal.recased recase respelled) := by
  have part : literal.integerPart = literal.whole := integerPart_eq hex.known
  have part' : (literal.recased recase respelled).integerPart = literal.whole.map recase :=
    integerPart_eq hex.known
  have groups := groups_map (hex.recase_eq_separator recasing)
  have integerGroups : (literal.recased recase respelled).integerGroups =
      literal.integerGroups.map (List.map recase) := by
    rw [Literal.integerGroups, part', groups, Literal.integerGroups, part]
  have rawGroups : (literal.recased recase respelled).rawGroups =
      literal.rawGroups.map (List.map recase) := by
    rw [Literal.rawGroups, hex.body_recased, groups, Literal.rawGroups, hex.body_eq]
  have none : literal.exponentPart = [] := hex.exponentPart_eq_nil
  have unknown : literal.unrecognizedSuffix = .none := unrecognizedSuffix_eq_none_iff.mpr hex.known
  exact {
    radix := rfl
    kind := rfl
    suffix := rfl
    rawGroups
    digitRun := by rw [digitRun, rawGroups, digitRun, List.map_flatten]
    integerGroups
    digits := by rw [digits, integerGroups, digits, List.map_flatten]
    fraction := by
      change literal.fraction = _
      rw [hex.integral.1]
      rfl
    exponent := by
      change literal.exponentPart = _
      rw [none]
      rfl
    tail := by
      change literal.unrecognizedSuffix = _
      rw [unknown]
      rfl }

/-- Separators stay where they are. -/
theorem hasSeparators_recased (hex : IsHex literal) (recasing : IsRecasing recase) :
    (literal.recased recase respelled).hasSeparators = literal.hasSeparators := by
  have same : (literal.whole.map recase).contains separator = literal.whole.contains separator := by
    rw [Bool.eq_iff_iff, List.contains_iff_mem, List.contains_iff_mem, List.mem_map]
    constructor
    · rintro ⟨c, member, apart⟩
      rwa [← (hex.recase_eq_separator recasing c member).mp apart]
    · intro member
      exact ⟨separator, member, recasing.separator⟩
  rw [hasSeparators, hasSeparators, hex.body_recased, hex.body_eq, same]
  rfl

theorem getLast?_recased (hex : IsHex literal) (recasing : IsRecasing recase)
    (last : literal.body.getLast? ≠ some separator) :
    (literal.recased recase respelled).body.getLast? ≠ some separator := by
  rw [hex.body_recased, List.getLast?_map]
  rw [hex.body_eq] at last
  intro same
  obtain ⟨c, found, apart⟩ := Option.map_eq_some_iff.mp same
  rw [(hex.recase_eq_separator recasing c (List.mem_of_getLast? found)).mp apart] at found
  exact last found

/-- What is read from the digits in another case is the literal with these digits. -/
theorem exists_parse_recased (hex : IsHex literal) (recasing : IsRecasing recase)
    (read : parse raw = .ok literal) :
    ∃ respelled, Recased recase literal.suffixName raw respelled ∧
      parse respelled = .ok (literal.recased recase respelled) := by
  obtain ⟨-, text, -, cut, -⟩ := parse_eq_ok_iff.mp read
  obtain ⟨ending, ends, spelled⟩ := exists_ending read
  obtain ⟨count, separates⟩ := ends.exists_separators
  refine ⟨Radix.hex.lead ++ (literal.whole.map recase ++ ending),
    ⟨literal.whole ++ List.replicate count separator, ?_, ?_, ?_⟩, ?_⟩
  · exact hex.valid.whole.append (isRun_separators .hex count)
  · rw [spelled, hex.radix, hex.body_eq, separates, List.append_assoc]
  · rw [List.map_append, List.map_replicate, recasing.separator, separates, List.append_assoc]
  · apply (hex.isHex_recased recasing).parse_eq_ok ends
    · intro written suffixed
      obtain ⟨allowed, last⟩ := cut.suffixed written suffixed
      exact ⟨allowed, hex.getLast?_recased recasing last⟩
    · rw [hex.body_recased]
      rfl

end IsHex
end Literal

namespace Check
open Literal

variable {widths : Widths} {literal : Literal} {recase : Char → Char} {respelled : Text}

/-- The letters of each case are told from the other digits by what they are. -/
theorem isLower_iff {c : Char} (digit : c ∈ Radix.hex.digits) :
    ((CharClass.isHexLetter c && c.isLower) = true ↔ 'a' ≤ c ∧ c ≤ 'f') ∧
      ((CharClass.isHexLetter c && c.isUpper) = true ↔ 'A' ≤ c ∧ c ≤ 'F') := by
  have listed : ∀ d ∈ Radix.hex.digits,
      ((CharClass.isHexLetter d && d.isLower) = true ↔ 'a' ≤ d ∧ d ≤ 'f') ∧
        ((CharClass.isHexLetter d && d.isUpper) = true ↔ 'A' ≤ d ∧ d ≤ 'F') := by decide
  exact listed c digit

theorem casing_isSome_iff (hex : IsHex literal) :
    (casing literal).isSome = true ↔ literal.MixesCases := by
  have lower : (literal.digits.filter CharClass.isHexLetter).any (·.isLower) = true ↔
      ∃ c ∈ literal.digits, 'a' ≤ c ∧ c ≤ 'f' := by
    rw [List.any_filter, List.any_eq_true]
    refine exists_congr fun c => and_congr_right fun member => ?_
    exact (isLower_iff (hex.mem_digits member)).1
  have upper : (literal.digits.filter CharClass.isHexLetter).any (·.isUpper) = true ↔
      ∃ c ∈ literal.digits, 'A' ≤ c ∧ c ≤ 'F' := by
    rw [List.any_filter, List.any_eq_true]
    refine exists_congr fun c => and_congr_right fun member => ?_
    exact (isLower_iff (hex.mem_digits member)).2
  rw [casing, hex.digitRun_eq_digits]
  simp only [hex.radix, true_and, lower, upper]
  split
  · rename_i both
    exact iff_of_true rfl ⟨both.1, both.2⟩
  · rename_i single
    exact iff_of_false (by simp) fun mixed => single ⟨mixed.lower, mixed.upper⟩

/-- In one case there is nothing to say about the case. -/
theorem casing_recased (hex : IsHex literal) (recasing : IsRecasing recase) :
    casing (literal.recased recase respelled) = none := by
  have run : (literal.recased recase respelled).digitRun = literal.digits.map recase := by
    rw [(hex.sameUpTo_recased recasing).digitRun, hex.digitRun_eq_digits]
  unfold casing
  rw [run, if_neg]
  rintro ⟨-, lower, upper⟩
  rcases recasing.cased with none | none
  · obtain ⟨c, member, cased⟩ := List.any_eq_true.mp lower
    obtain ⟨d, inside, rfl⟩ := List.mem_map.mp (List.mem_filter.mp member).1
    rw [none d (hex.mem_digits inside)] at cased
    cases cased
  · obtain ⟨c, member, cased⟩ := List.any_eq_true.mp upper
    obtain ⟨d, inside, rfl⟩ := List.mem_map.mp (List.mem_filter.mp member).1
    rw [none d (hex.mem_digits inside)] at cased
    cases cased

theorem leadingZero_of_hex (radix : literal.radix = .hex) : leadingZero literal = none :=
  leadingZero_eq_none fun zero => by
    have decimal := zero.radix
    rw [radix] at decimal
    cases decimal

/-- The spelling in canonical groups is recased as well. -/
theorem recased_regrouped (widths : Widths) (hex : IsHex literal) (recasing : IsRecasing recase) :
    Recased recase literal.suffixName (literal.regrouped widths).raw
      ((literal.recased recase respelled).regrouped widths).raw := by
  obtain ⟨count, ending⟩ := (ending_suffixText literal).exists_separators
  have valid := hex.valid
  rw [← hex.radix] at valid
  have run := (valid_regrouped widths valid (integerPart_eq hex.known)).whole
  rw [show (literal.regrouped widths).radix = .hex from hex.radix] at run
  have digits : (literal.recased recase respelled).digits = literal.digits.map recase :=
    (hex.sameUpTo_recased recasing).digits
  have exponent : literal.exponentPart = [] := hex.exponentPart_eq_nil
  have exponent' : (literal.recased recase respelled).exponentPart = [] := exponent
  have fraction : (literal.recased recase respelled).fraction = [] := hex.integral.1
  have radix : (literal.recased recase respelled).radix = .hex := hex.radix
  have suffixText : (literal.recased recase respelled).suffixText = literal.suffixText := rfl
  refine ⟨(literal.regrouped widths).whole ++ List.replicate count separator,
    run.append (isRun_separators .hex count), ?_, ?_⟩
  · simp only [regrouped, hex.radix, hex.integral.1, exponent, ending, List.append_nil,
      List.append_assoc]
  · simp only [regrouped, radix, fraction, exponent', suffixText, digits, ending, hex.radix,
      List.append_nil, List.append_assoc, List.map_append, List.map_replicate, recasing.separator,
      regroup_map recasing.zero recasing.separator]

/-- With the digits in one case each check says what it said, but for the one on the case. -/
theorem verdicts_recased (widths : Widths) (hex : IsHex literal) (recasing : IsRecasing recase) :
    List.Forall₂ (Option.Rel (Advice.Respelled (Recased recase literal.suffixName)))
      ((literal.verdicts widths).map (Option.filter (·.kind != .mixedCaseHex)))
      ((literal.recased recase respelled).verdicts widths) := by
  have cleared : (casing literal).filter (·.kind != .mixedCaseHex) = none :=
    filter_same fun _ found => (casing_eq_some found).2.1
  have suffixes : (suffixSeparation literal).filter (·.kind != .mixedCaseHex) =
      suffixSeparation literal :=
    filter_other (fun _ found => (suffixSeparation_eq_some found).1) (by decide)
  have grouped : (grouping widths literal).filter (·.kind != .mixedCaseHex) =
      grouping widths literal := filter_grouping_other (by decide) (by decide)
  have same : suffixSeparation (literal.recased recase respelled) = suffixSeparation literal :=
    suffixSeparation_congr rfl rfl
  have zeros : leadingZero (literal.recased recase respelled) = none :=
    leadingZero_of_hex hex.radix
  simp only [Literal.verdicts, List.map_cons, List.map_nil, cleared, suffixes,
    leadingZero_of_hex hex.radix, Option.filter_none, grouped, casing_recased hex recasing, same, zeros]
  refine .cons .none (.cons (rel_self fun advice found => (suffixSeparation_eq_some found).2) ?_)
  exact .cons .none (.cons
    (grouping_respelled (hex.sameUpTo_recased recasing) (recased_regrouped widths hex recasing)) .nil)

end Check

namespace Report
open Literal Check

variable {literal : Literal} {raw : Text}

/-- A hexadecimal literal has one finding on the case of its digits where these mix the cases, and none
otherwise. With its digits in lower case, and with them in upper case, it is read as the same literal
in that case, and just that finding is cleared. -/
theorem ofToken_recased [Platform] (read : parse raw = .ok literal) (radix : literal.radix = .hex)
    (known : literal.unrecognizedSuffix = none) :
    (∀ widths place,
      ((∃ report, ofToken widths ⟨raw, place⟩ = .ok report) ↔
        groupingOversize? widths literal = none) ∧
      ∀ report, ofToken widths ⟨raw, place⟩ = .ok report →
        (literal.MixesCases → report.findings.countP (·.kind == .mixedCaseHex) = 1) ∧
        (¬ literal.MixesCases → report.findings.countP (·.kind == .mixedCaseHex) = 0)) ∧
    ∀ recase, recase = Char.toLower ∨ recase = Char.toUpper →
      (∃ respelled, Recased recase literal.suffixName raw respelled) ∧
      ∀ respelled, Recased recase literal.suffixName raw respelled →
        ∃ recased, parse respelled = .ok recased ∧ SameUpTo recase literal recased ∧
          recased.suffix = literal.suffix ∧ recased.hasSeparators = literal.hasSeparators ∧
          ∀ widths place place', Cleared .mixedCaseHex (Recased recase literal.suffixName)
            (ofToken widths ⟨raw, place⟩) (ofToken widths ⟨respelled, place'⟩) := by
  have valid := valid_of_parse read
  rw [radix] at valid
  have hex : IsHex literal := ⟨radix, valid, unrecognizedSuffix_eq_none_iff.mp known⟩
  constructor
  · refine fun widths place => ⟨exists_ofToken_iff read place, fun report reported => ?_⟩
    rw [countP_findings read reported, countP_kind casing_gives]
    constructor
    · intro mixed
      rw [if_pos ((casing_isSome_iff hex).mpr mixed)]
    · intro single
      rw [if_neg (mt (casing_isSome_iff hex).mp single)]
  · intro recase either
    have recasing := isRecasing_of_case either
    obtain ⟨spelling, spelled, again⟩ := hex.exists_parse_recased recasing read
    refine ⟨⟨spelling, spelled⟩, fun respelled other => ?_⟩
    obtain rfl := other.unique spelled
    have same : SameUpTo recase literal (literal.recased recase respelled) :=
      hex.sameUpTo_recased recasing
    refine ⟨literal.recased recase respelled, again, same, rfl, hex.hasSeparators_recased recasing,
      fun widths place place' => ?_⟩
    exact cleared_of_verdicts read again same (verdicts_recased widths hex recasing) place place'

/-- A number of both cases, with uneven groups and two separators before its suffix. -/
theorem ofToken_recased_suffixed :
    ∃ literal, parse ['0', 'x', 'f', 'A', '_', 'E', '_', '_', 'u', '8'] = .ok literal ∧
      literal.radix = .hex ∧ literal.unrecognizedSuffix = none ∧
      (∃ report, ofToken .default
          ⟨['0', 'x', 'f', 'A', '_', 'E', '_', '_', 'u', '8'], Span.ofText []⟩ = .ok report ∧
        report.findings.countP (·.kind == .mixedCaseHex) = 1) ∧
      ∃ recased, parse ['0', 'x', 'f', 'a', '_', 'e', '_', '_', 'u', '8'] = .ok recased ∧
        SameUpTo Char.toLower literal recased := by
  have read : ∃ literal, parse ['0', 'x', 'f', 'A', '_', 'E', '_', '_', 'u', '8'] = .ok literal ∧
      literal.radix = .hex ∧ literal.unrecognizedSuffix = none ∧
      literal.digits = ['f', 'A', 'E'] ∧ literal.suffixName = ['u', '8'] ∧
      groupingOversize? .default literal = none :=
    ⟨_, rfl, rfl, rfl, rfl, rfl, by decide +kernel⟩
  obtain ⟨literal, read, radix, known, digits, name, fits⟩ := read
  have mixed : literal.MixesCases := by
    constructor <;> rw [digits]
    · exact ⟨'f', by decide, by decide⟩
    · exact ⟨'A', by decide, by decide⟩
  have lower : Recased Char.toLower literal.suffixName
      ['0', 'x', 'f', 'A', '_', 'E', '_', '_', 'u', '8']
      ['0', 'x', 'f', 'a', '_', 'e', '_', '_', 'u', '8'] := by
    rw [name]
    exact ⟨['f', 'A', '_', 'E', '_', '_'], by unfold IsRun; decide, rfl, rfl⟩
  obtain ⟨each, cased⟩ := ofToken_recased read radix known
  obtain ⟨given, counts⟩ := each .default (Span.ofText [])
  obtain ⟨report, reported⟩ := given.mpr fits
  obtain ⟨recased, again, same, -⟩ := (cased Char.toLower (.inl rfl)).2 _ lower
  exact ⟨literal, read, radix, known, ⟨report, reported, (counts report reported).1 mixed⟩, recased,
    again, same⟩

end Report
end NumeralStyle
