import NumeralStyle.Proofs.Check.Respelled

/-! Setting a suffix apart. There is one finding on the suffix where a literal ends in one with no
separator before it, and none otherwise. A separator put there is no part of the number, so the literal is
read as before, and each check but the one on the suffix says what it said before; what is
suggested has the separator as well (`ofToken_separated`). -/
namespace NumeralStyle

namespace Radix

/-- A separator that is put into a text makes no lead. -/
theorem split_insert {front back : Text}
    (plain : split (front ++ back) = (.decimal, front ++ back)) :
    split (front ++ separator :: back) = (.decimal, front ++ separator :: back) := by
  refine split_decimal_iff.mpr fun radix base leads => ?_
  obtain ⟨rest, same⟩ := leads
  have before : radix.lead <+: front := by
    rcases List.append_eq_append_iff.mp same with ⟨more, whole, -⟩ | ⟨more, whole, behind⟩
    · exact ⟨more, whole.symm⟩
    · cases more with
      | nil => exact ⟨[], by rw [List.append_nil, whole, List.append_nil]⟩
      | cons c more =>
        obtain ⟨rfl, -⟩ := List.cons.inj behind
        exact absurd (by simp [whole]) radix.separator_not_mem_lead
  exact split_decimal_iff.mp plain radix base (before.trans (List.prefix_append front back))

end Radix

namespace Literal

/-- The literal with a separator before its suffix. -/
def separated (literal : Literal) : Literal :=
  let suffix := literal.suffix.map fun written => ⟨written.suffix, true⟩
  { literal with
    raw := literal.radix.lead ++ (literal.body ++ (suffix.map (·.text)).getD [])
    suffix }

/-- A suffix ends the spelling of its literal, and there is no separator in front of it. -/
structure IsGlued (literal : Literal) (raw front : Text) (suffix : Suffix) : Prop where
  suffixed : literal.suffix.map (·.suffix) = some suffix
  spelled : raw = front ++ suffix.text
  unseparated : front.getLast? ≠ some separator

variable {literal : Literal} {raw front : Text} {suffix : Suffix}

/-- What is in front of a glued suffix is the lead and the number. -/
theorem isGlued_iff (read : parse raw = .ok literal) :
    IsGlued literal raw front suffix ↔
      literal.suffix = some ⟨suffix, false⟩ ∧ front = literal.radix.lead ++ literal.body := by
  obtain ⟨ending, ends, whole⟩ := exists_ending read
  constructor
  · rintro ⟨suffixed, spelled, unseparated⟩
    generalize literal.suffix = written at ends suffixed
    cases ends with
    | none => cases suffixed
    | glued written =>
      obtain rfl : written = suffix := Option.some.inj suffixed
      have same : front ++ written.text = literal.radix.lead ++ literal.body ++ written.text := by
        rw [← spelled, whole, List.append_assoc]
      exact ⟨rfl, List.append_cancel_right same⟩
    | separated count written =>
      obtain rfl : written = suffix := Option.some.inj suffixed
      have same : front ++ written.text = literal.radix.lead ++ literal.body ++
          List.replicate (count + 1) separator ++ written.text := by
        rw [← spelled, whole]
        simp only [List.append_assoc]
      -- The last of the separators would end what is in front of the suffix.
      rw [List.append_cancel_right same, List.replicate_succ'] at unseparated
      simp at unseparated
  · rintro ⟨suffixed, rfl⟩
    obtain ⟨-, text, -, cut, valid, -⟩ := parse_eq_ok_iff.mp read
    obtain ⟨-, last⟩ := cut.suffixed _ suffixed
    rw [suffixed] at ends
    cases ends
    refine ⟨by rw [suffixed]; rfl, by rw [whole, List.append_assoc], ?_⟩
    rwa [List.getLast?_append_of_ne_nil _ (body_ne_nil valid)]

theorem raw_separated (suffixed : literal.suffix = some ⟨suffix, false⟩) :
    literal.separated.raw = literal.radix.lead ++ literal.body ++ separator :: suffix.text := by
  simp [separated, suffixed, WrittenSuffix.text]

theorem suffixText_separated (suffixed : literal.suffix = some ⟨suffix, false⟩) :
    literal.separated.suffixText = separator :: suffix.text := by
  simp [separated, suffixText, suffixed, WrittenSuffix.text]

/-- A separator before the suffix leaves the number as it was. -/
theorem parse_separated (read : parse raw = .ok literal)
    (suffixed : literal.suffix = some ⟨suffix, false⟩) :
    parse literal.separated.raw = .ok literal.separated := by
  obtain ⟨rfl, text, base, cut, valid, maximal⟩ := parse_eq_ok_iff.mp read
  obtain ⟨allowed, last⟩ := cut.suffixed _ suffixed
  have whole := Radix.lead_append_split literal.raw
  rw [suffixed] at cut
  cases cut
  refine parse_eq_ok_of_pieces literal.separated valid maximal (fun none => ?_)
    (fun written member => ?_) ?_
  · simp [separated, suffixed] at none
  · obtain rfl : ⟨suffix, true⟩ = written := by simpa [separated, suffixed] using member
    exact ⟨allowed, last⟩
  · change Radix.split literal.separated.raw =
      (literal.radix, literal.body ++ literal.separated.suffixText)
    rw [raw_separated suffixed, suffixText_separated suffixed, List.append_assoc]
    by_cases decimal : literal.radix = .decimal
    · rw [base, decimal, Radix.lead, List.nil_append] at whole
      rw [← whole, decimal] at base
      rw [decimal, Radix.lead, List.nil_append]
      exact Radix.split_insert base
    · exact Radix.split_lead_append decimal _

theorem suffix_separated (literal : Literal) :
    literal.separated.suffix.map (·.suffix) = literal.suffix.map (·.suffix) := by
  cases suffixed : literal.suffix <;> simp [separated, suffixed]

theorem kind_separated (literal : Literal) : literal.separated.kind = literal.kind := by
  cases suffixed : literal.suffix <;> simp [separated, kind, isPointed, suffixed]

theorem sameUpTo_separated (literal : Literal) : SameUpTo id literal literal.separated where
  radix := rfl
  kind := kind_separated literal
  suffix := suffix_separated literal
  rawGroups := by simp [rawGroups, body, separated]
  digitRun := by simp [digitRun, rawGroups, body, separated]
  integerGroups := by simp [integerGroups, integerPart, separated, isPointed]
  digits := by simp [digits, integerGroups, integerPart, separated, isPointed]
  fraction := by simp [separated]
  exponent := by simp [exponentPart, separated, isPointed]
  tail := by simp [unrecognizedSuffix, separated]

end Literal

namespace Check
open Literal

/-- Two spellings that differ in one separator before the suffix. -/
def Apart (suffix : Suffix) (before after : Text) : Prop :=
  ∃ front, before = front ++ suffix.text ∧ after = front ++ separator :: suffix.text

variable {widths : Widths} {literal : Literal} {suffix : Suffix}

/-- What is suggested ends in the suffix as it is written. -/
theorem apart_suffixText (suffixed : literal.suffix = some ⟨suffix, false⟩) (front : Text) :
    Apart suffix (front ++ literal.suffixText) (front ++ literal.separated.suffixText) := by
  refine ⟨front, ?_, ?_⟩
  · simp [suffixText, suffixed, WrittenSuffix.text]
  · rw [suffixText_separated suffixed]

theorem suffixSeparation_of_glued (suffixed : literal.suffix = some ⟨suffix, false⟩) :
    (suffixSeparation literal).isSome = true := by
  simp [suffixSeparation, suffixed]

theorem suffixSeparation_separated (literal : Literal) :
    suffixSeparation literal.separated = none := by
  cases suffixed : literal.suffix <;> simp [suffixSeparation, separated, suffixed]

theorem leadingZero_separated (suffixed : literal.suffix = some ⟨suffix, false⟩) :
    Option.Rel (Advice.Respelled (Apart suffix)) (leadingZero literal)
      (leadingZero literal.separated) := by
  have digits : literal.separated.digits = literal.digits := rfl
  have radix : literal.separated.radix = literal.radix := rfl
  unfold leadingZero
  rw [kind_separated, digits, radix]
  split
  · refine .some ⟨rfl, rfl, .cons (apart_suffixText suffixed _) ?_, rfl⟩
    split
    · exact .nil
    · refine .cons ?_ .nil
      rw [← List.append_assoc, ← List.append_assoc]
      exact apart_suffixText suffixed _
  · exact .none

theorem grouping_separated (widths : Widths) (suffixed : literal.suffix = some ⟨suffix, false⟩) :
    Option.Rel (Advice.Respelled (Apart suffix)) (grouping widths literal)
      (grouping widths literal.separated) :=
  grouping_respelled (sameUpTo_separated literal) (apart_suffixText suffixed _)

/-- With a separator before the suffix each check says what it said, but for the one on the suffix. -/
theorem verdicts_separated (widths : Widths) (suffixed : literal.suffix = some ⟨suffix, false⟩) :
    List.Forall₂ (Option.Rel (Advice.Respelled (Apart suffix)))
      ((literal.verdicts widths).map (Option.filter (·.kind != .unseparatedSuffix)))
      (literal.separated.verdicts widths) := by
  have cased : (casing literal).filter (·.kind != .unseparatedSuffix) = casing literal :=
    filter_other (fun _ found => (casing_eq_some found).2.1) (by decide)
  have cleared : (suffixSeparation literal).filter (·.kind != .unseparatedSuffix) = none :=
    filter_same fun _ found => (suffixSeparation_eq_some found).1
  have zeros : (leadingZero literal).filter (·.kind != .unseparatedSuffix) = leadingZero literal :=
    filter_other (fun _ found => (leadingZero_eq_some found).2.1) (by decide)
  have grouped : (grouping widths literal).filter (·.kind != .unseparatedSuffix) =
      grouping widths literal := filter_grouping_other (by decide) (by decide)
  have same : casing literal.separated = casing literal :=
    casing_congr rfl rfl
  simp only [Literal.verdicts, List.map_cons, List.map_nil, cased, cleared, zeros, grouped, same,
    suffixSeparation_separated]
  refine .cons (rel_self fun advice found => (casing_eq_some found).2.2) (.cons .none ?_)
  exact .cons (leadingZero_separated suffixed) (.cons (grouping_separated widths suffixed) .nil)

end Check

namespace Report
open Literal Check

variable {literal : Literal} {raw : Text}

/-- A literal with a glued suffix has one finding on that, and a separator before the suffix leaves the
number and clears just that finding. Any other literal has no such finding. -/
theorem ofToken_separated [Platform] (read : parse raw = .ok literal) :
    (∀ front suffix, IsGlued literal raw front suffix →
      (∀ widths place report, ofToken widths ⟨raw, place⟩ = .ok report →
        report.findings.countP (·.kind == .unseparatedSuffix) = 1) ∧
      ∃ apart, parse (front ++ separator :: suffix.text) = .ok apart ∧
        SameUpTo id literal apart ∧ apart.suffix = some ⟨suffix, true⟩ ∧
        ∀ widths place place', Cleared .unseparatedSuffix (Apart suffix)
          (ofToken widths ⟨raw, place⟩)
          (ofToken widths ⟨front ++ separator :: suffix.text, place'⟩)) ∧
    ((∀ front suffix, ¬ IsGlued literal raw front suffix) →
      ∀ widths place report, ofToken widths ⟨raw, place⟩ = .ok report →
        report.findings.countP (·.kind == .unseparatedSuffix) = 0) ∧
    ∀ widths place, (∃ report, ofToken widths ⟨raw, place⟩ = .ok report) ↔
      groupingOversize? widths literal = none := by
  refine ⟨?_, ?_, fun widths place => exists_ofToken_iff read place⟩
  · intro front suffix glued
    obtain ⟨suffixed, rfl⟩ := (isGlued_iff read).mp glued
    have again := parse_separated read suffixed
    rw [raw_separated suffixed] at again
    refine ⟨fun widths place report reported => ?_, literal.separated, again,
      sameUpTo_separated literal, by simp [separated, suffixed], fun widths place place' => ?_⟩
    · rw [countP_findings read reported, countP_kind suffixSeparation_gives,
        if_pos (suffixSeparation_of_glued suffixed)]
    · exact cleared_of_verdicts read again (sameUpTo_separated literal)
        (verdicts_separated widths suffixed) place place'
  · intro unglued widths place report reported
    have silent : suffixSeparation literal = none := by
      unfold suffixSeparation
      split
      · rename_i suffix suffixed
        exact absurd ((isGlued_iff read).mpr ⟨suffixed, rfl⟩) (unglued _ suffix)
      · rfl
    rw [countP_findings read reported, countP_kind suffixSeparation_gives, silent]
    rfl

/-- A hexadecimal number with uneven groups and an unknown tail in front of the suffix. -/
theorem ofToken_separated_tailed :
    ∃ literal, parse ['0', 'x', '1', '_', '2', 'g', 'u', '8'] = .ok literal ∧
      IsGlued literal ['0', 'x', '1', '_', '2', 'g', 'u', '8'] ['0', 'x', '1', '_', '2', 'g'] .u8 ∧
      (∃ report, ofToken .default ⟨['0', 'x', '1', '_', '2', 'g', 'u', '8'], Span.ofText []⟩ =
          .ok report ∧
        report.findings.countP (·.kind == .unseparatedSuffix) = 1) ∧
      ∃ apart, parse ['0', 'x', '1', '_', '2', 'g', '_', 'u', '8'] = .ok apart ∧
        SameUpTo id literal apart ∧ apart.suffix = some ⟨.u8, true⟩ := by
  have read : ∃ literal, parse ['0', 'x', '1', '_', '2', 'g', 'u', '8'] = .ok literal ∧
      literal.suffix = some ⟨.u8, false⟩ ∧ groupingOversize? .default literal = none :=
    ⟨_, rfl, rfl, by decide +kernel⟩
  obtain ⟨literal, read, suffixed, fits⟩ := read
  have glued : IsGlued literal ['0', 'x', '1', '_', '2', 'g', 'u', '8'] ['0', 'x', '1', '_', '2', 'g']
      .u8 := ⟨by rw [suffixed]; rfl, rfl, by decide⟩
  obtain ⟨each, -, given⟩ := ofToken_separated read
  obtain ⟨once, apart, again, same, separated, -⟩ := each _ _ glued
  obtain ⟨report, reported⟩ := (given .default (Span.ofText [])).mpr fits
  exact ⟨literal, read, glued, ⟨report, reported, once _ _ report reported⟩, apart, again, same,
    separated⟩

end Report
end NumeralStyle
