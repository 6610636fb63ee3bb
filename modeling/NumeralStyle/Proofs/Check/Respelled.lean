import Mathlib.Data.List.Forall2
import NumeralStyle.Proofs.Check.Following
import NumeralStyle.Proofs.Literal.Reassembly

/-! Two spellings of a number. A change of spelling that only follows the advice of one kind leaves all
that is read but the characters that change (`SameUpTo`), and all other findings (`Report.Cleared`).
The findings are compared check by check (`Report.cleared_of_verdicts`). -/
namespace NumeralStyle

/-- Two literals that differ in the characters of their numbers only, and in whether a separator stands
before the suffix. -/
structure Literal.SameUpTo (change : Char → Char) (before after : Literal) : Prop where
  radix : after.radix = before.radix
  kind : after.kind = before.kind
  suffix : after.suffix.map (·.suffix) = before.suffix.map (·.suffix)
  rawGroups : after.rawGroups = before.rawGroups.map (List.map change)
  digitRun : after.digitRun = before.digitRun.map change
  integerGroups : after.integerGroups = before.integerGroups.map (List.map change)
  digits : after.digits = before.digits.map change
  fraction : after.fraction = before.fraction.map change
  exponent : after.exponentPart = before.exponentPart.map change
  tail : after.unrecognizedSuffix = before.unrecognizedSuffix.map (List.map change)

/-- Advice on two spellings that is the same but for what is suggested, and there differs as the
spellings do. -/
structure Advice.Respelled (change : Text → Text → Prop) (before after : Advice) : Prop where
  kind : after.kind = before.kind
  message : after.message = before.message
  suggestions : List.Forall₂ change before.suggestions after.suggestions
  help : after.help = before.help

/-- What comes of a literal once the advice of one kind has been followed: the findings of other kinds
are there as before and in the same order, or there is no report, for the reason there was before. -/
inductive Report.Cleared (kind : FindingKind) (change : Text → Text → Prop) :
    Except ReportFault Report → Except ReportFault Report → Prop
  | oversize (reason : Oversize) :
      Cleared kind change (.error (.oversize reason)) (.error (.oversize reason))
  | reported {before after : Report} :
      List.Forall₂ (Advice.Respelled change)
        ((before.findings.map (·.toAdvice)).filter (·.kind != kind))
        (after.findings.map (·.toAdvice)) →
      Cleared kind change (.ok before) (.ok after)

namespace Check
open Literal

variable {widths : Widths} {literal other : Literal} {recase : Char → Char}
  {change : Text → Text → Prop}

/-- Advice that suggests nothing is the same for every spelling. -/
theorem respelled_self {advice : Advice} (none : advice.suggestions = []) :
    advice.Respelled change advice :=
  ⟨rfl, rfl, by rw [none]; exact .nil, rfl⟩

/-- A check that suggests nothing, and says the same of both spellings. -/
theorem rel_self {verdict : Option Advice}
    (none : ∀ advice, verdict = some advice → advice.suggestions = []) :
    Option.Rel (Advice.Respelled change) verdict verdict := by
  cases verdict with
  | none => exact .none
  | some advice => exact .some (respelled_self (none advice rfl))

/-- Leaving out one kind of advice changes nothing for a check that gives another kind. -/
theorem filter_other {verdict : Option Advice} {kind left : FindingKind}
    (speaks : ∀ advice, verdict = some advice → advice.kind = kind) (apart : kind ≠ left) :
    verdict.filter (·.kind != left) = verdict := by
  refine filter_kept fun advice found => ?_
  rw [speaks advice found]
  exact bne_iff_ne.mpr apart

theorem filter_same {verdict : Option Advice} {kind : FindingKind}
    (speaks : ∀ advice, verdict = some advice → advice.kind = kind) :
    verdict.filter (·.kind != kind) = none := by
  refine filter_dropped fun advice found => ?_
  rw [speaks advice found, bne_self_eq_false]

/-- Advice on the groups is of one of two kinds. -/
theorem filter_grouping_other {left : FindingKind} (large : left ≠ .largeGroups)
    (inconsistent : left ≠ .inconsistentGroups) :
    (grouping widths literal).filter (·.kind != left) = grouping widths literal := by
  refine filter_kept fun advice found => bne_iff_ne.mpr ?_
  rcases groupingKind_eq_some (grouping_eq_some found).1 with same | same
  · rw [same]
    exact large.symm
  · rw [same]
    exact inconsistent.symm

/-- What the checks say one by one, they say together. -/
theorem forall₂_advice {verdicts others : List (Option Advice)} {test : Advice → Bool}
    (each : List.Forall₂ (Option.Rel (Advice.Respelled change))
      (verdicts.map (Option.filter test)) others) :
    List.Forall₂ (Advice.Respelled change) ((verdicts.filterMap id).filter test)
      (others.filterMap id) := by
  induction verdicts generalizing others with
  | nil =>
    cases each
    exact .nil
  | cons verdict verdicts ih =>
    obtain ⟨after, rest, first, behind, rfl⟩ := List.forall₂_cons_left_iff.mp each
    have rest := ih behind
    cases verdict with
    | none =>
      cases first
      exact rest
    | some advice =>
      cases passes : test advice with
      | false =>
        rw [Option.filter_some_neg passes] at first
        cases first
        simpa [passes] using rest
      | true =>
        rw [Option.filter_some_pos passes] at first
        cases first with
        | some same => simpa [passes] using List.Forall₂.cons same rest

/-! ## The groups -/

/-- Where there are several groups, there is a separator. -/
theorem hasSeparators_of_integerGroups {leading : Text} {others : List Text}
    (several : others ≠ []) (cut : literal.integerGroups = leading :: others) :
    literal.hasSeparators = true := by
  have inside : separator ∈ literal.integerPart := by
    apply Classical.byContradiction
    intro clean
    rw [integerGroups, groups, Text.stretches_of_not_mem clean] at cut
    have one := congrArg List.length cut
    have few := List.length_filter_le (!·.isEmpty) [literal.integerPart]
    have many := List.length_pos_iff.mpr several
    simp only [List.length_cons, List.length_nil] at one few
    omega
  have within : separator ∈ literal.body := by
    rw [← parts_eq_body, List.append_assoc]
    exact List.mem_append_left _ inside
  rw [hasSeparators, List.contains_iff_mem.mpr within, Bool.or_true]

/-- The verdict on groups does not depend on what the digits are. That there is a separator, which a
spelling can get without another group, is said by the groups where it counts. -/
theorem groupingKind_of_sameUpTo (same : SameUpTo recase literal other) :
    groupingKind widths other = groupingKind widths literal := by
  unfold groupingKind
  rw [same.integerGroups]
  cases cut : literal.integerGroups with
  | nil => rfl
  | cons leading groups =>
    by_cases several : groups = []
    · simp [several]
    · have before := hasSeparators_of_integerGroups several cut
      have many : groups.map (List.map recase) ≠ [] := by simpa using several
      have after : other.hasSeparators = true :=
        hasSeparators_of_integerGroups many (by rw [same.integerGroups, cut, List.map_cons])
      simp only [List.map_cons, before, after, same.radix, classify_map, List.isEmpty_map]

theorem groupingOversize?_of_sameUpTo [Platform] (same : SameUpTo recase literal other) :
    groupingOversize? widths literal = groupingOversize? widths other := by
  have many : other.digits.length = literal.digits.length := by rw [same.digits, List.length_map]
  simp only [groupingOversize?, groupingKind_of_sameUpTo same, same.radix, paddingOversize?, many]

/-- Advice on the groups is the same but for the spelling that it suggests. -/
theorem grouping_respelled (same : SameUpTo recase literal other)
    (spelled : change (literal.regrouped widths).raw (other.regrouped widths).raw) :
    Option.Rel (Advice.Respelled change) (grouping widths literal) (grouping widths other) := by
  unfold grouping
  rw [groupingKind_of_sameUpTo same]
  cases groupingKind widths literal with
  | none => exact .none
  | some kind =>
    refine .some ⟨rfl, ?_, .cons spelled .nil, ?_⟩
    · simp only [same.kind]
    · simp only [same.radix]

end Check

namespace Report
open Literal Check

variable {widths : Widths} {literal other : Literal} {kind : FindingKind} {recase : Char → Char}
  {change : Text → Text → Prop} {raw respelled : Text}

/-- Whether there is a report on a literal is up to the advice on its groups alone. -/
theorem ofToken_of_parse [Platform] (read : parse raw = .ok literal) (place : Span) :
    ofToken widths ⟨raw, place⟩ =
      match groupingOversize? widths literal with
      | some reason => .error (.oversize reason)
      | none => .ok ⟨literal, place, (literal.advice widths).map (·.at place)⟩ := by
  cases oversize : groupingOversize? widths literal <;> simp only [ofToken, read, oversize]

theorem exists_ofToken_iff [Platform] (read : parse raw = .ok literal) (place : Span) :
    (∃ report, ofToken widths ⟨raw, place⟩ = .ok report) ↔
      groupingOversize? widths literal = none := by
  rw [ofToken_of_parse read]
  cases groupingOversize? widths literal <;> simp

theorem countP_findings [Platform] (read : parse raw = .ok literal) {place : Span} {report : Report}
    (reported : ofToken widths ⟨raw, place⟩ = .ok report) (kind : FindingKind) :
    report.findings.countP (·.kind == kind) = (literal.advice widths).countP (·.kind == kind) := by
  obtain ⟨again, -, -, findings⟩ := ofToken_eq_ok_iff.mp reported
  obtain rfl : literal = report.literal := Except.ok.inj (read.symm.trans again)
  rw [findings, List.countP_map]
  rfl

/-- Spellings of the same number on which the checks agree but for one kind of finding. -/
theorem cleared_of_verdicts [Platform]
    (read : parse raw = .ok literal) (again : parse respelled = .ok other)
    (same : SameUpTo recase literal other)
    (each : List.Forall₂ (Option.Rel (Advice.Respelled change))
      ((literal.verdicts widths).map (Option.filter (·.kind != kind))) (other.verdicts widths))
    (place place' : Span) :
    Cleared kind change (ofToken widths ⟨raw, place⟩) (ofToken widths ⟨respelled, place'⟩) := by
  rw [ofToken_of_parse read, ofToken_of_parse again, ← groupingOversize?_of_sameUpTo same]
  cases groupingOversize? widths literal with
  | some reason => exact .oversize reason
  | none =>
    apply Cleared.reported
    rw [map_toAdvice_at, map_toAdvice_at]
    exact forall₂_advice each

end Report
end NumeralStyle
