import NumeralStyle.Proofs.Check.Following
import NumeralStyle.Proofs.Literal.Value

/-! What the suggestion about groups spells. It is read back as a literal that means the same and has
canonical groups, and the check of groups says nothing about that (`grouping_suggestion`). Its digits
are the ones there were; behind the lead of a base there may be zeros in front of them, as many as the
first group needs to be full. -/
namespace NumeralStyle.Check
open Literal

/-- Digits with the zeros that fill their first group: none where no lead names the base. -/
inductive Padded (width : Nat) (digits : Text) : Radix → Text → Prop
  | decimal : Padded width digits .decimal digits
  | prefixed {radix : Radix} {zeros : Nat} : radix ≠ .decimal → zeros < width →
      width ∣ (List.replicate zeros '0' ++ digits).length →
      Padded width digits radix (List.replicate zeros '0' ++ digits)

/-- Groups in the form of the style. All but the first have the full width; the first has no more, and
just that behind the lead of a base. -/
def IsCanonical (width : Nat) (radix : Radix) : List Text → Prop
  | [] => False
  | leading :: others =>
    1 ≤ leading.length ∧ leading.length ≤ width ∧ (radix ≠ .decimal → leading.length = width) ∧
      ∀ group ∈ others, group.length = width

/-- A literal that means what another one means, in canonical groups. -/
structure Regrouped (width : Nat) (literal fixed : Literal) : Prop where
  radix : fixed.radix = literal.radix
  kind : fixed.kind = literal.kind
  /-- The suffix is the same, and so is whether it is separated. -/
  suffix : fixed.suffix = literal.suffix
  fraction : fixed.fraction = literal.fraction
  exponent : fixed.exponentPart = literal.exponentPart
  known : fixed.unrecognizedSuffix = none
  digits : Padded width literal.digits literal.radix fixed.digits
  value : fixed.valueIn literal.radix = literal.valueIn literal.radix
  groups : IsCanonical width literal.radix fixed.integerGroups

variable {widths : Widths} {width : Nat} {literal : Literal} {advice : Advice} {raw : Text}

/-! ## Filled digits -/

theorem padded_filled (positive : 0 < width) (radix : Radix) (digits : Text) :
    Padded width digits radix (filled width (radix != .decimal) digits) := by
  by_cases base : radix = .decimal
  · rw [base]
    exact .decimal
  · obtain ⟨zeros, few, spelled, whole⟩ := exists_padded positive digits
    have pad : filled width (radix != .decimal) digits = List.replicate zeros '0' ++ digits := by
      rw [filled, if_pos (by simpa using base), spelled]
    rw [spelled] at whole
    rw [pad]
    exact .prefixed base few whole

theorem Padded.ofDigits_eq {digits after : Text} {radix : Radix}
    (padded : Padded width digits radix after) (base : Nat) :
    Toml.ofDigits base after = Toml.ofDigits base digits := by
  cases padded with
  | decimal => rfl
  | prefixed _ _ _ => exact Toml.ofDigits_zeros_append base _ digits

theorem Padded.ne_nil {digits after : Text} {radix : Radix}
    (padded : Padded width digits radix after) (some : digits ≠ []) : after ≠ [] := by
  cases padded with
  | decimal => exact some
  | prefixed _ _ _ => exact List.append_ne_nil_of_right_ne_nil _ some

theorem isCanonical_canonicalGroups (positive : 0 < width) {digits after : Text} {radix : Radix}
    (padded : Padded width digits radix after) (some : digits ≠ []) :
    IsCanonical width radix (canonicalGroups width after) := by
  cases same : canonicalGroups width after with
  | nil =>
    have whole := flatten_canonicalGroups positive after
    rw [same] at whole
    exact padded.ne_nil some whole.symm
  | cons leading others =>
    have first : leading ∈ canonicalGroups width after := by simp [same]
    obtain ⟨short, full⟩ := canonicalGroups_lengths positive same
    refine ⟨?_, short, ?_, full⟩
    · exact List.length_pos_iff.mpr (ne_nil_of_mem_canonicalGroups positive first)
    · intro base
      cases padded with
      | decimal => exact absurd rfl base
      | prefixed _ _ whole => exact length_of_mem_canonicalGroups whole first

/-! ## The regrouped literal -/

theorem regrouped_regrouped (widths : Widths) (valid : literal.toPieces.Valid literal.radix)
    (ends : literal.tail = []) :
    Regrouped (widths.of literal.radix) literal (literal.regrouped widths) := by
  have positive := widths_of_pos widths literal.radix
  have part : (literal.regrouped widths).integerPart = (literal.regrouped widths).whole :=
    integerPart_eq ends
  have padded : Padded (widths.of literal.radix) literal.digits literal.radix
      (literal.regrouped widths).digits := by
    rw [digits_regrouped ends]
    exact padded_filled positive literal.radix literal.digits
  have groups : (literal.regrouped widths).integerGroups =
      canonicalGroups (widths.of literal.radix) (literal.filledDigits widths) :=
    integerGroups_of_regroup (separator_not_mem_digits literal) part
  exact {
    radix := rfl
    kind := rfl
    suffix := rfl
    fraction := rfl
    exponent := rfl
    known := unrecognizedSuffix_eq_none_iff.mpr ends
    digits := padded
    value := padded.ofDigits_eq _
    groups := by
      rw [groups, ← digits_regrouped ends]
      exact isCanonical_canonicalGroups positive padded (digits_ne_nil valid) }

/-- The suggestion about the groups of a literal is read back as the literal in canonical groups, and
nothing is said about the groups of that. -/
theorem grouping_suggestion [Platform] (read : parse raw = .ok literal)
    (known : literal.unrecognizedSuffix = none) (found : grouping widths literal = some advice) :
    ∃ spelling fixed, advice.suggestions = [spelling] ∧ parse spelling = .ok fixed ∧
      Regrouped (widths.of literal.radix) literal fixed ∧
      grouping widths fixed = none ∧ groupingOversize? widths fixed = none := by
  have ends := unrecognizedSuffix_eq_none_iff.mp known
  obtain ⟨-, suggestions⟩ := grouping_eq_some found
  have unminded : groupingKind widths (literal.regrouped widths) = none :=
    groupingKind_regrouped (integerPart_eq ends)
  refine ⟨_, literal.regrouped widths, suggestions, ?_, ?_, grouping_eq_none unminded, ?_⟩
  · have same := raw_of_parse read
    rw [← same] at read
    exact parse_regrouped read ends
  · exact regrouped_regrouped widths (valid_of_parse read) ends
  · rw [groupingOversize?, unminded, Option.bind_none]

/-- Uneven groups with a lead and a suffix. The first group is filled up with zeros, the lead and the
suffix stay. -/
theorem grouping_suggestion_suffixed :
    ∃ literal advice, parse ['0', 'x', '1', '_', '2', '3', '4', '5', '6', 'u', '8'] = .ok literal ∧
      literal.unrecognizedSuffix = none ∧ grouping .default literal = some advice ∧
      ∃ fixed, parse ['0', 'x', '0', '0', '1', '2', '_', '3', '4', '5', '6', 'u', '8'] = .ok fixed ∧
        Regrouped 4 literal fixed ∧ grouping .default fixed = none := by
  have reported : ∃ literal,
      parse ['0', 'x', '1', '_', '2', '3', '4', '5', '6', 'u', '8'] = .ok literal ∧
      literal.unrecognizedSuffix = none ∧ literal.radix = .hex ∧
      (grouping .default literal).map (·.suggestions) =
        some [['0', 'x', '0', '0', '1', '2', '_', '3', '4', '5', '6', 'u', '8']] :=
    ⟨_, rfl, rfl, rfl, by decide +kernel⟩
  obtain ⟨literal, read, known, radix, minded⟩ := reported
  obtain ⟨advice, found, suggestions⟩ := Option.map_eq_some_iff.mp minded
  obtain ⟨spelling, fixed, alone, again, regrouped, unminded, -⟩ :=
    grouping_suggestion read known found
  obtain ⟨rfl, -⟩ := List.cons.inj (alone.symm.trans suggestions)
  rw [radix] at regrouped
  exact ⟨literal, advice, read, known, found, fixed, again, regrouped, unminded⟩

end NumeralStyle.Check
