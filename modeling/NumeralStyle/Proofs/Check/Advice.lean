import Mathlib.Data.List.Nodup
import NumeralStyle.Report

/-! What each check looks at and what it says. Advice tells by its kind which check it is from, only
leading zeros and groups come with suggestions, and literals that agree on what a check looks at get
the same advice from it. -/
namespace NumeralStyle.Check

variable {widths : Widths} {literal other : Literal} {advice : Advice}

/-- The hexadecimal letters among the digits of a literal. -/
def letterDigits (literal : Literal) : Text := literal.digitRun.filter CharClass.isHexLetter

/-- Whether leading zeros of a literal are minded. -/
structure HasLeadingZero (literal : Literal) : Prop where
  radix : literal.radix = .decimal
  kind : literal.kind = .integer
  zero : isZeroPrefixed literal.digits = true

/-! ## What a check says -/

theorem casing_eq_some (found : casing literal = some advice) :
    literal.radix = .hex ∧ advice.kind = .mixedCaseHex ∧ advice.suggestions = [] := by
  simp only [casing] at found
  split at found
  · rename_i mixed
    cases found
    exact ⟨mixed.1, rfl, rfl⟩
  · cases found

theorem suffixSeparation_eq_some (found : suffixSeparation literal = some advice) :
    advice.kind = .unseparatedSuffix ∧ advice.suggestions = [] := by
  unfold suffixSeparation at found
  split at found <;> cases found
  exact ⟨rfl, rfl⟩

theorem leadingZero_eq_none (clean : ¬ HasLeadingZero literal) : leadingZero literal = none := by
  unfold leadingZero
  rw [if_neg]
  rintro ⟨radix, kind, zero⟩
  exact clean ⟨radix, kind, zero⟩

/-- Leading zeros get the decimal reading suggested, and the octal one if it is one. -/
theorem leadingZero_eq_some (found : leadingZero literal = some advice) :
    HasLeadingZero literal ∧ advice.kind = .zeroPrefixed ∧
      advice.suggestions =
        (literal.digits.dropWhile (· == '0') ++ literal.suffixText) ::
          if literal.digits.any fun c => c == '8' || c == '9' then []
          else [Radix.octal.lead ++ (literal.digits.dropWhile (· == '0') ++ literal.suffixText)] := by
  unfold leadingZero at found
  split at found
  · rename_i due
    cases found
    exact ⟨⟨due.1, due.2.1, due.2.2⟩, rfl, rfl⟩
  · cases found

theorem grouping_eq_some (found : grouping widths literal = some advice) :
    groupingKind widths literal = some advice.kind ∧
      advice.suggestions =
        [literal.radix.lead ++
          regroup (widths.of literal.radix) (literal.radix != .decimal) literal.digits ++
          literal.fraction ++ literal.exponentPart ++ literal.suffixText] := by
  obtain ⟨kind, due, rfl⟩ := Option.map_eq_some_iff.mp found
  exact ⟨due, rfl⟩

theorem grouping_eq_none (clean : groupingKind widths literal = none) :
    grouping widths literal = none := by
  simp [grouping, clean]

/-- A verdict on groups is about their sizes. -/
theorem classify_eq_some {width : Int} {leading : Text} {groups : List Text} {kind : FindingKind}
    (minded : classify width leading groups = some kind) :
    kind = .largeGroups ∨ kind = .inconsistentGroups := by
  unfold classify at minded
  dsimp only at minded
  (repeat' split at minded) <;> cases minded <;> simp

theorem groupingKind_eq_some {kind : FindingKind} (due : groupingKind widths literal = some kind) :
    kind = .largeGroups ∨ kind = .inconsistentGroups := by
  unfold groupingKind at due
  split at due
  · split at due
    · exact classify_eq_some due
    · cases due
  · cases due

theorem mem_advice_iff :
    advice ∈ literal.advice widths ↔
      casing literal = some advice ∨ suffixSeparation literal = some advice ∨
        leadingZero literal = some advice ∨ grouping widths literal = some advice := by
  simp [Literal.advice, Literal.verdicts, eq_comm]

/-- Each check says what there is to say of the kind of its advice. -/
theorem message_of_mem (given : advice ∈ literal.advice widths) :
    advice.message = advice.kind.message literal.kind.name := by
  rcases mem_advice_iff.mp given with found | found | found | found
  · simp only [casing] at found
    split at found <;> cases found
    rfl
  · unfold suffixSeparation at found
    split at found <;> cases found
    rfl
  · unfold leadingZero at found
    split at found <;> cases found
    rfl
  · obtain ⟨kind, -, rfl⟩ := Option.map_eq_some_iff.mp found
    rfl

/-! ## Who speaks, and how often -/

theorem advice_eq (literal : Literal) :
    literal.advice widths = (casing literal).toList ++ ((suffixSeparation literal).toList ++
      ((leadingZero literal).toList ++ (grouping widths literal).toList)) := by
  unfold Literal.advice Literal.verdicts
  cases casing literal <;> cases suffixSeparation literal <;> cases leadingZero literal <;>
    cases grouping widths literal <;> rfl

theorem kinds_toList {verdict : Option Advice} {kind : FindingKind}
    (speaks : ∀ advice, verdict = some advice → advice.kind = kind) :
    (verdict.toList.map (·.kind)).Sublist [kind] := by
  cases verdict with
  | none => exact List.nil_sublist [kind]
  | some advice =>
    rw [Option.toList_some, List.map_singleton, speaks advice rfl]

/-- No two pieces of advice on a literal are of one kind. -/
theorem nodup_kinds (widths : Widths) (literal : Literal) :
    ((literal.advice widths).map (·.kind)).Nodup := by
  obtain ⟨sizes, either, speaks⟩ : ∃ sizes, (sizes = .largeGroups ∨ sizes = .inconsistentGroups) ∧
      ∀ advice, grouping widths literal = some advice → advice.kind = sizes := by
    cases found : grouping widths literal with
    | none => exact ⟨.largeGroups, .inl rfl, by simp⟩
    | some advice =>
      exact ⟨advice.kind, groupingKind_eq_some (grouping_eq_some found).1, by simp⟩
  have distinct : [.mixedCaseHex, .unseparatedSuffix, .zeroPrefixed, sizes].Nodup := by
    rcases either with rfl | rfl <;> decide
  refine List.Nodup.sublist ?_ distinct
  rw [advice_eq, List.map_append, List.map_append, List.map_append]
  exact (kinds_toList fun _ found => (casing_eq_some found).2.1).append
    ((kinds_toList fun _ found => (suffixSeparation_eq_some found).1).append
      ((kinds_toList fun _ found => (leadingZero_eq_some found).2.1).append (kinds_toList speaks)))

theorem countP_kind_of_mem (given : advice ∈ literal.advice widths) :
    (literal.advice widths).countP (·.kind == advice.kind) = 1 := by
  have once := List.count_eq_one_of_mem (nodup_kinds widths literal)
    (List.mem_map_of_mem given)
  rwa [List.count, List.countP_map] at once

/-- Advice of a kind that one check alone gives is there once, or not at all. -/
theorem countP_kind {verdict : Option Advice} {kind : FindingKind}
    (gives : ∀ advice, verdict = some advice ↔ advice ∈ literal.advice widths ∧ advice.kind = kind) :
    (literal.advice widths).countP (·.kind == kind) = if verdict.isSome then 1 else 0 := by
  cases found : verdict with
  | some advice =>
    obtain ⟨given, rfl⟩ := (gives advice).mp found
    exact countP_kind_of_mem given
  | none =>
    refine List.countP_eq_zero.mpr fun advice given same => ?_
    have spoken := (gives advice).mpr ⟨given, beq_iff_eq.mp same⟩
    rw [found] at spoken
    cases spoken

/-- Each kind of advice but that on groups is from one check. -/
theorem eq_some_of_mem_advice (given : advice ∈ literal.advice widths) :
    (advice.kind = .mixedCaseHex → casing literal = some advice) ∧
    (advice.kind = .unseparatedSuffix → suffixSeparation literal = some advice) ∧
    (advice.kind = .zeroPrefixed → leadingZero literal = some advice) := by
  rcases mem_advice_iff.mp given with found | found | found | found
  · simp [(casing_eq_some found).2.1, found]
  · simp [(suffixSeparation_eq_some found).1, found]
  · simp [(leadingZero_eq_some found).2.1, found]
  · rcases groupingKind_eq_some (grouping_eq_some found).1 with large | inconsistent
    · simp [large]
    · simp [inconsistent]

theorem casing_gives (advice : Advice) :
    casing literal = some advice ↔
      advice ∈ literal.advice widths ∧ advice.kind = .mixedCaseHex := by
  constructor
  · intro found
    exact ⟨mem_advice_iff.mpr (.inl found), (casing_eq_some found).2.1⟩
  · rintro ⟨given, kind⟩
    exact (eq_some_of_mem_advice given).1 kind

theorem suffixSeparation_gives (advice : Advice) :
    suffixSeparation literal = some advice ↔
      advice ∈ literal.advice widths ∧ advice.kind = .unseparatedSuffix := by
  constructor
  · intro found
    exact ⟨mem_advice_iff.mpr (.inr (.inl found)), (suffixSeparation_eq_some found).1⟩
  · rintro ⟨given, kind⟩
    exact (eq_some_of_mem_advice given).2.1 kind

theorem leadingZero_gives (advice : Advice) :
    leadingZero literal = some advice ↔
      advice ∈ literal.advice widths ∧ advice.kind = .zeroPrefixed := by
  constructor
  · intro found
    exact ⟨mem_advice_iff.mpr (.inr (.inr (.inl found))), (leadingZero_eq_some found).2.1⟩
  · rintro ⟨given, kind⟩
    exact (eq_some_of_mem_advice given).2.2 kind

/-! ## What a check looks at -/

theorem casing_congr (radix : literal.radix = other.radix)
    (letters : letterDigits literal = letterDigits other) : casing literal = casing other := by
  unfold letterDigits at letters
  simp only [casing, radix, letters, FindingKind.message]

theorem casing_eq_none (radix : literal.radix ≠ .hex) : casing literal = none := by
  simp [casing, radix]

theorem suffixSeparation_congr (suffix : literal.suffix = other.suffix)
    (kind : literal.kind = other.kind) : suffixSeparation literal = suffixSeparation other := by
  simp only [suffixSeparation, suffix, kind]

theorem leadingZero_congr (radix : literal.radix = other.radix) (kind : literal.kind = other.kind)
    (digits : literal.digits = other.digits) (suffix : literal.suffix = other.suffix) :
    leadingZero literal = leadingZero other := by
  simp only [leadingZero, radix, kind, digits, Literal.suffixText, suffix]

end NumeralStyle.Check
