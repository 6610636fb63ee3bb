import NumeralStyle.Proofs.Check.Advice
import NumeralStyle.Proofs.Literal.Unseparated

/-! Where separators stand. Two spellings that are the same without their separators are literals of the
same number and type. The checks say the same of both, but for their groups, as long as the suffix stands
apart in both or in neither; and where the groups of both are minded, the suggestions differ in nothing but
the separators of the fraction and the exponent (`parse_agrees`). -/
namespace NumeralStyle.Literal
open Text

variable {literal twin : Literal} {raw other : Text}

theorem IsFraction.isEmpty_withoutSeparators {fraction : Text} (valid : IsFraction fraction) :
    (NumeralStyle.withoutSeparators fraction).isEmpty = fraction.isEmpty := by
  cases valid with
  | none => rfl
  | point run => rfl

theorem IsExponent.isEmpty_withoutSeparators {exponent : Text} (valid : IsExponent exponent) :
    (NumeralStyle.withoutSeparators exponent).isEmpty = exponent.isEmpty := by
  cases valid with
  | none => rfl
  | marked marks => rcases marks with rfl | rfl <;> rfl

/-! ## What the separators do not change -/

theorem kind_unseparated (valid : literal.toPieces.Valid literal.radix) :
    literal.unseparated.kind = literal.kind := by
  have pointed : literal.unseparated.isPointed = literal.isPointed := by
    have fraction := valid.fraction.isEmpty_withoutSeparators
    have exponent := valid.exponent.isEmpty_withoutSeparators
    simp only [isPointed, unseparated, Pieces.unseparated, fraction, exponent]
  have float : literal.unseparated.suffix.any (·.suffix.isFloat) =
      literal.suffix.any (·.suffix.isFloat) := by
    cases suffixed : literal.suffix <;> simp [unseparated, suffixed]
  simp only [kind, pointed, float]

theorem radix_unseparated (literal : Literal) : literal.unseparated.radix = literal.radix := rfl

theorem withoutSeparators_idem (text : Text) :
    withoutSeparators (withoutSeparators text) = withoutSeparators text :=
  withoutSeparators_of_not_mem (separator_not_mem_withoutSeparators text)

theorem digitRun_unseparated (literal : Literal) :
    literal.unseparated.digitRun = literal.digitRun := by
  rw [digitRun_eq, digitRun_eq, body_unseparated, withoutSeparators_idem]

theorem digits_unseparated (ends : literal.tail = []) :
    literal.unseparated.digits = literal.digits := by
  have ends' : literal.unseparated.tail = [] := by
    change withoutSeparators literal.tail = []
    rw [ends]
    rfl
  rw [digits_eq (integerPart_eq ends'), digits_eq (integerPart_eq ends)]
  exact withoutSeparators_idem literal.whole

theorem suffix_unseparated (literal : Literal) :
    literal.unseparated.suffix.map (·.suffix) = literal.suffix.map (·.suffix) := by
  cases suffixed : literal.suffix <;> simp [unseparated, suffixed]

/-- A suffix is known by its type and by whether it stands apart. -/
theorem suffix_ext (type : literal.suffix.map (·.suffix) = twin.suffix.map (·.suffix))
    (apart : literal.suffix.any (·.separated) = twin.suffix.any (·.separated)) :
    literal.suffix = twin.suffix := by
  cases first : literal.suffix with
  | none =>
    cases second : twin.suffix with
    | none => rfl
    | some written => simp [first, second] at type
  | some written =>
    cases second : twin.suffix with
    | none => simp [first, second] at type
    | some written' =>
      simp only [first, second, Option.map_some, Option.some.injEq, Option.any_some] at type apart
      obtain ⟨suffix, separated⟩ := written
      obtain ⟨suffix', separated'⟩ := written'
      simp_all

/-! ## Two spellings -/

/-- The separators of a spelling decide neither the number and its type nor, but for whether the suffix
stands apart, what is said of anything but the groups. The suggested groups are the same, too. -/
theorem parse_agrees (read : parse raw = .ok literal) (read' : parse other = .ok twin)
    (known : literal.unrecognizedSuffix = none) (known' : twin.unrecognizedSuffix = none)
    (same : withoutSeparators raw = withoutSeparators other) :
    literal.radix = twin.radix ∧ literal.kind = twin.kind ∧
      literal.suffix.map (·.suffix) = twin.suffix.map (·.suffix) ∧
      literal.digitRun = twin.digitRun ∧ literal.digits = twin.digits ∧
      (literal.suffix.any (·.separated) = twin.suffix.any (·.separated) →
        Check.casing literal = Check.casing twin ∧
        Check.suffixSeparation literal = Check.suffixSeparation twin ∧
        Check.leadingZero literal = Check.leadingZero twin ∧
        ∀ widths advice advice', Check.grouping widths literal = some advice →
          Check.grouping widths twin = some advice' →
          ∃ front back,
            advice.suggestions = [front ++ literal.fraction ++ literal.exponentPart ++ back] ∧
            advice'.suggestions = [front ++ twin.fraction ++ twin.exponentPart ++ back] ∧
            withoutSeparators literal.fraction = withoutSeparators twin.fraction ∧
            withoutSeparators literal.exponentPart = withoutSeparators twin.exponentPart) := by
  have ends := unrecognizedSuffix_eq_none_iff.mp known
  have ends' := unrecognizedSuffix_eq_none_iff.mp known'
  have bare : literal.unseparated = twin.unseparated := by
    have first := parse_withoutSeparators read ends
    rw [same, parse_withoutSeparators read' ends'] at first
    exact (Except.ok.inj first).symm
  have radix : literal.radix = twin.radix := by
    rw [← radix_unseparated, bare, radix_unseparated]
  have kind : literal.kind = twin.kind := by
    rw [← kind_unseparated (valid_of_parse read), bare, kind_unseparated (valid_of_parse read')]
  have type : literal.suffix.map (·.suffix) = twin.suffix.map (·.suffix) := by
    rw [← suffix_unseparated, bare, suffix_unseparated]
  have run : literal.digitRun = twin.digitRun := by
    rw [← digitRun_unseparated, bare, digitRun_unseparated]
  have digits : literal.digits = twin.digits := by
    rw [← digits_unseparated ends, bare, digits_unseparated ends']
  refine ⟨radix, kind, type, run, digits, fun apart => ?_⟩
  have suffix := suffix_ext type apart
  refine ⟨Check.casing_congr radix (congrArg (List.filter CharClass.isHexLetter) run),
    Check.suffixSeparation_congr suffix kind, Check.leadingZero_congr radix kind digits suffix, ?_⟩
  intro widths advice advice' minded minded'
  refine ⟨literal.radix.lead ++ Check.regroup (widths.of literal.radix) (literal.radix != .decimal)
    literal.digits, literal.suffixText, (Check.grouping_eq_some minded).2, ?_, ?_, ?_⟩
  · rw [(Check.grouping_eq_some minded').2, radix, digits, suffixText, suffixText, suffix]
  · exact congrArg (fun bare : Literal => bare.fraction) bare
  · rw [exponentPart_eq ends, exponentPart_eq ends']
    exact congrArg (fun bare : Literal => bare.exponent) bare

/-- Two spellings of a number whose groups are both minded, with separators around the point, the letter of
the exponent and the suffix. -/
theorem parse_agrees_grouped :
    ∃ literal twin advice advice',
      parse ['1', '_', '0', '0', '0', '0', '.', '5', '_', 'e', '1', '_', 'f', '3', '2'] = .ok literal ∧
      parse ['1', '0', '0', '0', '_', '0', '_', '.', '5', 'e', '_', '1', '_', '_', 'f', '3', '2'] =
        .ok twin ∧
      literal.kind = twin.kind ∧ Check.leadingZero literal = Check.leadingZero twin ∧
      Check.grouping .default literal = some advice ∧ Check.grouping .default twin = some advice' ∧
      ∃ front back,
        advice.suggestions = [front ++ literal.fraction ++ literal.exponentPart ++ back] ∧
        advice'.suggestions = [front ++ twin.fraction ++ twin.exponentPart ++ back] := by
  have reads : ∃ literal twin advice advice',
      parse ['1', '_', '0', '0', '0', '0', '.', '5', '_', 'e', '1', '_', 'f', '3', '2'] = .ok literal ∧
      parse ['1', '0', '0', '0', '_', '0', '_', '.', '5', 'e', '_', '1', '_', '_', 'f', '3', '2'] =
        .ok twin ∧
      literal.unrecognizedSuffix = none ∧ twin.unrecognizedSuffix = none ∧
      literal.suffix.any (·.separated) = twin.suffix.any (·.separated) ∧
      Check.grouping .default literal = some advice ∧ Check.grouping .default twin = some advice' :=
    ⟨_, _, _, _, rfl, rfl, rfl, rfl, rfl, rfl, rfl⟩
  obtain ⟨literal, twin, advice, advice', read, read', known, known', apart, minded, minded'⟩ := reads
  obtain ⟨-, kind, -, -, -, checks⟩ := parse_agrees read read' known known' (by decide)
  obtain ⟨-, -, zeros, groups⟩ := checks apart
  obtain ⟨front, back, first, second, -⟩ := groups .default advice advice' minded minded'
  exact ⟨literal, twin, advice, advice', read, read', kind, zeros, minded, minded', front, back,
    first, second⟩

end NumeralStyle.Literal
