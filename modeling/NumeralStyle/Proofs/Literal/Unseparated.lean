import NumeralStyle.Proofs.Literal.Known

/-! Literals without their separators. A literal that is read throughout is still read throughout once all
separators are taken out of its spelling, and its pieces are then those that it had, without theirs
(`parse_withoutSeparators`). So the places of the separators decide nothing but the groups and whether the
suffix stands apart. -/
namespace NumeralStyle
open Text

theorem withoutSeparators_append (first second : Text) :
    withoutSeparators (first ++ second) = withoutSeparators first ++ withoutSeparators second :=
  List.filter_append ..

theorem withoutSeparators_of_not_mem {text : Text} (none : separator ∉ text) :
    withoutSeparators text = text := by
  refine List.filter_eq_self.mpr fun c member => bne_iff_ne.mpr ?_
  rintro rfl
  exact none member

theorem withoutSeparators_replicate (count : Nat) :
    withoutSeparators (List.replicate count separator) = [] := by
  refine List.filter_eq_nil_iff.mpr fun c member => ?_
  simp [List.eq_of_mem_replicate member]

theorem separator_not_mem_withoutSeparators (text : Text) : separator ∉ withoutSeparators text := by
  simp [withoutSeparators]

/-- A character that is no separator stays. -/
theorem mem_withoutSeparators {text : Text} {c : Char} (member : c ∈ text) (other : c ≠ separator) :
    c ∈ withoutSeparators text :=
  List.mem_filter.mpr ⟨member, bne_iff_ne.mpr other⟩

namespace Radix

theorem separator_not_mem_lead (radix : Radix) : separator ∉ radix.lead := by
  cases radix <;> decide

end Radix

namespace Suffix

theorem separator_not_mem_text (suffix : Suffix) : separator ∉ suffix.text := by
  cases suffix <;> decide

end Suffix

namespace Literal

/-! ## Pieces -/

theorem IsRun.withoutSeparators {radix : Radix} {run : Text} (inside : IsRun radix run) :
    IsRun radix (withoutSeparators run) :=
  fun c member => inside c (List.mem_filter.mp member).1

theorem ne_separator_of_isDigit {radix : Radix} {c : Char} (digit : radix.isDigit c = true) :
    c ≠ separator := by
  rintro rfl
  rw [not_isDigit_separator] at digit
  cases digit

theorem exists_digit_withoutSeparators {radix : Radix} {run : Text}
    (digit : ∃ c ∈ run, radix.isDigit c = true) :
    ∃ c ∈ NumeralStyle.withoutSeparators run, radix.isDigit c = true := by
  obtain ⟨c, member, isDigit⟩ := digit
  exact ⟨c, mem_withoutSeparators member (ne_separator_of_isDigit isDigit), isDigit⟩

theorem IsFraction.withoutSeparators {fraction : Text} (valid : IsFraction fraction) :
    IsFraction (withoutSeparators fraction) := by
  cases valid with
  | none => exact .none
  | point run => exact .point run.withoutSeparators

theorem IsExponent.withoutSeparators {exponent : Text} (valid : IsExponent exponent) :
    IsExponent (withoutSeparators exponent) := by
  cases valid with
  | none => exact .none
  | @marked letter sign run marks signs inside digit =>
    have front : separator ∉ letter :: sign := by
      rcases marks with rfl | rfl <;> rcases signs with rfl | rfl | rfl <;> decide
    rw [← List.cons_append, withoutSeparators_append, withoutSeparators_of_not_mem front]
    exact .marked marks signs inside.withoutSeparators (exists_digit_withoutSeparators digit)

end Literal

namespace Pieces
open Literal

/-- The pieces without their separators. -/
def unseparated (pieces : Pieces) : Pieces :=
  ⟨withoutSeparators pieces.whole, withoutSeparators pieces.fraction,
    withoutSeparators pieces.exponent, withoutSeparators pieces.tail⟩

theorem Valid.unseparated {radix : Radix} {pieces : Pieces} (valid : pieces.Valid radix)
    (ends : pieces.tail = []) : pieces.unseparated.Valid radix where
  whole := valid.whole.withoutSeparators
  digit := exists_digit_withoutSeparators valid.digit
  first base := by
    obtain ⟨c, starts, digit⟩ := valid.first base
    obtain ⟨rest, whole⟩ := List.head?_eq_some_iff.mp starts
    refine ⟨c, ?_, digit⟩
    have stays : (c != separator) = true := bne_iff_ne.mpr (ne_separator_of_isDigit digit)
    simp [Pieces.unseparated, withoutSeparators, whole, stays]
  fraction := valid.fraction.withoutSeparators
  exponent := valid.exponent.withoutSeparators
  integral base := by
    obtain ⟨fraction, exponent⟩ := valid.integral base
    exact ⟨by rw [Pieces.unseparated, fraction]; rfl, by rw [Pieces.unseparated, exponent]; rfl⟩
  tail := by
    rw [Pieces.unseparated, ends]
    exact .none

end Pieces

namespace Literal

/-! ## Literals -/

/-- The literal without its separators. -/
def unseparated (literal : Literal) : Literal where
  toPieces := literal.toPieces.unseparated
  raw := withoutSeparators literal.raw
  radix := literal.radix
  suffix := literal.suffix.map fun written => ⟨written.suffix, false⟩

variable {literal : Literal} {raw : Text}

theorem body_unseparated (literal : Literal) :
    literal.unseparated.body = withoutSeparators literal.body := by
  simp only [body, withoutSeparators_append]
  rfl

theorem Cut.withoutSeparators_eq {radix : Radix} {text stem : Text} {suffix : Option WrittenSuffix}
    (cut : Cut radix text stem suffix) :
    withoutSeparators text =
      withoutSeparators stem ++ ((suffix.map (·.suffix.text)).getD []) := by
  cases cut with
  | whole => simp
  | @glued _ suffix =>
    rw [withoutSeparators_append, withoutSeparators_of_not_mem suffix.separator_not_mem_text]
    rfl
  | @separated _ suffix count =>
    rw [withoutSeparators_append, withoutSeparators_append, withoutSeparators_replicate,
      List.append_nil, withoutSeparators_of_not_mem suffix.separator_not_mem_text]
    rfl

theorem suffixText_unseparated (literal : Literal) :
    literal.unseparated.suffixText = (literal.suffix.map (·.suffix.text)).getD [] := by
  cases suffixed : literal.suffix <;> simp [unseparated, suffixText, suffixed, WrittenSuffix.text]

/-- A literal that is read throughout is read as before without its separators. -/
theorem parse_withoutSeparators (read : parse raw = .ok literal) (ends : literal.tail = []) :
    parse (withoutSeparators raw) = .ok literal.unseparated := by
  obtain ⟨rfl, text, base, cut, valid, -⟩ := parse_eq_ok_iff.mp read
  have whole := Radix.lead_append_split literal.raw
  rw [base] at whole
  refine @parse_eq_ok_of_spelled literal.unseparated (valid.unseparated ends) ?_ ?_ ?_
  · change withoutSeparators literal.tail = []
    rw [ends]
    rfl
  · intro written member
    obtain ⟨original, found, rfl⟩ := Option.map_eq_some_iff.mp member
    refine ⟨(cut.suffixed original found).1, fun last => ?_⟩
    rw [body_unseparated] at last
    exact separator_not_mem_withoutSeparators _ (List.mem_of_getLast? last)
  · rw [body_unseparated, suffixText_unseparated, ← cut.withoutSeparators_eq]
    change withoutSeparators literal.raw = literal.radix.lead ++ withoutSeparators text
    rw [← whole, withoutSeparators_append,
      withoutSeparators_of_not_mem literal.radix.separator_not_mem_lead]

end Literal
end NumeralStyle
