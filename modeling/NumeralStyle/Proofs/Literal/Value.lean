import NumeralStyle.Literal.Basic
import NumeralStyle.Toml.Scalar

/-! The number that the integer part of a literal denotes. Zeros in front of digits do not count
(`Toml.ofDigits_zeros_append`), and digits denote zero only where each of them does
(`Toml.ofDigits_eq_zero_iff`). -/
namespace NumeralStyle

/-- The base as a number. -/
def Radix.base : Radix → Nat
  | .decimal => 10
  | .hex => 16
  | .octal => 8
  | .binary => 2

/-- The number that the digits of the integer part denote in a base, which need not be the one that
the literal is written in. -/
def Literal.valueIn (radix : Radix) (literal : Literal) : Nat :=
  Toml.ofDigits radix.base literal.digits

theorem Radix.base_pos (radix : Radix) : 0 < radix.base := by
  cases radix <;> decide

namespace Toml

variable {base : Nat} {digits : Text}

theorem ofDigits_zero_cons (base : Nat) (digits : Text) :
    ofDigits base ('0' :: digits) = ofDigits base digits := by
  have zero : (Text.hexValue? '0').getD 0 = 0 := by decide
  simp only [ofDigits, Text.ofDigitValues, List.map_cons, zero, List.foldl_cons, Nat.zero_mul,
    Nat.add_zero]

theorem ofDigits_zeros_append (base zeros : Nat) (digits : Text) :
    ofDigits base (List.replicate zeros '0' ++ digits) = ofDigits base digits := by
  induction zeros with
  | zero => rfl
  | succ zeros ih => rw [List.replicate_succ, List.cons_append, ofDigits_zero_cons, ih]

theorem ofDigits_dropWhile_zero (base : Nat) (digits : Text) :
    ofDigits base (digits.dropWhile (· == '0')) = ofDigits base digits := by
  induction digits with
  | nil => rfl
  | cons c rest ih =>
    by_cases zero : c = '0'
    · subst zero
      rw [List.dropWhile_cons_of_pos (by rfl), ofDigits_zero_cons, ih]
    · rw [List.dropWhile_cons_of_neg (by simpa using zero)]

/-- Reading on from a number makes zero only from zero and through zeros. -/
theorem foldl_eq_zero_iff (positive : 0 < base) (values : List Nat) (number : Nat) :
    values.foldl (fun number value => number * base + value) number = 0 ↔
      number = 0 ∧ ∀ value ∈ values, value = 0 := by
  induction values generalizing number with
  | nil => simp
  | cons value rest ih =>
    have step : number * base + value = 0 ↔ number = 0 ∧ value = 0 := by
      rw [Nat.add_eq_zero_iff, Nat.mul_eq_zero]
      have nonzero : base ≠ 0 := Nat.ne_of_gt positive
      simp [nonzero]
    rw [List.foldl_cons, ih, step, and_assoc, List.forall_mem_cons]

theorem ofDigits_eq_zero_iff (positive : 0 < base) :
    ofDigits base digits = 0 ↔ ∀ c ∈ digits, (Text.hexValue? c).getD 0 = 0 := by
  unfold ofDigits Text.ofDigitValues
  rw [foldl_eq_zero_iff positive]
  simp

end Toml

end NumeralStyle
