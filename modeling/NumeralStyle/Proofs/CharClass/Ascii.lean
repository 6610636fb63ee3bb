import NumeralStyle.CharClass.Identifier
import NumeralStyle.Literal.Parse
import NumeralStyle.Proofs.Text.Runs

/-! The classes of characters on ASCII. There a digit of any script is one of the ten digits, a letter
one of the fifty-two, and what continues an identifier is what continues the tail of a literal. The
digits of every base and the characters of a tail are all in ASCII. -/
namespace NumeralStyle.CharClass

/-- What holds of each of the first 128 characters holds of every character of ASCII. -/
theorem ascii_forall (holds : Char → Prop) (each : ∀ n : Fin 128, holds (Char.ofNat n)) {c : Char}
    (ascii : c.val < 128) : holds c := by
  have small : c.toNat < 128 := ascii
  simpa using each ⟨c.toNat, small⟩

theorem isDigit_of_ascii {c : Char} (ascii : c.val < 128) : isDigit c = c.isDigit := by
  simp [isDigit, ascii]

theorem isLetter_of_ascii {c : Char} (ascii : c.val < 128) : isLetter c = c.isAlpha := by
  simp [isLetter, ascii]

theorem isIdentChar_of_ascii {c : Char} (ascii : c.val < 128) :
    isIdentChar c = Literal.isTailChar c := by
  simp [isIdentChar, isNumeric, Literal.isTailChar, Char.isAlphanum, separator,
    isLetter_of_ascii ascii, isDigit_of_ascii ascii, ascii]

theorem ascii_of_isDigit {c : Char} (digit : c.isDigit = true) : c.val < 128 := by
  simp only [Char.isDigit, Bool.and_eq_true, decide_eq_true_eq] at digit
  exact UInt32.lt_of_le_of_lt digit.2 (by decide)

theorem ascii_of_isAlpha {c : Char} (letter : c.isAlpha = true) : c.val < 128 := by
  have either : c.isUpper = true ∨ c.isLower = true := (Bool.or_eq_true _ _).mp letter
  rcases either with upper | lower
  · have range : 'A'.val ≤ c.val ∧ c.val ≤ 'Z'.val := of_decide_eq_true upper
    exact UInt32.lt_of_le_of_lt range.2 (by decide)
  · have range := (Bool.and_eq_true _ _).mp lower
    exact UInt32.lt_of_le_of_lt (of_decide_eq_true range.2) (by decide)

theorem ascii_of_isTailChar {c : Char} (tail : Literal.isTailChar c = true) : c.val < 128 := by
  simp only [Literal.isTailChar, Char.isAlphanum, Bool.or_eq_true, beq_iff_eq] at tail
  rcases tail with (letter | digit) | rfl
  · exact ascii_of_isAlpha letter
  · exact ascii_of_isDigit digit
  · decide

theorem ascii_of_radix_isDigit {radix : Radix} {c : Char} (digit : radix.isDigit c = true) :
    c.val < 128 := by
  have listed : ∀ d ∈ radix.digits, d.val < 128 := by cases radix <;> decide
  exact listed c (Radix.mem_of_isDigit digit)

theorem decimal_isDigit (c : Char) : Radix.decimal.isDigit c = c.isDigit := by
  by_cases ascii : c.val < 128
  · revert ascii
    exact ascii_forall (fun c => Radix.decimal.isDigit c = c.isDigit) (by decide)
  · rw [Bool.eq_iff_iff]
    exact ⟨fun digit => absurd (ascii_of_radix_isDigit digit) ascii,
      fun digit => absurd (ascii_of_isDigit digit) ascii⟩

end NumeralStyle.CharClass
