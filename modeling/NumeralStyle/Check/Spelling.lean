import NumeralStyle.CharClass.Identifier
import NumeralStyle.Finding.Basic
import NumeralStyle.Literal.Basic

/-! Checks that need no settings: the case of hexadecimal digits, the separator before a suffix, and
leading zeros of decimal integers. -/
namespace NumeralStyle.Check

/-- Hexadecimal literals whose digits mix `a`-`f` and `A`-`F`. Either case could be meant, so no
spelling is suggested. -/
def casing (literal : Literal) : Option Advice :=
  let letters := literal.digitRun.filter CharClass.isHexLetter
  if literal.radix = .hex ∧ letters.any (·.isLower) ∧ letters.any (·.isUpper) then
    some
      { kind := .mixedCaseHex
        message := FindingKind.mixedCaseHex.message literal.kind.name
        suggestions := []
        help := some "use all lowercase or all uppercase hex digits" }
  else none

/-- Suffixes without a separator before them. -/
def suffixSeparation (literal : Literal) : Option Advice :=
  match literal.suffix with
  | some ⟨suffix, false⟩ =>
    some
      { kind := .unseparatedSuffix
        message := FindingKind.unseparatedSuffix.message literal.kind.name
        suggestions := []
        help := some ("add an underscore before `" ++ String.ofList suffix.text ++ "`") }
  | _ => none

/-- Whether the digits of a literal start with a zero and are not zeros alone. -/
def isZeroPrefixed (digits : Text) : Bool :=
  digits.head? == some '0' && digits.any fun c => '1' ≤ c && c ≤ '9'

/-- Decimal integers with a leading zero, which elsewhere would be octal. The decimal reading is
suggested first and the octal one after it; digits that have an eight or a nine have no octal
reading. -/
def leadingZero (literal : Literal) : Option Advice :=
  if literal.radix = .decimal ∧ literal.kind = .integer ∧ isZeroPrefixed literal.digits then
    let trimmed := literal.digits.dropWhile (· == '0') ++ literal.suffixText
    let octal :=
      if literal.digits.any fun c => c == '8' || c == '9' then []
      else [Radix.octal.lead ++ trimmed]
    some
      { kind := .zeroPrefixed
        message := FindingKind.zeroPrefixed.message literal.kind.name
        suggestions := trimmed :: octal
        help := some ("if you mean to use a decimal constant, remove the leading zeros; " ++
          "if you mean to use an octal constant, use `" ++ String.ofList Radix.octal.lead ++ "`") }
  else none

end NumeralStyle.Check
