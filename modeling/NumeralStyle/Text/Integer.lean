import NumeralStyle.CharClass.Digit
import NumeralStyle.CharClass.Printable
import NumeralStyle.Text

/-! Whole numbers as people type them: a sign or none, decimal digits of any script with single
underscores between them, and blanks around the whole. Numbers of more than 4300 digits are
refused, leading zeros counted, because reading them would take too long. -/
namespace NumeralStyle.Text

/-- Whether a character may surround a number: a blank, but no control that separates records. -/
def surroundsInteger (c : Char) : Bool :=
  CharClass.isBlank c && !(28 ≤ c.toNat && c.toNat ≤ 31)

/-- The number of digits that a number may have. -/
def digitLimit : Nat := 4300

/-- The values of the digits of a whole text, which may have single underscores between them. -/
def digitValues? : Text → Option (List Nat)
  | [] => none
  | [c] => (CharClass.decimalValue? c).map ([·])
  | c :: '_' :: rest => do
    let value ← CharClass.decimalValue? c
    return value :: (← digitValues? rest)
  | c :: rest => do
    let value ← CharClass.decimalValue? c
    return value :: (← digitValues? rest)

/-- The number that digits denote in a base, the first digit being the most significant. -/
def ofDigitValues (base : Nat) (values : List Nat) : Nat :=
  values.foldl (fun number value => number * base + value) 0

/-- The natural number that a whole text denotes. -/
def natural? (text : Text) : Option Nat := do
  let values ← digitValues? text
  if values.length ≤ digitLimit then some (ofDigitValues 10 values) else none

/-- The integer that a text denotes. -/
def integer? (text : Text) : Option Int :=
  match trim surroundsInteger text with
  | '-' :: digits => (natural? digits).map fun n => -(n : Int)
  | '+' :: digits => (natural? digits).map fun n => (n : Int)
  | digits => (natural? digits).map fun n => (n : Int)

end NumeralStyle.Text
