import NumeralStyle.Text

/-! The number base of a literal. A literal names its base by the two characters it starts with; one
without such a lead is decimal, also where it starts with a zero. -/
namespace NumeralStyle

/-- The base in which a literal is written. -/
inductive Radix
  | decimal
  | hex
  | octal
  | binary
  deriving DecidableEq, Repr

namespace Radix

/-- Every base, the decimal one first. -/
def all : List Radix := [.decimal, .hex, .octal, .binary]

/-- The characters with which a literal of this base starts. -/
def lead : Radix → Text
  | .decimal => []
  | .hex => ['0', 'x']
  | .octal => ['0', 'o']
  | .binary => ['0', 'b']

/-- The name of the base in messages. -/
def name : Radix → String
  | .decimal => "decimal"
  | .hex => "hex"
  | .octal => "octal"
  | .binary => "binary"

/-- The digits of the base in the order of their code points. -/
def digits : Radix → Text
  | .decimal => ['0', '1', '2', '3', '4', '5', '6', '7', '8', '9']
  | .hex => ['0', '1', '2', '3', '4', '5', '6', '7', '8', '9', 'A', 'B', 'C', 'D', 'E', 'F',
      'a', 'b', 'c', 'd', 'e', 'f']
  | .octal => ['0', '1', '2', '3', '4', '5', '6', '7']
  | .binary => ['0', '1']

/-- Whether a character is a digit of the base. -/
def isDigit (radix : Radix) (c : Char) : Bool := radix.digits.contains c

theorem mem_of_isDigit {radix : Radix} {c : Char} (digit : radix.isDigit c = true) :
    c ∈ radix.digits :=
  List.contains_iff_mem.mp digit

/-- The base that the start of a text names, and the text behind its lead. -/
def split : Text → Radix × Text
  | '0' :: 'x' :: body => (.hex, body)
  | '0' :: 'o' :: body => (.octal, body)
  | '0' :: 'b' :: body => (.binary, body)
  | body => (.decimal, body)

theorem lead_append_split (raw : Text) : (split raw).1.lead ++ (split raw).2 = raw := by
  unfold split
  split <;> simp [lead]

end Radix
end NumeralStyle
