import NumeralStyle.Number.Binary64
import NumeralStyle.Text.Integer

/-! Limits of what can be written. A character can be repeated only as often as a word of 64 bits
can count and memory can hold, a number can have only so many digits, and a value can hold values
only to some depth. Whatever goes beyond that is oversize. How much memory there is and how deeply
values can be nested is up to the platform that the program runs on. -/
namespace NumeralStyle

/-- What the platform of a run allows. A depth is the number of values below one another, and it
differs by what is done with them, since that takes more or less of the stack. -/
class Platform where
  /-- The number of characters that memory can hold. -/
  memory : Nat
  /-- How deep the values may be in a refused width that is shown. -/
  widthDepth : Nat
  /-- How deep the values may be in a refused level that is shown. -/
  levelDepth : Nat
  /-- The levels that there are for the values of a document. -/
  documentLevels : Nat

/-- The limits of a machine with a gigabyte to spare and a stack of a thousand frames. -/
instance Platform.usual : Platform where
  memory := 1000000000
  widthDepth := 989
  levelDepth := 993
  documentLevels := 989

/-- Why something cannot be written. -/
inductive Oversize
  /-- A character is to be repeated more often than a word can count. -/
  | repetition
  /-- A text is to be filled up to a length that no word can hold. -/
  | length
  /-- A text needs more memory than there is. -/
  | memory
  /-- A number has more digits than a number may have. -/
  | numeral
  /-- A value holds values too deeply. -/
  | nesting
  deriving DecidableEq, Repr

namespace Oversize

/-- The reason in words; a lack of memory has none. -/
def message : Oversize → String
  | .repetition => "cannot fit 'int' into an index-sized integer"
  | .length => "Python int too large to convert to C ssize_t"
  | .memory => ""
  | .numeral =>
    "Exceeds the limit (4300 digits) for integer string conversion; " ++
      "use sys.set_int_max_str_digits() to increase the limit"
  | .nesting => "maximum recursion depth exceeded while getting the repr of an object"

/-- The greatest number that a signed word holds. -/
def greatestWord : Nat := 9223372036854775807

/-- Why a character cannot be repeated a number of times. Negative numbers have to fit into a word
as well, although they repeat nothing. -/
def ofRepetition? [Platform] (count : Int) : Option Oversize :=
  if count < -(greatestWord + 1) ∨ greatestWord < count then some .repetition
  else if Platform.memory < count then some .memory
  else none

/-- Why a text cannot be filled up to a length. -/
def ofLength? [Platform] (length : Nat) : Option Oversize :=
  if greatestWord < length then some .length
  else if Platform.memory < length then some .memory
  else none

/-- Why a number cannot be written in decimal. -/
def ofNumeral? (n : Int) : Option Oversize :=
  if tenTo Text.digitLimit ≤ n.natAbs then some .numeral else none

end Oversize
end NumeralStyle
