import NumeralStyle.Literal.Suffix
import NumeralStyle.Text.Stretches

/-! A numeric literal taken apart. It keeps the pieces of the spelling; what checks ask of it, such
as its groups of digits and whether it is a floating point number, is computed from them. A run of
letters and digits at the end that is no suffix is the literal's tail, and counts with the piece
before it: with the integer part of an integer, and with the exponent otherwise. Groups of digits are
the stretches of a text between its separators. Separators at the ends or next to each other enclose
no group, and the groups together are the text without separators (`flatten_groups`). -/
namespace NumeralStyle

/-- The groups of a text: its stretches that are not empty. -/
def groups (text : Text) : List Text := (Text.stretches separator text).filter (!·.isEmpty)

/-- The text without its separators. -/
def withoutSeparators (text : Text) : Text := text.filter (· != separator)

private theorem flatten_filter_not_isEmpty (pieces : List Text) :
    (pieces.filter (!·.isEmpty)).flatten = pieces.flatten := by
  induction pieces with
  | nil => rfl
  | cons piece others ih =>
    cases piece with
    | nil => simpa using ih
    | cons c rest => simpa using ih

theorem flatten_groups (text : Text) : (groups text).flatten = withoutSeparators text := by
  rw [groups, flatten_filter_not_isEmpty, Text.flatten_stretches, withoutSeparators]

/-- The pieces of the number in a literal, between the lead of its base and its suffix. -/
structure Pieces where
  /-- The integer part, with separators. -/
  whole : Text
  /-- The fraction with its point, or nothing. -/
  fraction : Text
  /-- The exponent with its letter and sign, or nothing. -/
  exponent : Text
  /-- The run at the end that is no known suffix, or nothing. -/
  tail : Text
  deriving DecidableEq, Repr

/-- A literal taken apart. -/
structure Literal extends Pieces where
  /-- The whole spelling. -/
  raw : Text
  radix : Radix
  suffix : Option WrittenSuffix
  deriving DecidableEq, Repr

/-- Whether a number is written as an integer or as a floating point number. -/
inductive LiteralKind
  | integer
  | float
  deriving DecidableEq, Repr

/-- The name of the kind in messages. -/
def LiteralKind.name : LiteralKind → String
  | .integer => "integer"
  | .float => "float"

namespace Literal

/-- The number as it is written, without lead, suffix and the separators before the suffix. -/
def body (literal : Literal) : Text :=
  literal.whole ++ literal.fraction ++ literal.exponent ++ literal.tail

/-- Whether the spelling has a point or an exponent. -/
def isPointed (literal : Literal) : Bool :=
  !literal.fraction.isEmpty || !literal.exponent.isEmpty

/-- A point, an exponent or a floating point suffix makes a floating point number. -/
def kind (literal : Literal) : LiteralKind :=
  if literal.isPointed || literal.suffix.any (·.suffix.isFloat) then .float else .integer

/-- The integer part, with the tail where no other piece takes it. -/
def integerPart (literal : Literal) : Text :=
  if literal.isPointed then literal.whole else literal.whole ++ literal.tail

/-- The exponent, with the tail where the spelling has a point or an exponent. -/
def exponentPart (literal : Literal) : Text :=
  if literal.isPointed then literal.exponent ++ literal.tail else []

/-- The groups of the whole number. -/
def rawGroups (literal : Literal) : List Text := groups literal.body

/-- The whole number without separators. -/
def digitRun (literal : Literal) : Text := literal.rawGroups.flatten

/-- The groups of the integer part. -/
def integerGroups (literal : Literal) : List Text := groups literal.integerPart

/-- The integer part without separators. -/
def digits (literal : Literal) : Text := literal.integerGroups.flatten

/-- Whether a separator stands in the number or before its suffix. -/
def hasSeparators (literal : Literal) : Bool :=
  literal.suffix.any (·.separated) || literal.body.contains separator

/-- The suffix with its separator, or nothing. -/
def suffixText (literal : Literal) : Text := (literal.suffix.map (·.text)).getD []

/-- The tail, where there is one. -/
def unrecognizedSuffix (literal : Literal) : Option Text :=
  if literal.tail = [] then none else some literal.tail

end Literal
end NumeralStyle
