import NumeralStyle.Literal.Basic
import NumeralStyle.Text.Quoted

/-! Reading a literal. The lead names the base; the longest suffix comes off the end, with the
separators in front of it; what is left is split into its pieces, each as long as it can be, and the
rest of it has to be a run of ASCII letters, digits and separators that starts with a letter. -/
namespace NumeralStyle.Literal

/-- Why a text is no literal. -/
inductive Fault
  | empty
  | leadingSeparator
  /-- A point in a literal of a base other than ten. -/
  | fractionalPart (radix : Radix)
  | noDigits
  /-- A character where neither a digit nor a tail can start or go on. -/
  | invalidDigit (c : Char) (radix : Radix)
  deriving DecidableEq, Repr

/-- The fault in words. -/
def Fault.message : Fault → String
  | .empty => "empty literal"
  | .leadingSeparator => "literal cannot start with a separator"
  | .fractionalPart radix => radix.name ++ " literal cannot have a fractional part"
  | .noDigits => "literal has no digits"
  | .invalidDigit c radix =>
    "invalid digit " ++ Text.quotedString [c] ++ " in " ++ radix.name ++ " literal"

/-- Whether a character is a digit of the base or a separator. -/
def isDigitOrSeparator (radix : Radix) (c : Char) : Bool := radix.isDigit c || c == separator

/-- The suffix at the end of the body of a literal, and the body without it and without the
separators in front of it. -/
def cutSuffix (radix : Radix) (body : Text) : Text × Option WrittenSuffix :=
  match Suffix.find? radix body with
  | none => (body, none)
  | some suffix =>
    let stem := body.take (body.length - suffix.text.length)
    if stem.getLast? = some separator then
      (Text.trimEnd separator stem, some ⟨suffix, true⟩)
    else
      (stem, some ⟨suffix, false⟩)

/-- A point and the digits behind it at the start of a text, and the rest. -/
def splitFraction : Text → Text × Text
  | '.' :: rest =>
    ('.' :: rest.takeWhile (isDigitOrSeparator .decimal),
      rest.dropWhile (isDigitOrSeparator .decimal))
  | text => ([], text)

/-- The sign at the start of a text, and the rest. -/
def splitSign : Text → Text × Text
  | '+' :: rest => (['+'], rest)
  | '-' :: rest => (['-'], rest)
  | text => ([], text)

/-- An exponent at the start of a text, and the rest: its letter, a sign or none, and digits with
separators, of which at least one is a digit. -/
def splitExponent : Text → Text × Text
  | letter :: rest =>
    let (sign, unsigned) := splitSign rest
    let run := unsigned.takeWhile (isDigitOrSeparator .decimal)
    if (letter = 'e' ∨ letter = 'E') ∧ run.any (Radix.decimal.isDigit ·) then
      (letter :: sign ++ run, unsigned.dropWhile (isDigitOrSeparator .decimal))
    else
      ([], letter :: rest)
  | [] => ([], [])

/-- The pieces of a decimal number; it has to start with a digit. -/
def splitDecimal (stem : Text) : Option Pieces :=
  match stem with
  | [] => none
  | first :: _ =>
    if Radix.decimal.isDigit first then
      let whole := stem.takeWhile (isDigitOrSeparator .decimal)
      let (fraction, behind) := splitFraction (stem.dropWhile (isDigitOrSeparator .decimal))
      let (exponent, tail) := splitExponent behind
      some ⟨whole, fraction, exponent, tail⟩
    else none

/-- The pieces of a number in a base other than ten: its digits, and the rest. -/
def splitPrefixed (radix : Radix) (stem : Text) : Pieces :=
  ⟨stem.takeWhile (isDigitOrSeparator radix), [], [], stem.dropWhile (isDigitOrSeparator radix)⟩

/-- The pieces of a number, whatever its tail. -/
def split (radix : Radix) (stem : Text) : Except Fault Pieces :=
  if radix = .decimal then
    match splitDecimal stem with
    | none => .error .noDigits
    | some pieces => .ok pieces
  else if stem.contains '.' then .error (.fractionalPart radix)
  else
    let pieces := splitPrefixed radix stem
    if pieces.whole.all (· == separator) then .error .noDigits else .ok pieces

/-- Whether a character can stand in the tail of a literal, its start aside. -/
def isTailChar (c : Char) : Bool := c.isAlphanum || c == separator

/-- A tail is empty, or starts with an ASCII letter and goes on with letters, digits and
separators. -/
def checkTail (radix : Radix) : Text → Except Fault Unit
  | [] => .ok ()
  | c :: rest =>
    if c.isAlpha && rest.all isTailChar then .ok () else .error (.invalidDigit c radix)

/-- Take a literal apart, or say why the text is none. -/
def parse (raw : Text) : Except Fault Literal :=
  if raw = [] then .error .empty
  else if raw.head? = some separator then .error .leadingSeparator
  else do
    let (radix, body) := Radix.split raw
    let (stem, suffix) := cutSuffix radix body
    let pieces ← split radix stem
    checkTail radix pieces.tail
    return { pieces with raw, radix, suffix }

end NumeralStyle.Literal
