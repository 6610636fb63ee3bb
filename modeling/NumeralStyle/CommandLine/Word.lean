import NumeralStyle.CharClass.Digit
import NumeralStyle.CommandLine.Misuse

/-! The words of a command line, one by one. A word is an operand or names a flag. Two hyphens start
a long name, which may be cut short where no other name starts the same way, and which may have a
value behind an equals sign. One hyphen starts a letter, which may have a value behind it, with an
equals sign or without. The word of two hyphens makes operands of all the words after it. -/
namespace NumeralStyle.CommandLine

/-- What a word is on its own. -/
inductive Word
  | operand (text : Text)
  /-- A flag by its long name, and the value in its word. -/
  | long (flag : Flag) (value : Option Text)
  /-- A flag by its letter, and the text behind that in its word. -/
  | short (flag : Flag) (attached : Option Text)
  /-- The two hyphens before operands. -/
  | terminator
  /-- A word in the form of a flag that is none. -/
  | unknown (text : Text)
  deriving DecidableEq, Repr

namespace Word

/-- Whether a text is a negative number in decimal digits of any script, perhaps with a point and
with a line feed at its end. -/
def isNegativeNumber : Text → Bool
  | '-' :: rest =>
    let number := if rest.getLast? = some '\n' then rest.dropLast else rest
    match number.dropWhile CharClass.isDecimal with
    | [] => !number.isEmpty
    | '.' :: fraction => !fraction.isEmpty && fraction.all CharClass.isDecimal
    | _ => false
  | _ => false

/-- A word that starts with a hyphen and names no flag: an operand if it is a negative number or has
a space. -/
def nameless (text : Text) : Word :=
  if isNegativeNumber text || text.contains ' ' then .operand text else .unknown text

/-- A name and the value behind its equals sign, if it has one. -/
def splitValue (text : Text) : Text × Option Text :=
  (text.takeWhile (· != '='),
    match text.dropWhile (· != '=') with
    | [] => none
    | _ :: value => some value)

/-- The text behind a letter in its word, without the equals sign that it may start with. -/
def attached? : Text → Option Text
  | [] => none
  | '=' :: value => some value
  | value => some value

/-- The word of a text that is not the two hyphens. -/
def ofText (text : Text) : Except Misuse Word :=
  match text with
  | '-' :: '-' :: rest =>
    let (name, value) := splitValue rest
    match Flag.ofName? name with
    | some flag => .ok (.long flag value)
    | none =>
      match Flag.startingWith name with
      | [] => .ok (nameless text)
      | [flag] => .ok (.long flag value)
      | flags => .error (.ambiguous text flags)
  | '-' :: letter :: rest =>
    match Flag.ofLetter? letter with
    | some flag => .ok (.short flag (attached? rest))
    | none => .ok (nameless text)
  | _ => .ok (.operand text)

/-- The words of a command line. -/
def ofTexts : List Text → Except Misuse (List Word)
  | [] => .ok []
  | text :: rest =>
    if text = ['-', '-'] then .ok (.terminator :: rest.map .operand)
    else do
      let word ← ofText text
      return word :: (← ofTexts rest)

end Word
end NumeralStyle.CommandLine
