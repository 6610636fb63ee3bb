import NumeralStyle.Literal.Basic
import NumeralStyle.Source.Position
import NumeralStyle.Text.Quoted

/-! The description of a literal taken apart: a heading with its spelling and place, and an indented
line for each piece that it has. -/
namespace NumeralStyle.Literal

/-- Texts between quotes in brackets. -/
def bracketed (texts : List Text) : Text :=
  '[' :: List.intercalate [',', ' '] (texts.map Text.quoted) ++ [']']

/-- The lines of the description. -/
def descriptionLines (literal : Literal) (span : Span) : List Text :=
  let piece (name : String) (text : Text) : List Text :=
    if text = [] then [] else [name.toList ++ Text.quoted text]
  ["Literal ".toList ++ Text.quoted literal.raw ++ " at ".toList ++ Text.ofInt span.start.line ++
    [':'] ++ Text.ofInt span.start.column,
   "  radix=".toList ++ literal.radix.name.toUpper.toList ++ " kind=".toList ++
    literal.kind.name.toUpper.toList,
   "  digit_run=".toList ++ Text.quoted literal.digitRun,
   "  groups=".toList ++ bracketed literal.rawGroups] ++
  (if literal.integerGroups = literal.rawGroups then []
   else ["  integer_groups=".toList ++ bracketed literal.integerGroups]) ++
  piece "  fraction=" literal.fraction ++
  piece "  exponent=" literal.exponentPart ++
  (match literal.suffix with
   | none => []
   | some written =>
     ["  suffix=".toList ++ written.suffix.text ++
       (if written.separated then " (separated)".toList else [])]) ++
  piece "  unrecognized_suffix=" literal.tail

/-- The description, each line ended by a line feed. -/
def description (literal : Literal) (span : Span) : Text :=
  (literal.descriptionLines span).flatMap (· ++ ['\n'])

end NumeralStyle.Literal
