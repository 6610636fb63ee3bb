import NumeralStyle.Finding.Kind
import NumeralStyle.Source.Position

/-! Findings. What a check has to say about the spelling of a literal is advice; advice about the
literal at a place of a source is a finding. A suggestion is a whole spelling to replace it. -/
namespace NumeralStyle

/-- What a check says about the spelling of a literal. -/
structure Advice where
  kind : FindingKind
  message : String
  /-- Spellings that could stand in place of the literal. -/
  suggestions : List Text
  help : Option String
  deriving DecidableEq, Repr

/-- Advice about the literal at a place. -/
structure Finding extends Advice where
  span : Span
  deriving DecidableEq, Repr

/-- Advice about the literal at a place. -/
def Advice.at (advice : Advice) (span : Span) : Finding := { advice with span }

end NumeralStyle
