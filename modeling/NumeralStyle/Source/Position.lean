import NumeralStyle.Text

/-! Places in a text. Lines and columns count from one and offsets from zero, all in characters.
The numbers are integers, because a place may come from outside and lie in no text at all. -/
namespace NumeralStyle

/-- A place in a text. -/
structure Position where
  /-- The line, counted from one. -/
  line : Int
  /-- The column in its line, counted from one. -/
  column : Int
  /-- The number of characters before it. -/
  offset : Int
  deriving DecidableEq, Repr

/-- A stretch of a text: where it starts, and the place just past its end. -/
structure Span where
  start : Position
  stop : Position
  deriving DecidableEq, Repr

/-- The span of a text that is the whole first line of its source. -/
def Span.ofText (text : Text) : Span :=
  ⟨⟨1, 1, 0⟩, ⟨1, text.length + 1, text.length⟩⟩

/-- A piece of a source text together with its place. -/
structure Token where
  raw : Text
  span : Span
  deriving DecidableEq, Repr

end NumeralStyle
