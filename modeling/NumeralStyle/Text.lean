/-! Text is a list of characters, one Unicode scalar value each: every count and column of the
library counts these. -/
namespace NumeralStyle

/-- Text, one Unicode scalar value per element. -/
abbrev Text := List Char

namespace Text

/-- The text without the run of one character at its end. -/
def trimEnd (c : Char) (text : Text) : Text := (text.reverse.dropWhile (· == c)).reverse

/-- The text without what satisfies a test at either end. -/
def trim (drop : Char → Bool) (text : Text) : Text :=
  ((text.dropWhile drop).reverse.dropWhile drop).reverse

/-- The text with every occurrence of one character replaced by another. -/
def replace (old new : Char) (text : Text) : Text := text.map fun c => if c == old then new else c

/-- A whole number in decimal, with a minus sign where it is negative. -/
def ofInt (n : Int) : Text := (toString n).toList

end Text
end NumeralStyle
