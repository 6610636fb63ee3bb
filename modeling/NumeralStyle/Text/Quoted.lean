import NumeralStyle.CharClass.Printable
import NumeralStyle.Text.Hexadecimal

/-! Text between quotes, as messages show it. Apostrophes enclose it, unless it holds an apostrophe
and no double quote. The enclosing quote, the backslash and whatever is not printable are escaped.
-/
namespace NumeralStyle.Text

/-- How a character is written between quotes. -/
def escaped (quote c : Char) : Text :=
  if c == quote || c == '\\' then ['\\', c]
  else if c == '\n' then ['\\', 'n']
  else if c == '\r' then ['\\', 'r']
  else if c == '\t' then ['\\', 't']
  else if CharClass.isPrintable c then [c]
  else if c.toNat < 0x100 then '\\' :: 'x' :: hexDigits 2 c.toNat
  else if c.toNat < 0x10000 then '\\' :: 'u' :: hexDigits 4 c.toNat
  else '\\' :: 'U' :: hexDigits 8 c.toNat

/-- The quote that encloses a text. -/
def quoteFor (text : Text) : Char :=
  if text.contains '\'' && !text.contains '"' then '"' else '\''

/-- A text between quotes. -/
def quoted (text : Text) : Text :=
  let quote := quoteFor text
  quote :: text.flatMap (escaped quote) ++ [quote]

/-- A text between quotes, for a message. -/
def quotedString (text : Text) : String := String.ofList (quoted text)

end NumeralStyle.Text
