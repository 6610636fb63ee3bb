import NumeralStyle.CharClass.Digit
import NumeralStyle.CharClass.Letter

/-! The characters of identifiers: letters, numerals and the underscore. Every digit and every
character that starts an identifier can also continue one (`isIdentChar_of_isDigit`,
`isIdentChar_of_isIdentStart`), so a run of identifier characters never ends inside a number. -/
namespace NumeralStyle.CharClass

/-- Whether a character can start an identifier. -/
def isIdentStart (c : Char) : Bool := isLetter c || c == '_'

/-- Whether a character can continue an identifier or a number. -/
def isIdentChar (c : Char) : Bool := isLetter c || isNumeric c || c == '_'

theorem isIdentChar_of_isIdentStart {c : Char} (start : isIdentStart c = true) :
    isIdentChar c = true := by
  simp only [isIdentStart, Bool.or_eq_true] at start
  rcases start with letter | underscore
  · simp [isIdentChar, letter]
  · simp [isIdentChar, underscore]

theorem isIdentChar_of_isDigit {c : Char} (digit : isDigit c = true) : isIdentChar c = true := by
  simp [isIdentChar, isNumeric, digit]

/-- Whether a character is a hexadecimal digit above nine. -/
def isHexLetter (c : Char) : Bool := ('a' ≤ c && c ≤ 'f') || ('A' ≤ c && c ≤ 'F')

/-- Whether a whole text, one character or more, passes for the start of an identifier: letters
throughout, or a lone underscore. -/
def startsIdent (text : List Char) : Bool :=
  (!text.isEmpty && text.all isLetter) || text == ['_']

/-- Whether a whole text passes for the middle of an identifier: letters and numerals throughout,
or a lone underscore. -/
def continuesIdent (text : List Char) : Bool :=
  (!text.isEmpty && text.all fun c => isLetter c || isNumeric c) || text == ['_']

/-- The hexadecimal digits above nine, in the order in which `withinHexLetters` reads them. -/
def hexLetters : List Char := ['a', 'b', 'c', 'd', 'e', 'f', 'A', 'B', 'C', 'D', 'E', 'F']

/-- Whether a text is a stretch of the hexadecimal letters written in order; the empty text is. -/
def withinHexLetters (text : List Char) : Bool :=
  (List.range (hexLetters.length + 1)).any fun start => text.isPrefixOf (hexLetters.drop start)

end NumeralStyle.CharClass
