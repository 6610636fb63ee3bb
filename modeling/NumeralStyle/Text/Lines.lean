import NumeralStyle.Text

/-! Lines of a text. Every conventional terminator ends a line, a carriage return and a line feed
together count as one, and a line keeps its terminator, so the lines put together are the text. -/
namespace NumeralStyle.Text

/-- Whether a character ends a line: line feed, vertical tab, form feed, carriage return, the file,
group and record separators, next line, and the line and paragraph separators. -/
def endsLine (c : Char) : Bool :=
  let n := c.toNat
  (10 ≤ n && n ≤ 13) || (28 ≤ n && n ≤ 30) || n == 0x85 || n == 0x2028 || n == 0x2029

/-- The terminator at the start of a text. -/
def terminator : Text → Text
  | '\r' :: '\n' :: _ => ['\r', '\n']
  | c :: _ => [c]
  | [] => []

/-- The first line of a text, with its terminator. -/
def firstLine (text : Text) : Text :=
  text.takeWhile (!endsLine ·) ++ terminator (text.dropWhile (!endsLine ·))

theorem firstLine_ne_nil {text : Text} (given : text ≠ []) : firstLine text ≠ [] := by
  match text, given with
  | c :: rest, _ =>
    by_cases ends : endsLine c = true
    · intro empty
      simp only [firstLine, List.takeWhile_cons, List.dropWhile_cons, ends, Bool.not_true,
        Bool.false_eq_true, if_false, List.nil_append] at empty
      unfold terminator at empty
      split at empty <;> simp_all
    · simp [firstLine, ends]

/-- The lines of a text, each with its terminator; the last may have none. -/
def lines (text : Text) : List Text :=
  if text = [] then [] else firstLine text :: lines (text.drop (firstLine text).length)
termination_by text.length
decreasing_by
  have line := List.length_pos_iff.2 (firstLine_ne_nil ‹_›)
  have whole := List.length_pos_iff.2 ‹text ≠ []›
  simp only [List.length_drop]
  omega

/-- A line without the line feeds at its end, and then without the carriage returns there. -/
def lineBody (line : Text) : Text := trimEnd '\r' (trimEnd '\n' line)

/-- The body of a line by its number, counted from one; empty where there is no such line. -/
def lineAt (text : Text) (number : Int) : Text :=
  if 1 ≤ number then (((lines text)[(number - 1).toNat]?).map lineBody).getD [] else []

/-- The text with a line feed in place of every carriage return, alone or before a line feed.
`read` holds the characters read so far, last first. -/
def normalizeNewlinesFrom (read : Text) : Text → Text
  | '\r' :: '\n' :: rest => normalizeNewlinesFrom ('\n' :: read) rest
  | '\r' :: rest => normalizeNewlinesFrom ('\n' :: read) rest
  | c :: rest => normalizeNewlinesFrom (c :: read) rest
  | [] => read.reverse

/-- The text with a line feed in place of every carriage return, alone or before a line feed. -/
def normalizeNewlines (text : Text) : Text := normalizeNewlinesFrom [] text

end NumeralStyle.Text
