import NumeralStyle.Text.Hexadecimal
import NumeralStyle.Toml.Fault

/-! The small parts of a TOML document: blanks, comments, strings and keys. Each reader takes the
text ahead and gives what it read with the text behind it. -/
namespace NumeralStyle.Toml

/-- Whether a character is blank within a line. -/
def isBlank (c : Char) : Bool := c == ' ' || c == '\t'

/-- Whether a character is blank between lines. -/
def isGap (c : Char) : Bool := isBlank c || c == '\n'

/-- Whether a character is a control that comments and strings of one line may not hold. -/
def isIllegal (c : Char) : Bool := (c.toNat < 32 || c.toNat == 127) && c != '\t'

/-- Whether a character is a control that strings of several lines may not hold. -/
def isIllegalInBlock (c : Char) : Bool := isIllegal c && c != '\n'

/-- The text behind the blanks at its start. -/
def skipBlanks (text : Text) : Text := text.dropWhile isBlank

/-- The text behind the comment at its start, if there is one: at the end of the line. -/
def skipComment (text : Text) : Except Fault Text :=
  match text with
  | '#' :: rest =>
    match (rest.takeWhile (· != '\n')).find? isIllegal with
    | some c => .error (.illegal c)
    | none => .ok (rest.dropWhile (· != '\n'))
  | text => .ok text

/-- The text behind the blanks, line ends and comments at its start. -/
def skipGaps (inComment : Bool) : Text → Except Fault Text
  | [] => .ok []
  | c :: rest =>
    if inComment then
      if c == '\n' then skipGaps false rest
      else if isIllegal c then .error (.illegal c)
      else skipGaps true rest
    else if isGap c then skipGaps false rest
    else if c == '#' then skipGaps true rest
    else .ok (c :: rest)

/-- The character that an escape names by its number in base sixteen. -/
def scalar (digits : List Char) : Except Fault Char :=
  match digits.mapM Text.hexValue? with
  | none => .error (.expected "hexadecimal digits")
  | some values =>
    let number := values.foldl (fun number value => number * 16 + value) 0
    if number < 0xD800 ∨ (0xE000 ≤ number ∧ number < 0x110000) then .ok (Char.ofNat number)
    else .error (.expected "the number of a character")

/-- The character that a short escape stands for. -/
def shortEscape? (c : Char) : Option Char :=
  match c with
  | 'b' => some '\x08'
  | 't' => some '\t'
  | 'n' => some '\n'
  | 'f' => some '\x0c'
  | 'r' => some '\r'
  | '"' => some '"'
  | '\\' => some '\\'
  | _ => none

/-- What of a string of several lines is left out at the moment. -/
inductive Omitting
  | nothing
  /-- Blanks behind a backslash, up to the end of their line. -/
  | blanks
  /-- Blanks and line ends. -/
  | gaps
  deriving DecidableEq, Repr

/-- The rest of a string with escapes, whose characters so far are `read`, the last one first. A
backslash at the end of a line leaves out the gap that it starts. -/
def basicString (block : Bool) (omitting : Omitting) (read : Text) :
    Text → Except Fault (Text × Text)
  | [] => .error (.expected "the end of a string")
  | c :: rest =>
    if omitting = .blanks then
      if isBlank c then basicString block .blanks read rest
      else if c == '\n' then basicString block .gaps read rest
      else .error (.expected "the end of a line")
    else if omitting = .gaps ∧ isGap c then basicString block .gaps read rest
    else if c == '"' then
      if block then
        match rest with
        | '"' :: '"' :: rest => .ok (read.reverse, rest)
        | rest => basicString block .nothing ('"' :: read) rest
      else .ok (read.reverse, rest)
    else if c == '\\' then
      match rest with
      | [] => .error (.expected "an escape")
      | 'u' :: a :: b :: c :: d :: rest => do
        let named ← scalar [a, b, c, d]
        basicString block .nothing (named :: read) rest
      | 'U' :: a :: b :: c :: d :: e :: f :: g :: h :: rest => do
        let named ← scalar [a, b, c, d, e, f, g, h]
        basicString block .nothing (named :: read) rest
      | escape :: rest =>
        if block && isBlank escape then basicString block .blanks read rest
        else if block && escape == '\n' then basicString block .gaps read rest
        else
          match shortEscape? escape with
          | some plain => basicString block .nothing (plain :: read) rest
          | none => .error (.expected "an escape")
    else if if block then isIllegalInBlock c else isIllegal c then .error (.illegal c)
    else basicString block .nothing (c :: read) rest

/-- The rest of a string without escapes on one line. -/
def literalString (text : Text) : Except Fault (Text × Text) :=
  let body := text.takeWhile (· != '\'')
  match body.find? isIllegal, text.dropWhile (· != '\'') with
  | some c, _ => .error (.illegal c)
  | none, _ :: rest => .ok (body, rest)
  | none, [] => .error (.expected "the end of a string")

/-- The rest of a string without escapes on several lines. -/
def literalBlock (read : Text) : Text → Except Fault (Text × Text)
  | [] => .error (.expected "the end of a string")
  | '\'' :: '\'' :: '\'' :: rest => .ok (read.reverse, rest)
  | c :: rest =>
    if isIllegalInBlock c then .error (.illegal c) else literalBlock (c :: read) rest

/-- A string of several lines may end in one or two quotes more than its three. -/
def takeQuotes (quote : Char) (read : Text × Text) : Text × Text :=
  let more := (read.2.takeWhile (· == quote)).take 2
  (read.1 ++ more, read.2.drop more.length)

/-- The text without a line end at its start. -/
def skipLineEnd : Text → Text
  | '\n' :: rest => rest
  | text => text

/-- The string at the start of a text that starts with a quote. -/
def string (text : Text) : Except Fault (Text × Text) :=
  match text with
  | '"' :: '"' :: '"' :: rest =>
    (basicString true .nothing [] (skipLineEnd rest)).map (takeQuotes '"')
  | '\'' :: '\'' :: '\'' :: rest => (literalBlock [] (skipLineEnd rest)).map (takeQuotes '\'')
  | '"' :: rest => basicString false .nothing [] rest
  | '\'' :: rest => literalString rest
  | _ => .error (.expected "a string")

/-- Whether a character can stand in a name without quotes. -/
def isBare (c : Char) : Bool := c.isAlphanum || c == '-' || c == '_'

/-- One name of a key. -/
def name (text : Text) : Except Fault (Text × Text) :=
  match text with
  | '\'' :: rest => literalString rest
  | '"' :: rest => basicString false .nothing [] rest
  | text =>
    if (text.takeWhile isBare).isEmpty then .error (.expected "a key")
    else .ok (text.takeWhile isBare, text.dropWhile isBare)

/-- Names with points between them, as many as `fuel` allows, and the blanks behind them. -/
def keyWithin : (fuel : Nat) → Text → Except Fault (Key × Text)
  | 0, _ => .error (.expected "a key")
  | fuel + 1, text => do
    let (first, rest) ← name text
    match skipBlanks rest with
    | '.' :: rest =>
      let (others, rest) ← keyWithin fuel (skipBlanks rest)
      return (first :: others, rest)
    | rest => return ([first], rest)

/-- The key at the start of a text. It has no more names than the text has characters. -/
def key (text : Text) : Except Fault (Key × Text) := keyWithin (text.length + 1) text

end NumeralStyle.Toml
