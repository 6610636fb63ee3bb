import NumeralStyle.Toml.Document
import NumeralStyle.Toml.Scalar

/-! Reading a TOML document. A carriage return before a line feed does not count anywhere. A value
within a value takes at least one character, and so does a statement, so the length of the text
bounds how long reading can go. How deeply values may hold values is bounded besides: a list takes
two of the levels that there are, a table written within a value takes three. -/
namespace NumeralStyle.Toml

/-- The text behind a key, an equals sign and the blanks around it, and the key. -/
def keyOfPair (text : Text) : Except Fault (Key × Text) := do
  match ← key text with
  | (key, '=' :: rest) => return (key, skipBlanks rest)
  | _ => .error (.expected "an equals sign")

/-- Add a pair to a table written within a value. `closed` holds the keys of the values in it that
cannot be changed. -/
def addPair (table : Table) (closed : List Key) (key : Key) (value : Value) :
    Except Fault (Table × List Key) := do
  if closed.any (·.isPrefixOf key) then .error (.redefined key)
  else
    let table ← alter false (define (key.getLast?.getD []) value) key.dropLast table
    return (table, if isClosed value then key :: closed else closed)

/-- The levels that have to be left where a list starts. -/
def listLevels : Nat := 3

/-- The levels that have to be left where a table starts. -/
def tableLevels : Nat := 5

mutual

/-- The value at the start of a text. -/
def value : (fuel levels : Nat) → Text → Except Fault (Value × Text)
  | 0, _, _ => .error (.expected "a value")
  | fuel + 1, levels, text =>
    match text with
    | '"' :: _ | '\'' :: _ => (string text).map fun read => (.text read.1, read.2)
    | 't' :: 'r' :: 'u' :: 'e' :: rest => .ok (.boolean true, rest)
    | 'f' :: 'a' :: 'l' :: 's' :: 'e' :: rest => .ok (.boolean false, rest)
    | '[' :: rest => do
      if levels < listLevels then .error .tooDeep
      else
        match ← skipGaps false rest with
        | ']' :: rest => return (.list [], rest)
        | rest => items fuel (levels - 2) [] rest
    | '\x7b' :: rest =>
      if levels < tableLevels then .error .tooDeep
      else
        match skipBlanks rest with
        | '\x7d' :: rest => .ok (.table [], rest)
        | rest => pairs fuel (levels - 3) [] [] rest
    | text => scalar? text

/-- The rest of a list, whose items so far are `read`, the last one first. -/
def items : (fuel levels : Nat) → (read : List Value) → Text → Except Fault (Value × Text)
  | 0, _, _, _ => .error (.expected "a value")
  | fuel + 1, levels, read, text => do
    let (item, rest) ← value fuel levels text
    match ← skipGaps false rest with
    | ']' :: rest => return (.list (item :: read).reverse, rest)
    | ',' :: rest =>
      match ← skipGaps false rest with
      | ']' :: rest => return (.list (item :: read).reverse, rest)
      | rest => items fuel levels (item :: read) rest
    | _ => .error (.expected "the end of a list")

/-- The rest of a table written within a value. -/
def pairs : (fuel levels : Nat) → Table → (closed : List Key) → Text →
    Except Fault (Value × Text)
  | 0, _, _, _, _ => .error (.expected "a value")
  | fuel + 1, levels, table, closed, text => do
    let (key, rest) ← keyOfPair text
    let (given, rest) ← value fuel levels rest
    let (table, closed) ← addPair table closed key given
    match skipBlanks rest with
    | '\x7d' :: rest => return (.table table, rest)
    | ',' :: rest => pairs fuel levels table closed (skipBlanks rest)
    | _ => .error (.expected "the end of a table")

end

/-- The statement at the start of a text. -/
def statement [Platform] (document : Document) (text : Text) : Except Fault (Document × Text) := do
  match text with
  | '#' :: _ => return (document, text)
  | '[' :: '[' :: rest =>
    let (key, rest) ← key (skipBlanks rest)
    let document ← document.settle.openElement key
    match rest with
    | ']' :: ']' :: rest => return (document, rest)
    | _ => .error (.expected "the end of a header")
  | '[' :: rest =>
    let (key, rest) ← key (skipBlanks rest)
    let document ← document.settle.openTable key
    match rest with
    | ']' :: rest => return (document, rest)
    | _ => .error (.expected "the end of a header")
  | text =>
    let (key, rest) ← keyOfPair text
    let (given, rest) ← value (2 * rest.length + 2) Platform.documentLevels rest
    return (← document.assign key given, rest)

/-- The document that goes on with a text. -/
def statements [Platform] : (fuel : Nat) → Document → Text → Except Fault Document
  | 0, document, _ => .ok document
  | fuel + 1, document, text =>
    match skipBlanks text with
    | [] => .ok document
    | '\n' :: rest => statements fuel document rest
    | text => do
      let (document, rest) ← statement document text
      match ← skipComment (skipBlanks rest) with
      | [] => return document
      | '\n' :: rest => statements fuel document rest
      | _ => .error (.expected "the end of a line")

/-- The text without the carriage returns before line feeds. -/
def plainLineEnds : Text → Text
  | '\r' :: '\n' :: rest => '\n' :: plainLineEnds rest
  | c :: rest => c :: plainLineEnds rest
  | [] => []

/-- The table that a TOML document describes. -/
def parse [Platform] (text : Text) : Except Fault Table :=
  let text := plainLineEnds text
  (statements (text.length + 1) .empty text).map (·.root)

end NumeralStyle.Toml
