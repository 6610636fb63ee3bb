import NumeralStyle.Text.Integer
import NumeralStyle.Toml.Lexical
import NumeralStyle.Value

/-! Numbers, dates and times of a TOML document. A reader gives `none` where the text ahead starts
with nothing of its kind, and takes the longest stretch that is of its kind. -/
namespace NumeralStyle.Toml

/-- The digits at the start of a text, with single underscores between them, and the rest. -/
def digitRun (isDigit : Char → Bool) : Text → Text × Text
  | [] => ([], [])
  | [c] => if isDigit c then ([c], []) else ([], [c])
  | c :: d :: rest =>
    if isDigit c then
      let (digits, behind) := digitRun isDigit (d :: rest)
      (c :: digits, behind)
    else if c == '_' && isDigit d then
      let (digits, behind) := digitRun isDigit rest
      (d :: digits, behind)
    else ([], c :: d :: rest)

/-- The digits at the start of a text, the first of which no underscore precedes. -/
def digits (isDigit : Char → Bool) (text : Text) : Option (Text × Text) :=
  match text with
  | c :: _ => if isDigit c then some (digitRun isDigit text) else none
  | [] => none

/-- The number that digits denote in a base. -/
def ofDigits (base : Nat) (digits : Text) : Nat :=
  Text.ofDigitValues base (digits.map fun c => (Text.hexValue? c).getD 0)

/-- An integer behind the lead of its base. -/
def prefixedInteger? (text : Text) : Option (Value × Text) :=
  let within (base : Nat) (text : Text) : Option (Value × Text) :=
    (digits (fun c => (Text.hexValue? c).any (· < base)) text).map fun read =>
      (.integer (ofDigits base read.1), read.2)
  match text with
  | '0' :: 'x' :: rest => within 16 rest
  | '0' :: 'o' :: rest => within 8 rest
  | '0' :: 'b' :: rest => within 2 rest
  | _ => none

/-- The sign at the start of a text: whether it is a minus, and the text behind it. -/
def sign : Text → Bool × Text
  | '-' :: rest => (true, rest)
  | '+' :: rest => (false, rest)
  | text => (false, text)

/-- The whole part of a decimal number: a zero, or digits that start with none. -/
def wholePart? (text : Text) : Option (Text × Text) :=
  match text with
  | '0' :: rest => some (['0'], rest)
  | text => digits (·.isDigit) text

/-- The digits behind a point; there have to be some. -/
def fractionPart? (text : Text) : Option (Text × Text) :=
  match text with
  | '.' :: rest => digits (·.isDigit) rest
  | _ => none

/-- The number behind the letter of an exponent; it has to have digits. -/
def exponentPart? (text : Text) : Option (Int × Text) :=
  match text with
  | letter :: rest =>
    if letter == 'e' || letter == 'E' then
      let (negative, rest) := sign rest
      (digits (·.isDigit) rest).map fun read =>
        (if negative then -(ofDigits 10 read.1 : Int) else ofDigits 10 read.1, read.2)
    else none
  | [] => none

/-- A decimal number: with a fraction or an exponent it is a floating point number, and otherwise an
integer. -/
def decimal? (text : Text) : Option (Except Fault Value × Text) :=
  let (negative, unsigned) := sign text
  (wholePart? unsigned).map fun (whole, rest) =>
    let fraction := fractionPart? rest
    let rest := (fraction.map (·.2)).getD rest
    let exponent := exponentPart? rest
    let rest := (exponent.map (·.2)).getD rest
    if fraction.isNone && exponent.isNone then
      let number : Int := ofDigits 10 whole
      if whole.length ≤ Text.digitLimit then
        (.ok (.integer (if negative then -number else number)), rest)
      else (.error (.longInteger whole.length), rest)
    else
      let places := (fraction.map (·.1)).getD []
      let power := (exponent.map (·.1)).getD 0 - places.length
      (.ok (.float (Binary64.ofDecimal negative (ofDigits 10 (whole ++ places)) power)), rest)

/-- A floating point number that is not finite. -/
def special? (text : Text) : Option (Value × Text) :=
  match sign text with
  | (negative, 'i' :: 'n' :: 'f' :: rest) => some (.float (.infinite negative), rest)
  | (_, 'n' :: 'a' :: 'n' :: rest) => some (.float .nan, rest)
  | _ => none

/-- A number of two digits within bounds. -/
def twoDigits? (least greatest : Nat) (text : Text) : Option (Nat × Text) :=
  match text with
  | a :: b :: rest =>
    let number := ofDigits 10 [a, b]
    if a.isDigit && b.isDigit && least ≤ number && number ≤ greatest then some (number, rest)
    else none
  | _ => none

/-- The text behind a character. -/
def behind? (c : Char) (text : Text) : Option Text :=
  match text with
  | d :: rest => if c = d then some rest else none
  | [] => none

/-- The millionths behind a point, where there are any. Digits behind the sixth are passed over. -/
def microseconds (text : Text) : Nat × Text :=
  match text with
  | '.' :: rest =>
    let places := rest.takeWhile (·.isDigit)
    if places.isEmpty then (0, text)
    else (ofDigits 10 (places.take 6) * tenTo (6 - places.length), rest.drop places.length)
  | _ => (0, text)

/-- A time of day. -/
def clock? (text : Text) : Option (Clock × Text) := do
  let (hour, rest) ← twoDigits? 0 23 text
  let (minute, rest) ← twoDigits? 0 59 (← behind? ':' rest)
  let (second, rest) ← twoDigits? 0 59 (← behind? ':' rest)
  let (microsecond, rest) := microseconds rest
  return (⟨hour, minute, second, microsecond⟩, rest)

/-- A distance from universal time, in minutes. -/
def offset? (text : Text) : Option (Int × Text) :=
  match text with
  | 'Z' :: rest | 'z' :: rest => some (0, rest)
  | mark :: rest => do
    guard (mark == '+' || mark == '-')
    let (hours, rest) ← twoDigits? 0 23 rest
    let (minutes, rest) ← twoDigits? 0 59 (← behind? ':' rest)
    let distance : Int := hours * 60 + minutes
    return (if mark == '-' then -distance else distance, rest)
  | [] => none

/-- A date by its numbers, of which the month and the day are within the bounds of some month. -/
def date? (text : Text) : Option (Date × Text) := do
  let (century, rest) ← twoDigits? 0 99 text
  let (year, rest) ← twoDigits? 0 99 rest
  let (month, rest) ← twoDigits? 1 12 (← behind? '-' rest)
  let (day, rest) ← twoDigits? 1 31 (← behind? '-' rest)
  return (⟨century * 100 + year, month, day⟩, rest)

/-- The days of a month. -/
def daysIn (year month : Nat) : Nat :=
  if month = 2 then
    if year % 4 = 0 ∧ (year % 100 ≠ 0 ∨ year % 400 = 0) then 29 else 28
  else if month = 4 ∨ month = 6 ∨ month = 9 ∨ month = 11 then 30
  else 31

/-- Whether there is such a day. -/
def isDay (date : Date) : Bool := 1 ≤ date.year && date.day ≤ daysIn date.year date.month

/-- A date, with a time of day behind it or without one. -/
def moment? (text : Text) : Option (Except Fault Value × Text) := do
  let (day, rest) ← date? text
  let checked (value : Value) : Except Fault Value :=
    if isDay day then .ok value else .error .invalidDate
  let time := do
    let mark ← rest.head?
    guard (mark == 'T' || mark == 't' || mark == ' ')
    clock? rest.tail
  match time with
  | none => return (checked (.date day), rest)
  | some (time, rest) =>
    match offset? rest with
    | none => return (checked (.moment day time none), rest)
    | some (offset, rest) => return (checked (.moment day time (some offset)), rest)

/-- The number, date or time at the start of a text. -/
def scalar? (text : Text) : Except Fault (Value × Text) :=
  match moment? text with
  | some (read, rest) => read.map (·, rest)
  | none =>
    match clock? text with
    | some (time, rest) => .ok (.clock time, rest)
    | none =>
      match prefixedInteger? text with
      | some read => .ok read
      | none =>
        match decimal? text with
        | some (read, rest) => read.map (·, rest)
        | none =>
          match special? text with
          | some read => .ok read
          | none => .error (.expected "a value")

end NumeralStyle.Toml
