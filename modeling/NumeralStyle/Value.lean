import NumeralStyle.Number.Binary64
import NumeralStyle.Text.Oversize
import NumeralStyle.Text.Quoted

/-! Values: what a configuration file can give a name, whether the setting accepts it or not, and
what an editor sends along with a diagnostic. A value that is refused is shown in the message, with
its elements between brackets and its texts between quotes, unless it is oversize. -/
namespace NumeralStyle

/-- A day of the calendar. -/
structure Date where
  year : Nat
  month : Nat
  day : Nat
  deriving DecidableEq, Repr

/-- A time of day. -/
structure Clock where
  hour : Nat
  minute : Nat
  second : Nat
  microsecond : Nat
  deriving DecidableEq, Repr

/-- A value. -/
inductive Value
  | null
  | boolean (value : Bool)
  | integer (value : Int)
  | float (value : Binary64)
  | text (value : Text)
  | list (items : List Value)
  /-- Named values in the order in which they were given. -/
  | table (entries : List (Text × Value))
  | date (value : Date)
  | clock (value : Clock)
  /-- A date with a time of day, and the minutes by which it is ahead of universal time if known. -/
  | moment (day : Date) (time : Clock) (offset : Option Int)
  deriving Inhabited, Repr

/-- A table of named values in the order in which they were given. -/
abbrev Table := List (Text × Value)

/-- The value of a name in a table. -/
def Table.get? (entries : Table) (name : Text) : Option Value := entries.lookup name

/-- A table with a new value for a name: in place of the old one, or else at the end. -/
def Table.set (entries : Table) (name : Text) (value : Value) : Table :=
  match entries with
  | [] => [(name, value)]
  | (key, old) :: rest =>
    if key = name then (key, value) :: rest else (key, old) :: Table.set rest name value

/-- Words with a comma and a space between them. -/
def commaSeparated (words : List Text) : Text := List.intercalate [',', ' '] words

namespace Value

/-- The fields of a date in order. -/
def dateFields (date : Date) : List Nat := [date.year, date.month, date.day]

/-- The fields of a time of day in order, without a zero second or microsecond at the end. -/
def clockFields (clock : Clock) : List Nat :=
  [clock.hour, clock.minute] ++
    if clock.microsecond ≠ 0 then [clock.second, clock.microsecond]
    else if clock.second ≠ 0 then [clock.second]
    else []

/-- A length of time: its whole days, rounded down, and the seconds left over. -/
def showDuration (minutes : Int) : Text :=
  let days := minutes / 1440
  let seconds := minutes % 1440 * 60
  let named (name : String) (n : Int) : List Text :=
    if n = 0 then [] else [name.toList ++ '=' :: Text.ofInt n]
  let fields := named "days" days ++ named "seconds" seconds
  "datetime.timedelta(".toList ++ (if fields = [] then ['0'] else commaSeparated fields) ++ [')']

/-- A time zone by the minutes it is ahead of universal time. -/
def showOffset (minutes : Int) : Text :=
  if minutes = 0 then "datetime.timezone.utc".toList
  else "datetime.timezone(".toList ++ showDuration minutes ++ [')']

/-- Numbers with commas between them. -/
def showFields (fields : List Nat) : Text :=
  commaSeparated (fields.map fun (n : Nat) => Text.ofInt n)

mutual

/-- A value as messages show it. -/
def shown : Value → Text
  | .null => "None".toList
  | .boolean value => (if value then "True" else "False").toList
  | .integer value => Text.ofInt value
  | .float value => value.text
  | .text value => Text.quoted value
  | .list items => '[' :: commaSeparated (shownItems items) ++ [']']
  | .table entries => '\x7b' :: commaSeparated (shownEntries entries) ++ ['\x7d']
  | .date value => "datetime.date(".toList ++ showFields (dateFields value) ++ [')']
  | .clock value => "datetime.time(".toList ++ showFields (clockFields value) ++ [')']
  | .moment day time offset =>
    "datetime.datetime(".toList ++ showFields (dateFields day ++ clockFields time) ++
      (match offset with
        | none => []
        | some minutes => ", tzinfo=".toList ++ showOffset minutes) ++ [')']

/-- The elements of a list as messages show them. -/
def shownItems : List Value → List Text
  | [] => []
  | item :: rest => shown item :: shownItems rest

/-- The entries of a table as messages show them. -/
def shownEntries : List (Text × Value) → List Text
  | [] => []
  | (name, value) :: rest => (Text.quoted name ++ [':', ' '] ++ shown value) :: shownEntries rest

end

mutual

/-- Why a value cannot be shown, where it may hold values to some depth, itself counted. -/
def oversizeWithin? : (depth : Nat) → Value → Option Oversize
  | 0, _ => some .nesting
  | depth + 1, value =>
    match value with
    | .integer n => Oversize.ofNumeral? n
    | .list items => itemsOversize? depth items
    | .table entries => entriesOversize? depth entries
    | _ => none

/-- Why the elements of a list cannot be shown. -/
def itemsOversize? (depth : Nat) : List Value → Option Oversize
  | [] => none
  | item :: rest => (oversizeWithin? depth item).or (itemsOversize? depth rest)

/-- Why the entries of a table cannot be shown. -/
def entriesOversize? (depth : Nat) : List (Text × Value) → Option Oversize
  | [] => none
  | (_, value) :: rest => (oversizeWithin? depth value).or (entriesOversize? depth rest)

end

/-- Why a value cannot be shown, where there may be values below it to some depth. -/
def oversize? (depth : Nat) (value : Value) : Option Oversize := value.oversizeWithin? (depth + 1)

/-- What messages call the sort of a value. -/
def sort : Value → String
  | .null => "NoneType"
  | .boolean _ => "bool"
  | .integer _ => "int"
  | .float _ => "float"
  | .text _ => "str"
  | .list _ => "list"
  | .table _ => "dict"
  | .date _ => "datetime.date"
  | .clock _ => "datetime.time"
  | .moment .. => "datetime.datetime"

/-- Whether a value counts as nothing: no value, the truth value that is false, zero, and whatever
has no elements. -/
def isNothing : Value → Bool
  | .null => true
  | .boolean value => !value
  | .integer value => value == 0
  | .float value => value.isZero
  | .text value => value.isEmpty
  | .list items => items.isEmpty
  | .table entries => entries.isEmpty
  | .date _ | .clock _ | .moment .. => false

/-- The entries of a table; any other value has none. -/
def entries : Value → Table
  | .table entries => entries
  | _ => []

end Value
end NumeralStyle
