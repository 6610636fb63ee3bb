import NumeralStyle.Finding.Level
import NumeralStyle.Widths

/-! The flags of the command line. Every flag has a long name, some have a letter besides, and all
but two take a value. -/
namespace NumeralStyle.CommandLine

/-- A flag of the command line. -/
inductive Flag
  | help
  /-- The configuration file to use. -/
  | config
  /-- A group width. -/
  | width (setting : WidthSetting)
  /-- A kind of finding that gets a level. -/
  | level (level : Level)
  /-- Describe every literal. -/
  | debug
  deriving DecidableEq, Repr

namespace Flag

/-- Every flag, in the order in which messages list them. -/
def all : List Flag :=
  [.help, .config, .width .decimal, .width .prefixed, .level .allow, .level .warn, .level .deny,
    .debug]

/-- The long name of a flag, without its hyphens. -/
def name : Flag → String
  | .help => "help"
  | .config => "config"
  | .width .decimal => "decimal-group-size"
  | .width .prefixed => "radix-group-size"
  | .level given => given.tag
  | .debug => "debug"

/-- The letter of a flag. -/
def letter? : Flag → Option Char
  | .help => some 'h'
  | .level .allow => some 'A'
  | .level .warn => some 'W'
  | .level .deny => some 'D'
  | .config | .width _ | .debug => none

/-- Whether the flag needs a value. -/
def takesValue : Flag → Bool
  | .help | .debug => false
  | .config | .width _ | .level _ => true

/-- The flag as its long name is written. -/
def spelling (flag : Flag) : String := "--" ++ flag.name

/-- The flag as messages name it: its letter, if it has one, and its long name. -/
def heading (flag : Flag) : String :=
  match flag.letter? with
  | some letter => "-" ++ letter.toString ++ "/" ++ flag.spelling
  | none => flag.spelling

/-- The flag of a letter. -/
def ofLetter? (letter : Char) : Option Flag := all.find? fun flag => flag.letter? == some letter

/-- The flag of a long name. -/
def ofName? (name : Text) : Option Flag := all.find? fun flag => flag.name.toList == name

/-- The flags whose long names start in a given way. -/
def startingWith (start : Text) : List Flag :=
  all.filter fun flag => start.isPrefixOf flag.name.toList

end Flag
end NumeralStyle.CommandLine
