import NumeralStyle.CommandLine.Arguments
import NumeralStyle.Crash

/-! The settings of a run, put together from a configuration and the arguments of a command line. A
width that an argument gives hides the one in the configuration. Levels are set one after another,
those of the configuration in its order first, then those of the arguments from the mildest level to
the strictest, so a later one counts. -/
namespace NumeralStyle

open CommandLine (Arguments Choices)

/-- What a run goes by. -/
structure Settings where
  files : List Path
  widths : Widths
  levels : Levels
  /-- Whether every literal is described. -/
  debug : Bool

namespace Settings

/-- Why settings are refused. -/
inductive Fault
  /-- A document that is none. -/
  | config (text : Text) (fault : Toml.Fault)
  | widths (fault : Widths.Fault)
  /-- A value that is no level. -/
  | level (value : Value) (name : Text)
  | lint (unknown : FindingKind.Unknown)

/-- The fault in words. -/
def Fault.message [Toml.Wording] : Fault → String
  | .config text fault => "invalid config file: " ++ fault.message text
  | .widths fault => fault.message
  | .level value name =>
    "invalid level " ++ String.ofList value.shown ++ " for lint " ++ Text.quotedString name ++
      " (expected allow, warn or deny)"
  | .lint unknown => unknown.message

/-- Why there are no settings. -/
inductive Failure
  | refused (fault : Fault)
  | crashed (crash : Crash)

/-- What a value that is no level leads to: to a crash where it cannot be shown. -/
def Failure.ofLevel [Platform] (value : Value) (name : Text) : Failure :=
  match value.oversize? Platform.levelDepth with
  | none => .refused (.level value name)
  | some reason => .crashed (.oversize reason)

/-- What a setting that gives no width leads to. -/
def Failure.ofWidths (fault : Widths.Fault) : Failure :=
  match fault.crash? with
  | none => .refused (.widths fault)
  | some reason => .crashed (.oversize reason)

/-- What a fault of the configuration file leads to: only a fault of its syntax is refused. -/
def Failure.ofConfig : Config.Fault → Failure
  | .document text fault =>
    if fault.isSyntax then .refused (.config text fault)
    else .crashed (.config (.document text fault))
  | fault => .crashed (.config fault)

/-- The level that a value names. -/
def level? : Value → Option Level
  | .text name => Level.ofTag? name
  | _ => none

/-- Give the kind of a name a level. -/
def setNamed (levels : Levels) (name : Text) (level : Level) : Except Failure Levels :=
  match FindingKind.ofTag name with
  | .ok kind => .ok (levels.set kind level)
  | .error unknown => .error (.refused (.lint unknown))

/-- Give the kind of a name the level of a value. The value is looked at before the name. -/
def setEntry [Platform] (levels : Levels) (entry : Text × Value) : Except Failure Levels :=
  match level? entry.2 with
  | none => .error (.ofLevel entry.2 entry.1)
  | some level => setNamed levels entry.1 level

/-- Give the kind that a flag names a level. -/
def setFlag (level : Level) (levels : Levels) (name : Option Text) : Except Failure Levels :=
  match name with
  | some name => setNamed levels name level
  | none => .error (.crashed .nameless)

/-- Give the kinds that flags name for a level that level. -/
def setFlags (choices : Choices) (levels : Levels) (level : Level) : Except Failure Levels :=
  (choices.named level).foldlM (setFlag level) levels

/-- The levels that a configuration and flags give. -/
def levelsOf [Platform] (config : Table) (choices : Choices) : Except Failure Levels := do
  let levels ← (Config.section? config "lints").foldlM setEntry []
  Level.all.foldlM (setFlags choices) levels

/-- The settings that a configuration and arguments give. -/
def merge [Platform] (config : Table) (arguments : Arguments) : Except Failure Settings := do
  let widths ← (Config.widths config arguments.width?).mapError Failure.ofWidths
  let levels ← levelsOf config arguments.toChoices
  return ⟨arguments.files.map Path.ofText, widths, levels, arguments.debug⟩

/-- The configuration file of a run: the one that an argument names, or else the one beside the
first file. An empty name names none. -/
def configPath (arguments : Arguments) : Path :=
  match arguments.config with
  | some (c :: rest) => Path.ofText (c :: rest)
  | some [] | none => Config.beside (Path.ofText (arguments.files.head arguments.files_ne_nil))

/-- The settings that arguments give, where `look` says what paths lead to. -/
def resolve [Platform] (look : Path → Entry) (arguments : Arguments) :
    Except Failure Settings := do
  let config ← (Config.load look (configPath arguments)).mapError Failure.ofConfig
  merge config arguments

end Settings
end NumeralStyle
