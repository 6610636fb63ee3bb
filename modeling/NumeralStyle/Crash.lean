import NumeralStyle.Config
import NumeralStyle.Source.Scan

/-! Crashes: the ends that a run or an editor session can come to for which it has no words. -/
namespace NumeralStyle

/-- What ends a run where nothing is said about it. -/
inductive Crash
  /-- A source text ends behind a backslash in a character literal. -/
  | cutEscape
  /-- A configuration file cannot be read at all. -/
  | config (fault : Config.Fault)
  /-- The path of a source file has a NUL character. -/
  | nul
  /-- Something that is to be said cannot be written. -/
  | oversize (reason : Oversize)
  /-- A flag that gives a level has no name of a kind. -/
  | nameless
  deriving DecidableEq, Repr

/-- The crash in words. -/
def Crash.message [Toml.Wording] : Crash → String
  | .cutEscape => Stop.cutEscape.message
  | .config fault => fault.message
  | .nul => "embedded null byte"
  | .oversize reason => reason.message
  | .nameless => "'list' object has no attribute 'strip'"

end NumeralStyle
