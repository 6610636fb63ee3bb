import NumeralStyle.Display.Snippet
import NumeralStyle.Finding.Level

/-! Findings as text. Each is a snippet with its help and suggestions below; a report is the
findings that are not allowed, with a blank line between them, and a summary that counts errors and
warnings. -/
namespace NumeralStyle

/-- A line of help under a snippet. -/
def helpRow (help : Text) : Text := "  = help: ".toList ++ help

/-- The help of a finding, where it has any words, and its suggestions. -/
def Advice.helpRows (advice : Advice) : List Text :=
  (match advice.help with
    | some help => if help.isEmpty then [] else [helpRow help.toList]
    | none => []) ++
  advice.suggestions.map fun spelling => helpRow ("try `".toList ++ spelling ++ ['`'])

/-- A finding in its source text, called a warning or an error by its level. -/
def Finding.shown (finding : Finding) (source file : Text) (level : Level) : Text :=
  let heading := level.label.toList ++ ['['] ++ finding.kind.tag.toList ++ "]: ".toList ++
    finding.message.toList
  List.intercalate ['\n']
    (Snippet.text heading source finding.span.start (some finding.span.stop) file ::
      finding.helpRows)

/-- A count with its noun, in the plural unless the count is one. -/
def counted (count : Nat) (noun : String) : Text :=
  Text.ofInt count ++ [' '] ++ noun.toList ++ if count = 1 then [] else ['s']

/-- The line that ends a report. -/
def summary (file : Text) (errors warnings : Nat) : Text :=
  let counts := (if errors = 0 then [] else [counted errors "error"]) ++
    if warnings = 0 then [] else [counted warnings "warning"]
  file ++ ": ".toList ++ List.intercalate [',', ' '] counts ++ " emitted".toList

/-- The report on findings with their levels; empty where every one is allowed. -/
def showReport (findings : List (Finding × Level)) (source file : Text) : Text :=
  let reported := findings.filter fun entry => entry.2 != .allow
  if reported.isEmpty then []
  else
    let blocks := reported.map fun entry => entry.1.shown source file entry.2
    let errors := reported.countP fun entry => entry.2 == .deny
    List.intercalate ['\n', '\n'] (blocks ++ [summary file errors (reported.length - errors)]) ++
      ['\n']

/-- The report on findings, with the level of each kind. -/
def showFindings (levels : Levels) (findings : List Finding) (source file : Text) : Text :=
  showReport (findings.map fun finding => (finding, levels.levelOf finding.kind)) source file

/-- A level that a report asks for and that has no meaning. -/
structure UnknownLevel where
  name : Text
  deriving DecidableEq, Repr

/-- The fault in words. -/
def UnknownLevel.message (unknown : UnknownLevel) : String := Text.quotedString unknown.name

/-- The level of a finding where kinds are given levels by name; a kind without one is a warning. -/
def namedLevel (names : List (FindingKind × Text)) (finding : Finding) :
    Except UnknownLevel (Finding × Level) :=
  match names.lookup finding.kind with
  | none => .ok (finding, .warn)
  | some name =>
    match Level.ofTag? name with
    | some level => .ok (finding, level)
    | none => .error ⟨name⟩

/-- The report on findings where kinds are given levels by name. A name without meaning is a fault
only where a finding has it; the first such finding counts. -/
def showNamed (names : List (FindingKind × Text)) (findings : List Finding) (source file : Text) :
    Except UnknownLevel Text := do
  return showReport (← findings.mapM (namedLevel names)) source file

end NumeralStyle
