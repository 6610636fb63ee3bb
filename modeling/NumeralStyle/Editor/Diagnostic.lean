import NumeralStyle.Crash
import NumeralStyle.Report

/-! Diagnostics for editors. Lines and characters of a range count from zero. A source text that has
an analysis gives a warning for each of its findings, in order; one at fault gives a single error.
-/
namespace NumeralStyle.Editor

/-- A place in a document; its line and its character count from zero. -/
structure Place where
  line : Int
  character : Int
  deriving DecidableEq, Repr

/-- A range of a document: where it starts, and the place just past its end. -/
structure Range where
  start : Place
  stop : Place
  deriving DecidableEq, Repr

/-- How grave a diagnostic is. -/
inductive Severity
  | error
  | warning
  deriving DecidableEq, Repr

/-- What an editor is told about a range of a document. One that an editor sends back may have a
code and a payload of any sort. -/
structure Diagnostic where
  range : Range
  message : String
  severity : Option Severity
  code : Option Value
  /-- Who says it. -/
  source : Option String
  /-- What it carries along for its fixes. -/
  payload : Option Value
  deriving Repr

/-- The name under which diagnostics are published. -/
def publisher : String := "numlit"

/-- The place of a position. -/
def Place.ofPosition (position : Position) : Place := ⟨position.line - 1, position.column - 1⟩

/-- The range of a span. -/
def Range.ofSpan (span : Span) : Range := ⟨.ofPosition span.start, .ofPosition span.stop⟩

/-- What is wrong with a range, if anything, where `fault?` says what is wrong with places. -/
def Range.fault? {Fault : Type} (fault? : Place → Option Fault) (range : Range) : Option Fault :=
  (fault? range.start).or (fault? range.stop)

/-- The range of one character. -/
def Range.ofCharacter (position : Position) : Range :=
  let start := Place.ofPosition position
  ⟨start, { start with character := start.character + 1 }⟩

namespace Diagnostic

/-- An error without a code and without fixes. -/
def error (range : Range) (message : String) : Diagnostic :=
  ⟨range, message, some .error, none, some publisher, none⟩

/-- The message of a finding, with its help in parentheses where that has any words. -/
def messageOf (finding : Finding) : String :=
  match finding.help with
  | none => finding.message
  | some help =>
    if help.isEmpty then finding.message else finding.message ++ " (" ++ help ++ ")"

/-- The warning of a finding. -/
def ofFinding (finding : Finding) : Diagnostic where
  range := .ofSpan finding.span
  message := messageOf finding
  severity := some .warning
  code := some (.text finding.kind.tag.toList)
  source := some publisher
  payload :=
    if finding.suggestions = [] then none else some (.list (finding.suggestions.map .text))

/-- A diagnostic with a range that editors accept, where `fault?` says what is wrong with places. One
that comes from outside may have any range. -/
def accepted {Fault : Type} (fault? : Place → Option Fault) (diagnostic : Diagnostic) :
    Except Fault Diagnostic :=
  match diagnostic.range.fault? fault? with
  | some fault => .error fault
  | none => .ok diagnostic

/-- The diagnostics of a source text. -/
def ofSource [Platform] (widths : Widths) (source : Text) : Except Crash (List Diagnostic) :=
  match analyze widths source with
  | .ok reports => .ok ((findingsOf reports).map ofFinding)
  | .error (.scan (.fault fault)) => .ok [error (.ofCharacter fault.position) fault.fault.message]
  | .error (.scan .cutEscape) => .error .cutEscape
  | .error (.report (.malformed malformed)) =>
    .ok [error (.ofSpan malformed.span) malformed.fault.message]
  | .error (.report (.oversize reason)) => .error (.oversize reason)

end Diagnostic
end NumeralStyle.Editor
