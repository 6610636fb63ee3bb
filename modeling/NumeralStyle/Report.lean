import NumeralStyle.Check.Grouping
import NumeralStyle.Check.Spelling
import NumeralStyle.Literal.Parse
import NumeralStyle.Source.Scan

/-! Reports on literals: the literal taken apart, and the findings of every check on it in a fixed
order, which is casing, suffix separation, leading zeros and grouping. The analysis of a source text
is a report on each number in it. A text is scanned as a whole before any of its numbers is looked
at, so a fault of the text comes before that of a number. -/
namespace NumeralStyle

/-- A text that was to be a literal and is none. -/
structure Malformed where
  fault : Literal.Fault
  raw : Text
  span : Span
  deriving DecidableEq, Repr

/-- What every check says about a literal, in order. -/
def Literal.verdicts (widths : Widths) (literal : Literal) : List (Option Advice) :=
  [Check.casing literal, Check.suffixSeparation literal, Check.leadingZero literal,
    Check.grouping widths literal]

/-- What there is to say about a literal, in the order of the checks. -/
def Literal.advice (widths : Widths) (literal : Literal) : List Advice :=
  (literal.verdicts widths).filterMap id

/-- Why there is no report on a token. -/
inductive ReportFault
  | malformed (malformed : Malformed)
  /-- There is advice on the literal that cannot be written. -/
  | oversize (reason : Oversize)
  deriving DecidableEq, Repr

/-- The findings on the literal at a place. -/
structure Report where
  literal : Literal
  span : Span
  findings : List Finding
  deriving DecidableEq, Repr

namespace Report

/-- The report on a token. -/
def ofToken [Platform] (widths : Widths) (token : Token) : Except ReportFault Report :=
  match Literal.parse token.raw with
  | .error fault => .error (.malformed ⟨fault, token.raw, token.span⟩)
  | .ok literal =>
    match Check.groupingOversize? widths literal with
    | some reason => .error (.oversize reason)
    | none => .ok ⟨literal, token.span, (literal.advice widths).map (·.at token.span)⟩

/-- The reports on tokens, up to the first that has none. -/
def ofTokens [Platform] (widths : Widths) : List Token → List Report × Option ReportFault
  | [] => ([], none)
  | token :: rest =>
    match ofToken widths token with
    | .error fault => ([], some fault)
    | .ok report =>
      let (reports, fault) := ofTokens widths rest
      (report :: reports, fault)

end Report

/-- Why a source text has no analysis. -/
inductive AnalysisFault
  | scan (stop : Stop)
  | report (fault : ReportFault)
  deriving DecidableEq, Repr

/-- The reports on the numbers of a source text, in order. -/
def analyze [Platform] (widths : Widths) (source : Text) : Except AnalysisFault (List Report) :=
  match Scan.ofText source with
  | .error stop => .error (.scan stop)
  | .ok tokens =>
    match Report.ofTokens widths tokens with
    | (_, some fault) => .error (.report fault)
    | (reports, none) => .ok reports

/-- The findings of reports, in order. -/
def findingsOf (reports : List Report) : List Finding := reports.flatMap (·.findings)

end NumeralStyle
