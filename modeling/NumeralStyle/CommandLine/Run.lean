import NumeralStyle.CommandLine.Usage
import NumeralStyle.Crash
import NumeralStyle.Display.Findings
import NumeralStyle.Files.Source
import NumeralStyle.Literal.Description
import NumeralStyle.Report
import NumeralStyle.Settings

/-! A run of the command line. Files are checked one after another, and each check goes on from what
the ones before it left: it adds to the output and the error output, and makes the status of the run
graver where it has to. A file that cannot be read, decoded, scanned or analyzed has one message in the
error output and fails the run. A crash ends the run where it is. -/
namespace NumeralStyle.CommandLine

/-- How grave a run turned out to be. -/
inductive Status
  /-- Nothing is denied. -/
  | passed
  /-- Something has a finding of a kind that is denied. -/
  | denied
  /-- Something could not be checked. -/
  | failed
  deriving DecidableEq, Repr

/-- The exit code of a run with the status. -/
def Status.exitCode : Status → Nat
  | .passed => 0
  | .denied => 1
  | .failed => 2

/-- What a run has printed so far, and how it stands. -/
structure Outcome where
  /-- The output. -/
  out : Text
  /-- The error output. -/
  err : Text
  status : Status
  deriving DecidableEq, Repr

namespace Outcome

/-- The outcome before any file is checked. -/
def nothing : Outcome := ⟨[], [], .passed⟩

/-- The outcome after a check that fails with a message. -/
def fail (sofar : Outcome) (message : Text) : Outcome :=
  { sofar with err := sofar.err ++ message ++ ['\n'], status := .failed }

end Outcome

/-- The note on a literal with an unknown suffix. -/
def suffixNote (file : Text) (report : Report) : Text :=
  match report.literal.unrecognizedSuffix with
  | none => []
  | some suffix =>
    let start := report.span.start
    "note: ".toList ++ file ++ [':'] ++ Text.ofInt start.line ++ [':'] ++ Text.ofInt start.column ++
      ": unrecognized suffix `".toList ++ suffix ++ "` in `".toList ++ report.literal.raw ++
      ['`', '\n']

/-- What the error output says on a literal. -/
def remarks (debug : Bool) (file : Text) (report : Report) : Text :=
  (if debug then report.literal.description report.span else []) ++ suffixNote file report

/-- The outcome after a check of reports on the literals of a file. Only a run that still passes is
denied by it. -/
def checkReports (settings : Settings) (file source : Text) (sofar : Outcome)
    (reports : List Report) : Outcome :=
  let findings := findingsOf reports
  let denied := findings.any fun finding => settings.levels.get? finding.kind == some .deny
  { out := sofar.out ++ showFindings settings.levels findings source file
    err := sofar.err ++ reports.flatMap (remarks settings.debug file)
    status := if sofar.status = .passed ∧ denied then .denied else sofar.status }

/-- The outcome after a check of the text of a file. -/
def checkSource [Platform] (settings : Settings) (file : Text) (sofar : Outcome) (source : Text) :
    Except Crash Outcome :=
  match analyze settings.widths source with
  | .ok reports => .ok (checkReports settings file source sofar reports)
  | .error (.scan (.fault error)) => .ok (sofar.fail (error.shown source file))
  | .error (.scan .cutEscape) => .error .cutEscape
  | .error (.report (.malformed malformed)) => .ok (sofar.fail (malformed.shown (some source) file))
  | .error (.report (.oversize reason)) => .error (.oversize reason)

/-- The outcome after a check of a file, by what its path leads to. -/
def checkFile [Platform] (settings : Settings) (sofar : Outcome) (path : Path) (entry : Entry) :
    Except Crash Outcome :=
  let file := path.text
  match Files.source entry with
  | .ok source => checkSource settings file sofar source
  | .error (.unreadable reason) =>
    .ok (sofar.fail ("error: cannot read ".toList ++ file ++ ": ".toList ++ reason.toList))
  | .error (.undecodable reason) =>
    .ok (sofar.fail ("error: cannot decode ".toList ++ file ++ ": ".toList ++ reason.message.toList))
  | .error .nul => .error .nul

/-- The outcome after checks of files in order, up to the first that crashes. -/
def checkFiles [Platform] (settings : Settings) (look : Path → Entry) (sofar : Outcome) :
    List Path → Outcome × Option Crash
  | [] => (sofar, none)
  | path :: rest =>
    match checkFile settings sofar path (look path) with
    | .error crash => (sofar, some crash)
    | .ok outcome => checkFiles settings look outcome rest

/-- How a run ends. -/
inductive Ending
  /-- It was asked for help. -/
  | helped
  /-- The command line has no meaning. -/
  | misused
  /-- The settings were refused. -/
  | refused
  /-- The files were checked. -/
  | checked (status : Status)
  | crashed (crash : Crash)
  deriving DecidableEq, Repr

/-- The exit code of a run. -/
def Ending.exitCode : Ending → Nat
  | .helped => 0
  | .misused | .refused => 2
  | .checked status => status.exitCode
  | .crashed _ => 1

/-- What a run prints, and how it ends. -/
structure Run where
  out : Text
  err : Text
  ending : Ending
  deriving DecidableEq, Repr

namespace Run

/-- The run that ends before it has arguments. -/
def ofExit : Exit → Run
  | .help => ⟨help, [], .helped⟩
  | .misuse misuse => ⟨[], misuse.shown, .misused⟩

/-- The run that ends before it has settings. -/
def ofFailure [Toml.Wording] : Settings.Failure → Run
  | .refused fault => ⟨[], linesOf ["error: " ++ fault.message], .refused⟩
  | .crashed crash => ⟨[], [], .crashed crash⟩

/-- The run over the files of settings. -/
def ofSettings [Platform] (look : Path → Entry) (settings : Settings) : Run :=
  match checkFiles settings look .nothing settings.files with
  | (outcome, none) => ⟨outcome.out, outcome.err, .checked outcome.status⟩
  | (outcome, some crash) => ⟨outcome.out, outcome.err, .crashed crash⟩

/-- The run of a command line, where `look` says what paths lead to. -/
def ofTexts [Platform] [Toml.Wording] (look : Path → Entry) (texts : List Text) : Run :=
  match Arguments.ofTexts texts with
  | .error exit => ofExit exit
  | .ok arguments =>
    match Settings.resolve look arguments with
    | .error failure => ofFailure failure
    | .ok settings => ofSettings look settings

end Run
end NumeralStyle.CommandLine
