import NumeralStyle.CommandLine.Run

/-! The program: it reads the files that a run looks at, and prints what the run prints. -/
namespace NumeralStyle

/-- What a path leads to, by the number of the fault that opening it has and by what is said of it.
The number may come with its sign changed. -/
def entryOfCode (code : UInt32) (reason : String) : Entry :=
  match min code.toNat (0 - code).toNat with
  | 21 => .directory
  | number => .failed (.ofNumber number reason)

/-- What a path leads to, by the fault that reading it has. -/
def entryOfFault : IO.Error → Entry
  | .alreadyExists _ code reason | .otherError code reason | .resourceBusy code reason
  | .resourceVanished code reason | .unsupportedOperation code reason | .hardwareFault code reason
  | .unsatisfiedConstraints code reason | .illegalOperation code reason
  | .protocolError code reason | .timeExpired code reason | .interrupted _ code reason
  | .noFileOrDirectory _ code reason | .invalidArgument _ code reason
  | .permissionDenied _ code reason | .resourceExhausted _ code reason
  | .inappropriateType _ code reason | .noSuchThing _ code reason => entryOfCode code reason
  | .unexpectedEof => .failed ⟨5, "Input/output error"⟩
  | .userError reason => .failed ⟨5, reason⟩

/-- What a path leads to. -/
def readEntry (path : Path) : IO Entry := do
  if path.names.any (·.contains '\x00') then return .nul
  try
    return .file (← IO.FS.readBinFile (String.ofList path.text)).toList
  catch fault =>
    return entryOfFault fault

/-- What the paths lead to that a run of a command line looks at. -/
def readEntries (texts : List Text) : IO (List (Path × Entry)) :=
  match CommandLine.Arguments.ofTexts texts with
  | .error _ => return []
  | .ok arguments =>
    (Settings.configPath arguments :: arguments.files.map Path.ofText).mapM fun path => do
      return (path, ← readEntry path)

end NumeralStyle

/-- Run the command line. -/
def main (words : List String) : IO UInt32 := do
  let texts := words.map String.toList
  let entries ← NumeralStyle.readEntries texts
  let look (path : NumeralStyle.Path) : NumeralStyle.Entry := (entries.lookup path).getD .missing
  let run := NumeralStyle.CommandLine.Run.ofTexts look texts
  (← IO.getStdout).putStr (String.ofList run.out)
  (← IO.getStderr).putStr (String.ofList run.err)
  if let .crashed crash := run.ending then IO.eprintln crash.message
  return UInt32.ofNat run.ending.exitCode
