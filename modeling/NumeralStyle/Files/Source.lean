import NumeralStyle.Files.Tree
import NumeralStyle.Text.Lines
import NumeralStyle.Text.Utf8

/-! Source files. A source file is UTF-8, and its lines may end in a carriage return with or without
a line feed; both count as a line feed. -/
namespace NumeralStyle.Files

/-- Why a source file has no text. -/
inductive Fault
  /-- The path leads to no file. -/
  | unreadable (reason : String)
  | undecodable (reason : Utf8.Reason)
  /-- The path has a NUL character. -/
  | nul
  deriving DecidableEq, Repr

/-- The text of bytes. -/
def sourceOfBytes (bytes : List UInt8) : Except Fault Text :=
  match Utf8.decode bytes with
  | .ok text => .ok (Text.normalizeNewlines text)
  | .error fault => .error (.undecodable fault.reason)

/-- The text of the source file that a path leads to. -/
def source : Entry → Except Fault Text
  | .file bytes => sourceOfBytes bytes
  | .directory => .error (.unreadable "Is a directory")
  | .failed fault => .error (.unreadable fault.reason)
  | .nul => .error .nul

end NumeralStyle.Files
