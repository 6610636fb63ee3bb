import NumeralStyle.Source.Scan
import NumeralStyle.Report
import NumeralStyle.Text.Lines

/-! Snippets: a heading, the place it is about, and the line of that place behind a gutter,
underlined from the place on. The gutter is as wide as the number of the line needs. A place within
the source always has a snippet; one that comes from outside may be too far to the side. -/
namespace NumeralStyle

/-- The file name shown where none is known. -/
def unnamedFile : Text := "input.rs".toList

namespace Snippet

/-- A number of copies of a character; none where the number is negative. -/
def repeated (c : Char) (count : Int) : Text := List.replicate count.toNat c

/-- The number of columns to underline from `start` on in a line. The underline ends at `stop` where
that is on the same line, and at the end of the line otherwise; it is never empty. -/
def underlineWidth (line : Text) (start : Position) (stop : Option Position) : Int :=
  match stop with
  | some stop =>
    if stop.line = start.line then max 1 (stop.column - start.column)
    else max 1 (line.length - start.column + 1)
  | none => max 1 (line.length - start.column + 1)

/-- The rows of a snippet below its heading. -/
def rows (source : Text) (start : Position) (stop : Option Position) (file : Text) : List Text :=
  let line := Text.lineAt source start.line
  let number := Text.ofInt start.line
  let gutter := List.replicate (number.length + 1) ' '
  [gutter ++ "--> ".toList ++ file ++ [':'] ++ number ++ [':'] ++ Text.ofInt start.column,
   gutter ++ ['|'],
   number ++ " | ".toList ++ line,
   gutter ++ "| ".toList ++ repeated ' ' (start.column - 1) ++
     repeated '^' (underlineWidth line start stop)]

/-- Why a snippet cannot be shown. The blanks before its underline come before the underline. -/
def oversize? [Platform] (source : Text) (start : Position) (stop : Option Position) :
    Option Oversize :=
  (Oversize.ofRepetition? (start.column - 1)).or
    (Oversize.ofRepetition? (underlineWidth (Text.lineAt source start.line) start stop))

/-- A snippet under a heading. -/
def text (heading : Text) (source : Text) (start : Position) (stop : Option Position)
    (file : Text) : Text :=
  List.intercalate ['\n'] (heading :: rows source start stop file)

end Snippet

/-- The heading of a fault. -/
def faultHeading (message : String) : Text := "error: ".toList ++ message.toList

/-- Where the underline of a fault ends: behind two columns, or as many as the line still has. -/
def faultStop (position : Position) (source : Text) : Position :=
  let left := (Text.lineAt source position.line).length - position.column + 1
  let width := max 1 (min 2 left)
  ⟨position.line, position.column + width, position.offset + width⟩

/-- A fault at a place of a source. -/
def showFault (message : String) (position : Position) (source file : Text) : Text :=
  Snippet.text (faultHeading message) source position (some (faultStop position source)) file

/-- A fault of a literal, shown on its own where its source is not at hand. -/
def showMalformed (message : String) (raw : Text) (span : Span) (source : Option Text)
    (file : Text) : Text :=
  match source with
  | some source =>
    Snippet.text (faultHeading message) source span.start (some span.stop) file
  | none =>
    let whole := Span.ofText raw
    Snippet.text (faultHeading message) raw whole.start (some whole.stop) file

/-- The fault of a source text in its text. -/
def ScanError.shown (error : ScanError) (source file : Text) : Text :=
  showFault error.fault.message error.position source file

/-- The fault of a literal in the text it comes from. -/
def Malformed.shown (malformed : Malformed) (source : Option Text) (file : Text) : Text :=
  showMalformed malformed.fault.message malformed.raw malformed.span source file

end NumeralStyle
