import NumeralStyle.Source.Cursor
import NumeralStyle.Source.Lexeme

/-! Scanning a source text for numbers. A scan is a cursor and the tokens found so far; each step
goes past one lexeme, or stops. A scan that was stopped can be taken up again where it stopped:
only at a NUL character it has not moved. -/
namespace NumeralStyle

/-- A fault in a source text, and where it is. -/
structure ScanError where
  fault : ScanFault
  position : Position
  deriving DecidableEq, Repr

/-- Why a scan stops before the end of its text. -/
inductive Stop
  /-- The text is at fault. -/
  | fault (error : ScanError)
  /-- The text ends behind a backslash in a character literal, and the scan has no way to go on. -/
  | cutEscape
  deriving DecidableEq, Repr

/-- The reason in words. -/
def Stop.message : Stop → String
  | .fault error => error.fault.message
  | .cutEscape => "string index out of range"

/-- A scan under way. -/
structure Scan where
  cursor : Cursor
  /-- The tokens found, the last one first. -/
  found : List Token
  deriving DecidableEq, Repr

namespace Scan

/-- The scan of a text before its first step. -/
def start (text : Text) : Scan := ⟨Cursor.start text, []⟩

/-- The tokens found, in order. -/
def tokens (scan : Scan) : List Token := scan.found.reverse

/-- The lexeme ahead. -/
def lexeme (scan : Scan) : Lexeme := Lexeme.read scan.cursor.isAfterPoint scan.cursor.ahead

/-- Go past the lexeme ahead, and take it along if it is a number. At a fault the scan comes to
stand where the search for the end of the lexeme gave up. -/
def step (scan : Scan) : Scan × Option Stop :=
  let cursor := scan.cursor
  match scan.lexeme with
  | .skip length => (⟨cursor.advance length, scan.found⟩, none)
  | .number length =>
    let past := cursor.advance length
    (⟨past, ⟨cursor.ahead.take length, ⟨cursor.position, past.position⟩⟩ :: scan.found⟩, none)
  | .broken fault start length =>
    (⟨cursor.advance length, scan.found⟩, some (.fault ⟨fault, (cursor.advance start).position⟩))
  | .cutEscape length => (⟨cursor.advance length, scan.found⟩, some .cutEscape)

/-- Whether the whole text has been gone through. -/
def isDone (scan : Scan) : Bool := scan.cursor.ahead.isEmpty

theorem step_shortens {scan next : Scan} (more : scan.isDone = false)
    (stepped : scan.step = (next, none)) : next.cursor.ahead.length < scan.cursor.ahead.length := by
  have advances := @Lexeme.read_advances scan.cursor.isAfterPoint scan.cursor.ahead
  have filled : 0 < scan.cursor.ahead.length := by
    simpa [isDone, List.length_pos_iff] using more
  unfold step lexeme at stepped
  split at stepped <;> rename_i same <;> rw [same] at advances <;>
    simp only [Prod.mk.injEq, reduceCtorEq, and_false, and_true] at stepped
  · subst stepped
    simp only [Lexeme.Advances] at advances
    simp only [Cursor.ahead_advance, List.length_drop]
    omega
  · subst stepped
    simp only [Lexeme.Advances] at advances
    simp only [Cursor.ahead_advance, List.length_drop]
    omega

/-- Go on to the end of the text or to the next stop. -/
def run (scan : Scan) : Scan × Option Stop :=
  if _more : scan.isDone = false then
    match _stepped : scan.step with
    | (next, none) => run next
    | (next, some stop) => (next, some stop)
  else (scan, none)
termination_by scan.cursor.ahead.length
decreasing_by exact step_shortens ‹_› ‹_›

/-- The numbers in a text, in order. -/
def ofText (text : Text) : Except Stop (List Token) :=
  match (start text).run with
  | (scan, none) => .ok scan.tokens
  | (_, some stop) => .error stop

end Scan
end NumeralStyle
