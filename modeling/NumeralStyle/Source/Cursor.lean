import NumeralStyle.Source.Position

/-! A cursor in a text: what is behind it, what is ahead of it, and the line and column between. It
moves forward one character at a time, and a line feed starts a new line. -/
namespace NumeralStyle

/-- A cursor in a text. -/
structure Cursor where
  line : Nat
  column : Nat
  offset : Nat
  /-- The characters before the cursor, the nearest first. -/
  behind : Text
  /-- The characters from the cursor on. -/
  ahead : Text
  deriving DecidableEq, Repr

namespace Cursor

/-- The cursor at the start of a text. -/
def start (text : Text) : Cursor := ⟨1, 1, 0, [], text⟩

/-- The place of the cursor. -/
def position (cursor : Cursor) : Position := ⟨cursor.line, cursor.column, cursor.offset⟩

/-- The cursor one character on; at the end of the text it stays. -/
def next (cursor : Cursor) : Cursor :=
  match cursor.ahead with
  | [] => cursor
  | c :: rest =>
    { line := if c = '\n' then cursor.line + 1 else cursor.line
      column := if c = '\n' then 1 else cursor.column + 1
      offset := cursor.offset + 1
      behind := c :: cursor.behind
      ahead := rest }

/-- The cursor a number of characters on. -/
def advance : (count : Nat) → Cursor → Cursor
  | 0, cursor => cursor
  | count + 1, cursor => advance count cursor.next

/-- Whether one point, and not two, ends the text behind the cursor. -/
def isAfterPoint (cursor : Cursor) : Bool :=
  match cursor.behind with
  | '.' :: '.' :: _ => false
  | '.' :: _ => true
  | _ => false

theorem ahead_next (cursor : Cursor) : cursor.next.ahead = cursor.ahead.tail := by
  unfold next
  cases found : cursor.ahead <;> simp [found]

theorem ahead_advance (count : Nat) (cursor : Cursor) :
    (cursor.advance count).ahead = cursor.ahead.drop count := by
  induction count generalizing cursor with
  | zero => simp [advance]
  | succ count ih => rw [advance, ih, ahead_next, List.drop_tail]

end Cursor
end NumeralStyle
