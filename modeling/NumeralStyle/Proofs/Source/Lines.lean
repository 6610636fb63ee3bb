import Mathlib
import NumeralStyle.Proofs.Source.LineEnd
import NumeralStyle.Proofs.Source.Moved

/-! Scanning line by line. A scan that comes to the end of a line carries nothing over it, unless the
line feed stands between two single quotes. So scanning some lines and then the lines below them finds
what scanning the two apart finds, the places below moved down (`Scan.ofText_lines`). -/
namespace NumeralStyle
open Text

/-- A place below other text that ends with a line feed. -/
def Position.below (front : Text) (position : Position) : Position :=
  ⟨position.line + front.count '\n', position.column, position.offset + front.length⟩

namespace Cursor

variable {cursor other : Cursor} {front more : Text}

/-- The cursor with more text behind what is ahead. -/
def append (cursor : Cursor) (more : Text) : Cursor := { cursor with ahead := cursor.ahead ++ more }

theorem append_advance {used rest : Text} (whole : cursor.ahead = used ++ rest) :
    (cursor.append more).advance used.length = (cursor.advance used.length).append more := by
  induction used generalizing cursor with
  | nil => rfl
  | cons c used ih =>
    have onward : (cursor.append more).next = cursor.next.append more := by
      simp [next, append, whole]
    rw [List.length_cons, advance, advance, onward]
    exact ih (advance_cons whole).1

/-- Places before the same text stay apart by as much. -/
theorem next_below (same : other.ahead = cursor.ahead)
    (place : other.position = cursor.position.below front) :
    other.next.position = cursor.next.position.below front := by
  cases ahead : cursor.ahead with
  | nil =>
    rw [ahead] at same
    simpa [next, ahead, same] using place
  | cons c rest =>
    rw [ahead] at same
    simp only [position, Position.below, Position.mk.injEq] at place
    by_cases feed : c = '\n'
    · simp [next, ahead, same, position, Position.below, feed]
      omega
    · simp [next, ahead, same, position, Position.below, feed]
      omega

theorem advance_below (same : other.ahead = cursor.ahead)
    (place : other.position = cursor.position.below front) (count : Nat) :
    (other.advance count).position = (cursor.advance count).position.below front := by
  induction count generalizing cursor other with
  | zero => exact place
  | succ count ih => exact ih (by rw [ahead_next, ahead_next, same]) (next_below same place)

/-- Behind a line feed a text stands as it does alone, but for the lines above. -/
theorem moved_below (ends : front.getLast? = some '\n') :
    (start more).Moved (Position.below front)
      (((start front).advance front.length).append more) := by
  have whole : (start front).ahead = front ++ [] := (List.append_nil front).symm
  obtain ⟨ahead, behind, -⟩ := advance_append whole
  have within := (within_start front).advance front.length
  obtain ⟨before, rfl⟩ := List.getLast?_eq_some_iff.mp ends
  generalize (start (before ++ ['\n'])).advance (before ++ ['\n']).length = cursor at *
  have passed : cursor.behind = '\n' :: before.reverse := by
    rw [behind]
    simp [start]
  have here : (cursor.append more).ahead = more := by
    rw [append, ahead, List.nil_append]
  refine ⟨here, ⟨?_, ?_⟩, advance_below here ?_⟩
  · simp [start, append, passed]
  · simp [start, append, isAfterPoint, passed]
  · simp [position, Position.below, start, append, within.line, within.column, within.offset,
      passed]

end Cursor

namespace Scan
open Lexeme

variable {more : Text}

/-- A scan up to a line end takes the same steps with more text behind it. -/
theorem run_append {cursor : Cursor} {tokens : List Token} (scanned : Scanned cursor tokens)
    (ends : cursor.ahead ≠ [] → EndsLine cursor.ahead more) (found : List Token) :
    run ⟨cursor.append more, found⟩ =
      run ⟨(cursor.advance cursor.ahead.length).append more, tokens.reverse ++ found⟩ := by
  induction scanned generalizing found with
  | @done cursor empty =>
    rw [empty]
    rfl
  | @skip cursor length tokens filled read _ ih =>
    obtain ⟨used, rest, whole, size, -⟩ := read_skips filled read
    obtain rfl : length = used.length := size.trans (Nat.zero_add _)
    obtain ⟨ahead, -, -⟩ := Cursor.advance_append whole
    have goesOn : isDone ⟨cursor.append more, found⟩ = false := by
      simp [isDone, Cursor.append, filled]
    have again : lexeme ⟨cursor.append more, found⟩ = .skip used.length :=
      read_append (ends filled) read
    have behind : (cursor.advance used.length).ahead ≠ [] →
        EndsLine (cursor.advance used.length).ahead more := by
      rw [ahead]
      exact fun left => (whole ▸ ends filled).rest left
    rw [run_of_step goesOn (step_skip again), Cursor.append_advance whole, ih behind,
      Cursor.advance_add, ahead, whole, List.length_append]
  | @number cursor raw rest tokens whole digit munch _ ih =>
    have filled : cursor.ahead ≠ [] := by
      obtain ⟨c, starts, -⟩ := digit
      rw [whole]
      exact List.append_ne_nil_of_left_ne_nil (List.ne_nil_of_mem (List.mem_of_mem_head? starts)) _
    have beyond : EndsLine rest more := by
      have line := ends filled
      rw [whole] at line
      exact line.rest_of_line raw munch.feed_not_mem
    obtain ⟨ahead, -, -⟩ := Cursor.advance_append whole
    have goesOn : isDone ⟨cursor.append more, found⟩ = false := by
      simp [isDone, Cursor.append, filled]
    have whole' : (Scan.mk (cursor.append more) found).cursor.ahead = raw ++ (rest ++ more) := by
      rw [Cursor.append, whole, List.append_assoc]
    have again := step_number whole' digit (munch.append beyond)
    rw [run_of_step goesOn again, Cursor.append_advance whole, ih (fun _ => ahead ▸ beyond),
      Cursor.advance_add, ahead, whole, List.length_append, List.reverse_cons, List.append_assoc]
    rfl

/-- Lines above and lines below are scanned apart: the numbers of the whole are those of the lines
above and then those of the lines below, each moved down, and so is the place of a fault below. Only
between two single quotes the line feed belongs to what is above and to what is below. -/
theorem ofText_lines {above below : Text} {first : List Token}
    (scanned : ofText (above ++ ['\n']) = .ok first)
    (apart : ¬ (above.getLast? = some '\'' ∧ below.head? = some '\'')) :
    (∀ tokens, ofText below = .ok tokens → ofText (above ++ '\n' :: below) =
      .ok (first ++ tokens.map (Token.move (Position.below (above ++ ['\n']))))) ∧
    ∀ stop, ofText below = .error stop → ofText (above ++ '\n' :: below) =
      .error (stop.move (Position.below (above ++ ['\n']))) := by
  have ends : EndsLine (above ++ ['\n']) below := by
    refine ⟨by simp, ?_⟩
    rintro ⟨before, same⟩ first
    have whole : before ++ ['\''] = above :=
      List.append_cancel_right (show before ++ ['\''] ++ ['\n'] = above ++ ['\n'] by simpa using same)
    exact apart ⟨by simp [← whole], first⟩
  have across := run_append (ofText_eq_ok_iff.mp scanned) (fun _ => ends) []
  have moved : (start below).cursor.Moved _ _ := Cursor.moved_below ends.feed
  obtain ⟨last, tokens, stop, ran, ranBelow⟩ := run_moved moved
  obtain ⟨last', ran'⟩ := ranBelow (first.reverse ++ [])
  have alone := ofText_of_run ran
  have whole : (start (above ++ ['\n'] ++ below)).run = (⟨last', _⟩, _) := across.trans ran'
  have together := ofText_of_run whole
  rw [List.append_assoc, List.singleton_append] at together
  cases stop with
  | none =>
    refine ⟨fun found same => ?_, fun stop same => ?_⟩
    · obtain rfl := Except.ok.inj (same.symm.trans alone)
      rw [together]
      simp [start]
    · cases same.symm.trans alone
  | some stop =>
    refine ⟨fun found same => ?_, fun stop same => ?_⟩
    · cases same.symm.trans alone
    · obtain rfl := Except.error.inj (same.symm.trans alone)
      exact together

/-- A number above, and below it a number and a string that does not end. -/
theorem ofText_lines_open_string :
    ofText ['1', '\n'] = .ok [⟨['1'], ⟨⟨1, 1, 0⟩, ⟨1, 2, 1⟩⟩⟩] ∧
      ofText ['1', '\n', '2', ' ', '"'] = .error (.fault ⟨.openString, ⟨2, 3, 4⟩⟩) := by
  have scanned : ofText (['1'] ++ ['\n']) = .ok [⟨['1'], ⟨⟨1, 1, 0⟩, ⟨1, 2, 1⟩⟩⟩] := by cbv
  have apart : ¬ (['1'].getLast? = some '\'' ∧ ['2', ' ', '"'].head? = some '\'') := by decide
  have alone : ofText ['2', ' ', '"'] = .error (.fault ⟨.openString, ⟨1, 3, 2⟩⟩) := by cbv
  exact ⟨scanned, (ofText_lines scanned apart).2 _ alone⟩

/-- Two quotes around a line feed are a character literal, which hides the second one from what is below
it: alone, that would start the name of a lifetime. -/
example : ofText ['\'', '\n', '\'', '1'] = .ok [⟨['1'], ⟨⟨2, 2, 3⟩, ⟨2, 3, 4⟩⟩⟩] ∧
    ofText ['\'', '1'] = .ok [] :=
  ⟨by cbv, by cbv⟩

end Scan
end NumeralStyle
