import NumeralStyle.Proofs.Source.Enclosed
import NumeralStyle.Proofs.Source.Moved

/-! What is beyond a text that hides numbers. A scan that comes to the opening of a comment or of a
quoted text goes past just what spells it, takes nothing along, and finds beyond it what it finds there
in the rest alone, with every place counted from the end of what it has gone past
(`Scan.step_construct`). Where nothing spells it, the scan stops. -/
namespace NumeralStyle
open Text

/-- The place of what is beyond a place, where it is counted as if the text started there. -/
def Position.beyond (place position : Position) : Position :=
  ⟨place.line + position.line - 1,
    if position.line = 1 then place.column + position.column - 1 else position.column,
    place.offset + position.offset⟩

namespace Cursor

/-- A cursor in a text, and one before the same text where other text is in front, up to a place. -/
structure Beyond (place : Position) (cursor other : Cursor) : Prop where
  ahead : other.ahead = cursor.ahead
  positive : 1 ≤ cursor.line
  line : (other.line : Int) = place.line + cursor.line - 1
  column : (other.column : Int) =
    if (cursor.line : Int) = 1 then place.column + cursor.column - 1 else cursor.column
  offset : (other.offset : Int) = place.offset + cursor.offset

variable {cursor other : Cursor} {place : Position}

theorem Beyond.next (beyond : Beyond place cursor other) : Beyond place cursor.next other.next := by
  obtain ⟨same, positive, line, column, offset⟩ := beyond
  cases ahead : cursor.ahead with
  | nil =>
    rw [ahead] at same
    have stays : cursor.next = cursor ∧ other.next = other := by simp [Cursor.next, ahead, same]
    rw [stays.1, stays.2]
    exact ⟨same.trans ahead.symm, positive, line, column, offset⟩
  | cons c rest =>
    rw [ahead] at same
    simp only [Cursor.next, ahead, same]
    by_cases feed : c = '\n'
    · simp only [feed, if_true]
      refine ⟨rfl, ?_, ?_, ?_, ?_⟩ <;> dsimp only
      · omega
      · omega
      · rw [if_neg (by omega)]
      · omega
    · simp only [feed, if_false]
      refine ⟨rfl, positive, line, ?_, ?_⟩ <;> dsimp only
      · split at column
        · rename_i first
          rw [if_pos first]
          omega
        · rename_i later
          rw [if_neg later]
          omega
      · omega

theorem Beyond.advance (beyond : Beyond place cursor other) (count : Nat) :
    Beyond place (cursor.advance count) (other.advance count) := by
  induction count generalizing cursor other with
  | zero => exact beyond
  | succ count ih => exact ih beyond.next

theorem Beyond.position_eq (beyond : Beyond place cursor other) :
    other.position = place.beyond cursor.position := by
  simp only [position, Position.beyond, Position.mk.injEq]
  exact ⟨beyond.line, beyond.column, beyond.offset⟩

/-- Behind anything but a point a text stands as it does alone. -/
theorem moved_beyond {c : Char} (last : cursor.behind.head? = some c) (noPoint : c ≠ '.') :
    (start cursor.ahead).Moved cursor.position.beyond cursor := by
  obtain ⟨behind, passed⟩ := List.head?_eq_some_iff.mp last
  have clear : cursor.isAfterPoint = false := by
    refine Bool.eq_false_iff.mpr fun after => noPoint ?_
    exact ((isAfterPoint_iff passed).mp after).1
  have here : Beyond cursor.position (start cursor.ahead) cursor := by
    refine ⟨rfl, Nat.le_refl 1, ?_, ?_, ?_⟩ <;> simp [position, start]
  refine ⟨rfl, ⟨?_, clear.symm⟩, fun count => (here.advance count).position_eq⟩
  rw [last]
  simp [start, noPoint]

end Cursor

namespace Scan

variable {scan : Scan}

/-- A scan goes on where it does not come to anything broken. -/
theorem step_eq_none_iff :
    scan.step.2 = none ↔ ∃ length, scan.lexeme = .skip length ∨ scan.lexeme = .number length := by
  cases found : scan.lexeme <;> simp [step, found]

/-- What a run finds behind a step that went on is what it finds in the rest alone. -/
theorem run_beyond {used rest : Text} {c : Char} (whole : scan.cursor.ahead = used ++ [c] ++ rest)
    (noPoint : c ≠ '.') (found : scan.lexeme = .skip (used ++ [c]).length) :
    scan.run.1.tokens = scan.tokens ++ (start rest).run.1.tokens.map
        (Token.move (scan.cursor.advance (used ++ [c]).length).position.beyond) ∧
      scan.run.2 = (start rest).run.2.map
        (Stop.move (scan.cursor.advance (used ++ [c]).length).position.beyond) := by
  obtain ⟨ahead, behind, -⟩ := Cursor.advance_append whole
  have filled : scan.isDone = false := by simp [isDone, whole]
  rw [run_of_step filled (step_skip found)]
  generalize scan.cursor.advance (used ++ [c]).length = beyond at *
  have last : beyond.behind.head? = some c := by
    rw [behind]
    simp
  have moved : (start rest).cursor.Moved beyond.position.beyond beyond :=
    ahead ▸ Cursor.moved_beyond last noPoint
  obtain ⟨_, tokens, stop, ran, ranBeyond⟩ := run_moved moved
  obtain ⟨_, ranBeyond⟩ := ranBeyond scan.found
  rw [ran, ranBeyond]
  simp [Scan.tokens, start]

/-- A scan at the opening of a construct goes on exactly where a spelling of the construct stands there,
and stops otherwise. There is then only one spelling, so none is shorter; the scan goes past it without a
token, and from there on it finds what it finds in the rest alone, and stops as it does there. -/
theorem step_construct {construct : Construct} {opener : Text}
    (opens : construct.Opening opener) (leads : opener <+: scan.cursor.ahead) :
    (scan.step.2 = none ↔ ∃ used, used <+: scan.cursor.ahead ∧ construct.Spelling used) ∧
    ∀ used rest, scan.cursor.ahead = used ++ rest → construct.Spelling used →
      (∀ other, other <+: scan.cursor.ahead → construct.Spelling other → other = used) ∧
      scan.step = (⟨scan.cursor.advance used.length, scan.found⟩, none) ∧
      scan.run.1.tokens = scan.tokens ++ (start rest).run.1.tokens.map
        (Token.move (scan.cursor.advance used.length).position.beyond) ∧
      scan.run.2 = (start rest).run.2.map
        (Stop.move (scan.cursor.advance used.length).position.beyond) := by
  have exact (length : Nat) : scan.lexeme = .skip length ↔
      ∃ used rest, scan.cursor.ahead = used ++ rest ∧ construct.Spelling used ∧
        length = used.length := Construct.read_eq_skip_iff opens leads
  refine ⟨?_, fun used rest whole spelled => ?_⟩
  · rw [step_eq_none_iff]
    constructor
    · rintro ⟨length, skips | isNumber⟩
      · obtain ⟨used, rest, whole, spelled, -⟩ := (exact length).mp skips
        exact ⟨used, ⟨rest, whole.symm⟩, spelled⟩
      · exact absurd isNumber (Construct.read_ne_number opens leads)
    · rintro ⟨used, ⟨rest, whole⟩, spelled⟩
      exact ⟨used.length, .inl ((exact _).mpr ⟨used, rest, whole.symm, spelled, rfl⟩)⟩
  · have found : scan.lexeme = .skip used.length := (exact _).mpr ⟨used, rest, whole, spelled, rfl⟩
    refine ⟨?_, step_skip found, ?_⟩
    · rintro other ⟨behind, same⟩ spelled'
      have again := (exact _).mpr ⟨other, behind, same.symm, spelled', rfl⟩
      have size : other.length = used.length := Lexeme.skip.inj (again.symm.trans found)
      exact List.append_inj_left (same.trans whole) size
    · obtain ⟨before, c, rfl, closes⟩ := spelled.exists_last
      exact run_beyond whole (Construct.ne_point_of_closers closes) found

/-- A comment with a comment in it, right before a number. -/
theorem step_construct_nested_comment :
    ['/', '*'] <+: ['/', '*', '/', '*', '*', '/', '1', '*', '/', '2'] ∧
      (start ['/', '*', '/', '*', '*', '/', '1', '*', '/', '2']).step.2 = none ∧
      (start ['/', '*', '/', '*', '*', '/', '1', '*', '/', '2']).run.1.tokens =
        [⟨['2'], ⟨⟨1, 10, 9⟩, ⟨1, 11, 10⟩⟩⟩] := by
  have leads : ['/', '*'] <+: ['/', '*', '/', '*', '*', '/', '1', '*', '/', '2'] := by decide
  have rest : CommentRest ['/', '*', '*', '/', '1', '*', '/'] :=
    @CommentRest.comment ['*', '/'] ['1', '*', '/'] .closer (.char (by decide) (by decide) .closer)
  obtain ⟨-, exactly⟩ :=
    @step_construct (start ['/', '*', '/', '*', '*', '/', '1', '*', '/', '2']) _ _ .comment leads
  obtain ⟨-, stepped, tokens, -⟩ := exactly _ ['2'] rfl (.comment rest)
  refine ⟨leads, congrArg Prod.snd stepped, tokens.trans ?_⟩
  decide +kernel

/-- A slash between an opener and a closer opens another comment, which then has no closer. -/
example : ofText ['/', '*', '/', '*', '/'] = .error (.fault ⟨.openComment, ⟨1, 1, 0⟩⟩) := by
  decide +kernel

end Scan
end NumeralStyle
