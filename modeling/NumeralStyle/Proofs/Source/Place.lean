import NumeralStyle.Proofs.Source.Scanned

/-! Places of tokens. Wherever a scan of a text comes to stand, what is behind it and what is ahead of
it make up the text, and its line, column and offset count what is behind it (`Cursor.Within`). So do
the places of the tokens that it finds, and these lie one behind the other (`Scanned.places`,
`Scanned.starts_increase`). -/
namespace NumeralStyle

namespace Cursor

variable {cursor other : Cursor}

theorem advance_cons {c : Char} {used rest : Text} (whole : cursor.ahead = c :: used ++ rest) :
    cursor.next.ahead = used ++ rest ∧ cursor.next.behind = c :: cursor.behind ∧
      cursor.next.offset = cursor.offset + 1 := by
  rw [List.cons_append] at whole
  simp [next, whole]

theorem advance_append {used rest : Text} (whole : cursor.ahead = used ++ rest) :
    (cursor.advance used.length).ahead = rest ∧
      (cursor.advance used.length).behind = used.reverse ++ cursor.behind ∧
      (cursor.advance used.length).offset = cursor.offset + used.length := by
  induction used generalizing cursor with
  | nil => exact ⟨whole, rfl, rfl⟩
  | cons c used ih =>
    obtain ⟨ahead, behind, offset⟩ := advance_cons whole
    obtain ⟨ahead', behind', offset'⟩ := ih ahead
    rw [List.length_cons, advance]
    refine ⟨ahead', ?_, ?_⟩
    · rw [behind', behind]
      simp
    · rw [offset', offset]
      omega

theorem offset_le_next (cursor : Cursor) : cursor.offset ≤ cursor.next.offset := by
  unfold next
  split
  · exact Nat.le_refl _
  · exact Nat.le_succ _

theorem offset_le_advance (count : Nat) (cursor : Cursor) :
    cursor.offset ≤ (cursor.advance count).offset := by
  induction count generalizing cursor with
  | zero => exact Nat.le_refl _
  | succ count ih => exact Nat.le_trans cursor.offset_le_next (ih cursor.next)

/-- The cursor is a place in a text: it counts what is behind it. -/
structure Within (source : Text) (cursor : Cursor) : Prop where
  whole : cursor.behind.reverse ++ cursor.ahead = source
  offset : cursor.offset = cursor.behind.length
  line : cursor.line = 1 + cursor.behind.count '\n'
  column : cursor.column = 1 + (cursor.behind.takeWhile (· != '\n')).length

theorem within_start (source : Text) : Within source (start source) := ⟨rfl, rfl, rfl, rfl⟩

theorem Within.next {source : Text} (within : Within source cursor) : Within source cursor.next := by
  obtain ⟨whole, offset, line, column⟩ := within
  unfold Cursor.next
  split
  · exact ⟨whole, offset, line, column⟩
  · rename_i c rest ahead
    refine ⟨?_, ?_, ?_, ?_⟩
    · rw [← whole, ahead]
      simp
    · simp [offset]
    · by_cases feed : c = '\n'
      · simp [feed, line]
        omega
      · simp [feed, line]
    · by_cases feed : c = '\n'
      · simp [feed]
      · simp [feed, column]
        omega

theorem Within.advance {source : Text} (within : Within source cursor) (count : Nat) :
    Within source (cursor.advance count) := by
  induction count generalizing cursor with
  | zero => exact within
  | succ count ih => exact ih within.next

end Cursor

namespace Scanned

variable {cursor : Cursor} {tokens : List Token} {source : Text}

/-- Each token stands between two places of the text, with its spelling between them. -/
theorem places (scanned : Scanned cursor tokens) (within : cursor.Within source) :
    ∀ token ∈ tokens, ∃ first last : Cursor, first.Within source ∧ last.Within source ∧
      first.ahead = token.raw ++ last.ahead ∧ token.span = ⟨first.position, last.position⟩ := by
  induction scanned with
  | done => simp
  | skip _ _ _ ih => exact ih (within.advance _)
  | @number cursor raw rest tokens whole _ _ _ ih =>
    intro token member
    rcases List.mem_cons.mp member with rfl | behind
    · refine ⟨cursor, cursor.advance raw.length, within, within.advance _, ?_, rfl⟩
      rw [(Cursor.advance_append whole).1, whole]
    · exact ih (within.advance _) token behind

/-- The tokens lie ahead, and their offsets count the characters of their spellings. -/
theorem offsets (scanned : Scanned cursor tokens) :
    ∀ token ∈ tokens, (cursor.offset : Int) ≤ token.span.start.offset ∧
      token.span.stop.offset = token.span.start.offset + token.raw.length ∧ token.raw ≠ [] := by
  induction scanned with
  | done => simp
  | @skip cursor length _ _ _ _ ih =>
    intro token member
    obtain ⟨ahead, size, filled⟩ := ih token member
    have forward := Cursor.offset_le_advance length cursor
    exact ⟨by omega, size, filled⟩
  | @number cursor raw rest _ whole digit _ _ ih =>
    have forward := (Cursor.advance_append whole).2.2
    intro token member
    rcases List.mem_cons.mp member with rfl | behind
    · obtain ⟨c, starts, -⟩ := digit
      refine ⟨Int.le_refl _, ?_, List.ne_nil_of_mem (List.mem_of_mem_head? starts)⟩
      simp only [Cursor.position, forward]
      omega
    · obtain ⟨ahead, size, filled⟩ := ih token behind
      exact ⟨by omega, size, filled⟩

/-- No token starts before the one in front of it has ended. -/
theorem ordered (scanned : Scanned cursor tokens) :
    tokens.Pairwise fun first second => first.span.stop.offset ≤ second.span.start.offset := by
  induction scanned with
  | done => exact .nil
  | skip _ _ _ ih => exact ih
  | number _ _ _ scanned ih => exact .cons (fun token member => (scanned.offsets token member).1) ih

/-- Each token starts behind the start of the one in front of it. -/
theorem starts_increase (scanned : Scanned cursor tokens) :
    tokens.Pairwise fun first second =>
      first.span.start.offset.toNat < second.span.start.offset.toNat := by
  refine scanned.ordered.imp_of_mem fun {first second} one other behind => ?_
  obtain ⟨ahead, size, filled⟩ := scanned.offsets first one
  obtain ⟨ahead', -, -⟩ := scanned.offsets second other
  have long := List.length_pos_iff.mpr filled
  omega

end Scanned
end NumeralStyle
