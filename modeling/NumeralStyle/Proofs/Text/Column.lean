import NumeralStyle.Proofs.Text.Runs
import NumeralStyle.Text.Stretches

/-! The column at the end of a text: how many characters it has behind its last line feed. What is
before that line feed does not count (`column_cons`). The line of a place has as many characters as
there are before the place and up to the next line feed (`exists_line`). -/
namespace NumeralStyle.Text

/-- What a text has behind its last line feed. -/
def lastLine (front : Text) : Text := (front.reverse.takeWhile (· != '\n')).reverse

/-- The number of characters of a text behind its last line feed. -/
def column (front : Text) : Nat := (front.reverse.takeWhile (· != '\n')).length

theorem length_lastLine (front : Text) : (lastLine front).length = column front :=
  List.length_reverse

theorem lastLine_append {front back : Text} (none : '\n' ∉ back) :
    lastLine (front ++ back) = lastLine front ++ back := by
  have inside : ∀ c ∈ back.reverse, (c != '\n') = true := by
    intro c member
    rw [bne_iff_ne]
    rintro rfl
    exact none (List.mem_reverse.mp member)
  rw [lastLine, lastLine, List.reverse_append, List.takeWhile_append_of_pos inside,
    List.reverse_append, List.reverse_reverse]

theorem lastLine_of_not_mem {front : Text} (none : '\n' ∉ front) : lastLine front = front :=
  @lastLine_append [] front none

theorem lastLine_cons {c : Char} {front : Text} (feed : c = '\n' ∨ '\n' ∈ front) :
    lastLine (c :: front) = lastLine front := by
  rw [lastLine, lastLine, List.reverse_cons, List.takeWhile_append]
  split
  · rename_i all
    have whole := (List.takeWhile_prefix (l := front.reverse) (· != '\n')).eq_of_length all
    have none : '\n' ∉ front := by
      intro member
      rw [← List.mem_reverse, ← whole] at member
      exact absurd (List.mem_takeWhile_imp member) (by decide)
    rw [or_iff_left none] at feed
    subst feed
    simp [whole]
  · rfl

theorem column_nil : column [] = 0 := rfl

theorem column_append {front back : Text} (none : '\n' ∉ back) :
    column (front ++ back) = column front + back.length := by
  rw [← length_lastLine, lastLine_append none, List.length_append, length_lastLine]

theorem column_of_not_mem {front : Text} (none : '\n' ∉ front) : column front = front.length := by
  rw [← length_lastLine, lastLine_of_not_mem none]

theorem column_cons {c : Char} {front : Text} (feed : c = '\n' ∨ '\n' ∈ front) :
    column (c :: front) = column front := by
  rw [← length_lastLine, lastLine_cons feed, length_lastLine]

theorem head?_stretches (rest : Text) :
    (stretches '\n' rest)[0]? = some (rest.takeWhile (· != '\n')) := by
  induction rest with
  | nil => rfl
  | cons c rest ih =>
    by_cases feed : c = '\n'
    · simp [stretches, feed]
    · cases found : stretches '\n' rest with
      | nil => exact absurd found (stretches_ne_nil '\n' rest)
      | cons first others =>
        rw [found, List.getElem?_cons_zero, Option.some.injEq] at ih
        simp [stretches, feed, found, ih]

/-- The line of the place between two parts of a text, and how many characters it has. -/
theorem exists_line (front rest : Text) :
    ∃ line, (stretches '\n' (front ++ rest))[front.count '\n']? = some line ∧
      line.length = column front + (rest.takeWhile (· != '\n')).length := by
  induction front with
  | nil =>
    refine ⟨_, head?_stretches rest, ?_⟩
    rw [column_nil, Nat.zero_add]
  | cons c front ih =>
    obtain ⟨line, here, size⟩ := ih
    by_cases feed : c = '\n'
    · subst feed
      refine ⟨line, ?_, by rw [column_cons (.inl rfl), size]⟩
      rw [List.cons_append, stretches, if_pos rfl, List.count_cons_self, List.getElem?_cons_succ, here]
    · rw [List.cons_append, stretches, if_neg feed, List.count_cons_of_ne feed]
      cases found : stretches '\n' (front ++ rest) with
      | nil => exact absurd found (stretches_ne_nil '\n' _)
      | cons first others =>
        rw [found] at here
        cases lines : front.count '\n' with
        | zero =>
          have none : '\n' ∉ front := List.count_eq_zero.mp lines
          rw [lines, List.getElem?_cons_zero, Option.some.injEq] at here
          refine ⟨_, List.getElem?_cons_zero, ?_⟩
          rw [column_of_not_mem none] at size
          rw [column_of_not_mem (by simp [Ne.symm feed, none]), List.length_cons, here, size,
            List.length_cons]
          omega
        | succ count =>
          have some : '\n' ∈ front := List.count_pos_iff.mp (by omega)
          rw [lines, List.getElem?_cons_succ] at here
          exact ⟨line, here, by rw [column_cons (.inr some), size]⟩

end NumeralStyle.Text
