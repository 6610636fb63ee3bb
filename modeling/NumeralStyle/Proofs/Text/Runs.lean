import Mathlib.Data.List.Basic
import Mathlib.Data.List.TakeWhile
import NumeralStyle.Text

/-! Runs of characters of one class. A run that is followed by nothing of its class is exactly what
`takeWhile` takes and `dropWhile` drops, and every text splits into such a run and what follows. -/
namespace NumeralStyle.Text

/-- What is said of the characters of a text is decided along the text, not over all characters. -/
instance decidableForallMem {test : Char → Prop} [DecidablePred test] (text : Text) :
    Decidable (∀ c ∈ text, test c) :=
  List.decidableBAll test text

/-- Nothing that passes the test stands at the start of the text. -/
def Stops (test : Char → Bool) (text : Text) : Prop := ∀ c ∈ text.head?, test c = false

theorem stops_nil (test : Char → Bool) : Stops test [] := by
  intro c member
  cases member

theorem stops_cons {test : Char → Bool} {c : Char} {rest : Text} :
    Stops test (c :: rest) ↔ test c = false := by
  simp [Stops]

theorem stops_dropWhile (test : Char → Bool) (text : Text) : Stops test (text.dropWhile test) := by
  intro c first
  have stopped := List.head?_dropWhile_not test text
  rw [Option.mem_def.mp first] at stopped
  exact stopped

theorem takeWhile_run_append {test : Char → Bool} {run rest : Text}
    (inside : ∀ c ∈ run, test c = true) (stops : Stops test rest) :
    (run ++ rest).takeWhile test = run := by
  rw [List.takeWhile_append_of_pos inside]
  cases rest with
  | nil => simp
  | cons c rest => simp [stops_cons.mp stops]

theorem dropWhile_run_append {test : Char → Bool} {run rest : Text}
    (inside : ∀ c ∈ run, test c = true) (stops : Stops test rest) :
    (run ++ rest).dropWhile test = rest := by
  rw [List.dropWhile_append_of_pos inside]
  cases rest with
  | nil => rfl
  | cons c rest => simp [stops_cons.mp stops]

/-- A character that occurs in a text only once cuts it in one way only. -/
theorem cut_at {before after front behind : Text} {c d : Char}
    (same : front ++ d :: behind = before ++ c :: after) (noneFront : c ∉ front)
    (noneBehind : c ∉ behind) : front = before ∧ d = c ∧ behind = after := by
  rcases List.append_eq_append_iff.mp same with ⟨more, whole, rest⟩ | ⟨more, whole, rest⟩
  · cases more with
    | nil =>
      obtain ⟨rfl, rfl⟩ := List.cons.inj rest
      exact ⟨by simpa using whole.symm, rfl, rfl⟩
    | cons e more =>
      obtain ⟨-, rfl⟩ := List.cons.inj rest
      exact absurd (by simp) noneBehind
  · cases more with
    | nil =>
      obtain ⟨rfl, rfl⟩ := List.cons.inj rest
      exact ⟨by simpa using whole, rfl, rfl⟩
    | cons e more =>
      obtain ⟨rfl, -⟩ := List.cons.inj rest
      exact absurd (by simp [whole]) noneFront

/-- A text is what is left of it without the run of a character at its end, and that run. -/
theorem trimEnd_append_replicate (c : Char) (text : Text) :
    ∃ count, text = trimEnd c text ++ List.replicate count c := by
  refine ⟨(text.reverse.takeWhile (· == c)).length, ?_⟩
  have run : text.reverse.takeWhile (· == c) =
      List.replicate (text.reverse.takeWhile (· == c)).length c := by
    refine List.eq_replicate_iff.mpr ⟨rfl, fun d member => ?_⟩
    simpa using List.mem_takeWhile_imp member
  have whole := congrArg List.reverse (List.takeWhile_append_dropWhile (p := (· == c)) (l := text.reverse))
  rw [List.reverse_append, List.reverse_reverse, run, List.reverse_replicate] at whole
  exact whole.symm

theorem getLast?_trimEnd (c : Char) (text : Text) : (trimEnd c text).getLast? ≠ some c := by
  intro last
  rw [trimEnd, List.getLast?_reverse] at last
  have stopped := stops_dropWhile (· == c) text.reverse c last
  simp at stopped

theorem trimEnd_append_run {c : Char} {text : Text} (last : text.getLast? ≠ some c) (count : Nat) :
    trimEnd c (text ++ List.replicate count c) = text := by
  rw [trimEnd, List.reverse_append, List.reverse_replicate, dropWhile_run_append,
    List.reverse_reverse]
  · intro d member
    simp [List.eq_of_mem_replicate member]
  · intro d first
    rw [List.head?_reverse] at first
    simp only [beq_eq_false_iff_ne]
    rintro rfl
    exact last first

end NumeralStyle.Text
