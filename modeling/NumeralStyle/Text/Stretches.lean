import NumeralStyle.Text

/-! The stretches of a text between the occurrences of a character. There is always one more stretch
than there are occurrences, and together they are the text without that character
(`flatten_stretches`). -/
namespace NumeralStyle.Text

/-- The stretches of a text between the occurrences of a character, the empty ones included. -/
def stretches (between : Char) : Text → List Text
  | [] => [[]]
  | c :: rest =>
    if c = between then [] :: stretches between rest
    else
      match stretches between rest with
      | [] => [[c]]
      | first :: others => (c :: first) :: others

theorem stretches_ne_nil (between : Char) (text : Text) : stretches between text ≠ [] := by
  cases text with
  | nil => simp [stretches]
  | cons c rest =>
    simp only [stretches]
    split
    · simp
    · split <;> simp

theorem flatten_stretches (between : Char) (text : Text) :
    (stretches between text).flatten = text.filter (· != between) := by
  induction text with
  | nil => rfl
  | cons c rest ih =>
    by_cases same : c = between
    · simp [stretches, same, ih]
    · simp only [stretches, same, if_false]
      cases found : stretches between rest with
      | nil => exact absurd found (stretches_ne_nil between rest)
      | cons first others =>
        rw [found, List.flatten_cons] at ih
        simp [same, ih]

end NumeralStyle.Text
