import NumeralStyle.Proofs.Source.Munch

/-! Texts with other numbers in the same places. Two texts are alike where they are the same up to a
place at which both have a decimal digit, and so are a source text and one in which other numbers
stand for its own. How far a number reaches does not depend on which number comes next
(`Munch.alike`). -/
namespace NumeralStyle
open CharClass Text

/-- Texts that are the same up to a place at which both have a decimal digit. -/
inductive Alike : Text → Text → Prop
  | same (text : Text) : Alike text text
  | digits {c d : Char} {rest others : Text} : c.isDigit = true → d.isDigit = true →
      Alike (c :: rest) (d :: others)
  | cons (c : Char) {rest others : Text} : Alike rest others → Alike (c :: rest) (c :: others)

namespace Alike

variable {text other rest : Text}

theorem symm (alike : Alike text other) : Alike other text := by
  induction alike with
  | same text => exact .same text
  | digits first second => exact .digits second first
  | cons c _ ih => exact .cons c ih

theorem append (front : Text) (alike : Alike text other) : Alike (front ++ text) (front ++ other) := by
  induction front with
  | nil => exact alike
  | cons c front ih => exact .cons c ih

theorem eq_nil (alike : Alike [] other) : other = [] := by
  cases alike
  rfl

theorem cons_inv {c : Char} (alike : Alike (c :: rest) other) (plain : c.isDigit = false) :
    ∃ others, other = c :: others ∧ Alike rest others := by
  cases alike with
  | same => exact ⟨rest, rfl, .same rest⟩
  | digits digit => simp [plain] at digit
  | cons _ alike => exact ⟨_, rfl, alike⟩

/-- What has no digits is the same in both texts. -/
theorem append_inv {front : Text} (alike : Alike (front ++ rest) other)
    (plain : ∀ c ∈ front, c.isDigit = false) :
    ∃ others, other = front ++ others ∧ Alike rest others := by
  induction front generalizing other with
  | nil => exact ⟨other, rfl, alike⟩
  | cons c front ih =>
    obtain ⟨_, rfl, behind⟩ := cons_inv alike (plain c (by simp))
    obtain ⟨others, rfl, beyond⟩ := ih behind fun d member => plain d (by simp [member])
    exact ⟨others, rfl, beyond⟩

/-- Both texts start with the same character, or both with a digit. -/
theorem head (alike : Alike text other) {c : Char} (first : c ∈ other.head?) :
    c ∈ text.head? ∨ c.isDigit = true ∧ ∃ d ∈ text.head?, d.isDigit = true := by
  cases alike with
  | same => exact .inl first
  | digits digit digit' =>
    cases first
    exact .inr ⟨digit', _, rfl, digit⟩
  | cons c _ =>
    cases first
    exact .inl rfl

theorem stops {test : Char → Bool} (alike : Alike text other)
    (digits : ∀ c : Char, c.isDigit = true → test c = true) (stops : Stops test text) :
    Stops test other := by
  intro c first
  rcases alike.head first with same | ⟨-, d, starts, digit⟩
  · exact stops c same
  · have outside := stops d starts
    rw [digits d digit] at outside
    cases outside

end Alike

theorem isIdentChar_of_decimal {c : Char} (digit : c.isDigit = true) : isIdentChar c = true := by
  rw [isIdentChar_of_ascii (ascii_of_isDigit digit)]
  simp [Literal.isTailChar, Char.isAlphanum, digit]

theorem isDigit_of_decimal {c : Char} (digit : c.isDigit = true) : isDigit c = true := by
  rw [isDigit_of_ascii (ascii_of_isDigit digit), digit]

theorem not_isIdentStart_of_decimal {c : Char} (digit : c.isDigit = true) :
    isIdentStart c = false := by
  have ascii := ascii_of_isDigit digit
  have plain : c.isAlpha = false ∧ c ≠ '_' :=
    ascii_forall (fun c => c.isDigit = true → c.isAlpha = false ∧ c ≠ '_') (by decide) ascii digit
  simp [isIdentStart, isLetter_of_ascii ascii, plain]

theorem not_isDigit_of_not_isIdentChar {c : Char} (outside : isIdentChar c = false) :
    c.isDigit = false := by
  cases digit : c.isDigit with
  | false => rfl
  | true =>
    rw [isIdentChar_of_decimal digit] at outside
    cases outside

namespace Lexeme

theorem SignAhead.alike {rest others : Text} (ahead : SignAhead rest) (alike : Alike rest others) :
    SignAhead others := by
  obtain ⟨sign, digit, behind, rfl, signs, isDigit⟩ := ahead
  have plain : sign.isDigit = false := not_isDigit_of_not_isIdentChar (sign_not_ident signs)
  obtain ⟨others, rfl, next⟩ := alike.cons_inv plain
  cases next with
  | same => exact ⟨sign, digit, behind, rfl, signs, isDigit⟩
  | @digits _ d _ others _ other => exact ⟨sign, d, others, rfl, signs, isDigit_of_decimal other⟩
  | cons => exact ⟨sign, digit, _, rfl, signs, isDigit⟩

theorem PointAhead.alike {rest others : Text} (ahead : PointAhead rest) (alike : Alike rest others) :
    PointAhead others := by
  obtain ⟨behind, rfl, next⟩ := ahead
  obtain ⟨others, rfl, beyond⟩ := alike.cons_inv (by decide)
  refine pointAhead_cons.mpr fun c first => ?_
  rcases beyond.head first with same | ⟨digit, -⟩
  · exact next c same
  · refine ⟨?_, not_isIdentStart_of_decimal digit⟩
    rintro rfl
    cases digit

/-- How far a number reaches does not depend on which number comes next. -/
theorem Munch.alike {afterPoint : Bool} {number rest others : Text}
    (munch : Munch afterPoint number rest) (alike : Alike rest others) :
    Munch afterPoint number others :=
  munch.congr (alike.stops (fun _ => isIdentChar_of_decimal) munch.stops)
    (fun ahead => ahead.alike alike.symm) (fun ahead => ahead.alike alike.symm)
    fun fraction ahead => ahead.alike (.cons '.' (alike.append fraction))

end Lexeme
end NumeralStyle
