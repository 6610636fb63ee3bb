import NumeralStyle.Proofs.Source.Reached
import NumeralStyle.Proofs.Source.Skipped

/-! What a line end hides. Where a text ends with a line feed, what is read at its start is read there
also before any text that comes behind, whether it is skipped or a number. The one exception is a
single quote right before the line feed and another one right behind it, which make the line feed a
character literal (`Lexeme.read_append`, `Lexeme.Munch.append`). -/
namespace NumeralStyle
open CharClass Text

/-- A text that ends with a line feed, and a text behind it, with no line feed between two quotes. -/
structure EndsLine (text more : Text) : Prop where
  feed : text.getLast? = some '\n'
  quote : ['\'', '\n'] <:+ text → more.head? ≠ some '\''

namespace EndsLine

variable {text more : Text}

theorem filled (ends : EndsLine text more) : text ≠ [] := by
  rintro rfl
  cases ends.feed

theorem mem (ends : EndsLine text more) : '\n' ∈ text := List.mem_of_getLast? ends.feed

/-- What is left of the text ends in the same way. -/
theorem rest {used rest : Text} (ends : EndsLine (used ++ rest) more) (filled : rest ≠ []) :
    EndsLine rest more := by
  refine ⟨?_, fun quote => ends.quote (quote.trans (List.suffix_append used rest))⟩
  have last := ends.feed
  rwa [List.getLast?_append, Option.or_of_isSome (List.getLast?_isSome.mpr filled)] at last

/-- Behind a stretch of one line the text goes on. -/
theorem rest_of_line (used : Text) {rest : Text} (ends : EndsLine (used ++ rest) more) (line : '\n' ∉ used) :
    EndsLine rest more := by
  refine ends.rest ?_
  rintro rfl
  rw [List.append_nil] at ends
  exact line ends.mem

theorem head?_append (ends : EndsLine text more) : (text ++ more).head? = text.head? := by
  obtain ⟨c, rest, rfl⟩ := List.exists_cons_of_ne_nil ends.filled
  rfl

/-- What the whole starts with in one line, the text starts with. -/
theorem prefix_of_append (front : Text) (ends : EndsLine text more) (line : '\n' ∉ front)
    (leads : front <+: text ++ more) : front <+: text := by
  rcases List.prefix_or_prefix_of_prefix leads (List.prefix_append text more) with within | beyond
  · exact within
  · exact absurd (beyond.subset ends.mem) line

theorem takeWhile_append (test : Char → Bool) (ends : EndsLine text more) (fails : test '\n' = false) :
    (text ++ more).takeWhile test = text.takeWhile test := by
  rw [List.takeWhile_append, if_neg]
  intro all
  have whole := (List.takeWhile_prefix (l := text) test).eq_of_length all
  have holds : test '\n' = true := List.mem_takeWhile_imp (whole.symm ▸ ends.mem)
  rw [fails] at holds
  cases holds

end EndsLine

namespace Lexeme

section
variable {text more : Text} {length : Nat}

theorem Ends.append {find : Text → Option Nat} {count : Nat} (ends : Ends find count text length) :
    find (text ++ more) = some length := by
  obtain ⟨used, rest, rfl, -, always⟩ := ends
  rw [List.append_assoc]
  exact always _

theorem string_append {start : Nat} (found : string start text = .skip length) :
    string start (text ++ more) = .skip length :=
  orBroken_eq_skip_iff.mpr (stringEnd_ends (orBroken_eq_skip_iff.mp found)).append

theorem rawString_append {lead hashes : Nat} (found : rawString lead hashes text = .skip length) :
    rawString lead hashes (text ++ more) = .skip length :=
  orBroken_eq_skip_iff.mpr (rawEnd_ends (orBroken_eq_skip_iff.mp found)).1.append

/-- Behind its opening quote a character literal may be cut by the line feed, and then another quote
must not follow. -/
theorem character_append {start : Nat} (ends : EndsLine ('\'' :: text) more)
    (found : character start text = .skip length) : character start (text ++ more) = .skip length := by
  have body : EndsLine text more :=
    EndsLine.rest_of_line ['\''] ends (by decide)
  unfold character at found
  split at found
  · rename_i rest
    obtain ⟨used, behind, whole, -, always⟩ := escapedCharacter_ends found
    rw [List.cons_append, character, ← List.cons_append, whole, List.append_assoc]
    exact always _
  · rename_i c rest noEscape
    rw [List.cons_append, List.cons_append, character]
    · exact found
    · exact noEscape
  · rename_i noEscape noQuote
    unfold character
    split
    · rename_i behind same
      have leads := body.prefix_of_append ['\\'] (by decide) ⟨behind, same.symm⟩
      obtain ⟨rest, rfl⟩ := leads
      exact absurd rfl (noEscape rest)
    · rename_i c behind _ same
      exfalso
      cases text with
      | nil => exact body.filled rfl
      | cons d others =>
        cases others with
        | nil =>
          have first : more = '\'' :: behind := (List.cons.inj same).2
          have feed : d = '\n' := by simpa using body.feed
          subst feed
          exact ends.quote List.suffix_rfl (by rw [first]; rfl)
        | cons e rest =>
          obtain ⟨-, same⟩ := List.cons.inj same
          obtain ⟨rfl, -⟩ := List.cons.inj same
          exact noQuote d rest rfl
    · rw [body.takeWhile_append isIdentChar feed_not_ident]
      exact found

theorem Opener.feed_not_mem {opener : Text} (opens : Opener opener) : '\n' ∉ opener := by
  cases opens with
  | string either => rcases either with rfl | rfl <;> decide
  | character => decide
  | raw hashes either =>
    have noSign : '\n' ∉ List.replicate hashes '#' := fun member =>
      absurd (List.eq_of_mem_replicate member) (by decide)
    rcases either with rfl | rfl | rfl <;> simp [noSign]

theorem lettered_append (ends : EndsLine text more) (found : lettered text = .skip length) :
    lettered (text ++ more) = .skip length := by
  by_cases opened : ∃ opener, Opener opener ∧ opener <+: text
  · obtain ⟨opener, opens, body, rfl⟩ := opened
    rw [List.append_assoc]
    cases opens with
    | @string c either =>
      have same : ∀ body, lettered ([c, '"'] ++ body) = string 1 body := by
        rcases either with rfl | rfl <;> exact fun _ => rfl
      rw [same] at found ⊢
      exact string_append found
    | character =>
      have literal : EndsLine ('\'' :: body) more :=
        EndsLine.rest_of_line ['b'] ends (by decide)
      change character 1 (body ++ more) = .skip length
      exact character_append literal found
    | raw hashes either =>
      rw [lettered_raw either] at found ⊢
      exact rawString_append found
  · have none : ∀ opener, Opener opener → ¬ opener <+: text :=
      fun opener opens leads => opened ⟨opener, opens, leads⟩
    have stillNone : ∀ opener, Opener opener → ¬ opener <+: text ++ more :=
      fun opener opens leads => none opener opens (ends.prefix_of_append opener opens.feed_not_mem leads)
    rw [lettered_eq_word none, word] at found
    rw [lettered_eq_word stillNone, word, ends.takeWhile_append isIdentChar feed_not_ident, found]

/-- What is skipped before a line end is skipped there whatever comes behind. -/
theorem read_append {afterPoint : Bool} (ends : EndsLine text more)
    (found : read afterPoint text = .skip length) : read afterPoint (text ++ more) = .skip length := by
  obtain ⟨c, rest, rfl⟩ := List.exists_cons_of_ne_nil ends.filled
  by_cases nul : c = '\x00'
  · subst nul
    cases found
  by_cases quote : c = '"'
  · subst quote
    exact string_append found
  by_cases single : c = '\''
  · subst single
    exact character_append ends found
  by_cases comment : c = '/' → ∀ d ∈ rest.head?, d ≠ '/' ∧ d ≠ '*'
  · have stillNoComment : c = '/' → ∀ d ∈ (rest ++ more).head?, d ≠ '/' ∧ d ≠ '*' := by
      rintro rfl d first
      have behind : EndsLine rest more := EndsLine.rest_of_line ['/'] ends (by decide)
      rw [behind.head?_append] at first
      exact comment rfl d first
    rw [read_of_other ⟨nul, quote, single⟩ comment] at found
    rw [List.cons_append, read_of_other ⟨nul, quote, single⟩ stillNoComment]
    split at found
    · cases found
    rename_i noDigit
    rw [if_neg noDigit]
    split at found
    · rename_i start
      rw [if_pos start]
      exact lettered_append ends found
    · rename_i noStart
      rw [if_neg noStart, found]
  simp only [Classical.not_imp, Classical.not_forall, Classical.not_and_iff_not_or_not,
    Classical.not_not] at comment
  obtain ⟨rfl, d, first, either⟩ := comment
  obtain ⟨others, rfl⟩ := List.head?_eq_some_iff.mp first
  rcases either with rfl | rfl
  · have taken := ends.takeWhile_append (· != '\n') rfl
    cases found
    exact congrArg (fun text => Lexeme.skip text.length) taken
  · have behind : commentEnd 2 1 (others ++ more) = some length :=
      (commentEnd_ends (orBroken_eq_skip_iff.mp found)).append
    exact orBroken_eq_skip_iff.mpr behind

end

/-- A number that reaches up to a text with a line end reaches just as far whatever comes behind. -/
theorem Munch.append {afterPoint : Bool} {number rest more : Text}
    (munch : Munch afterPoint number rest) (ends : EndsLine rest more) :
    Munch afterPoint number (rest ++ more) := by
  have first := ends.head?_append
  refine munch.congr (fun c starts => munch.stops c (first ▸ starts)) ?_ ?_ fun fraction ahead =>
    pointAhead_append first.symm ahead
  · rintro ⟨sign, digit, others, same, signs, isDigit⟩
    have line : '\n' ∉ [sign, digit] := by
      simp only [List.mem_cons, List.not_mem_nil, or_false, not_or]
      refine ⟨feed_ne_sign signs, ?_⟩
      rintro rfl
      cases isDigit
    obtain ⟨behind, rfl⟩ := ends.prefix_of_append [sign, digit] line ⟨others, same.symm⟩
    exact ⟨sign, digit, behind, rfl, signs, isDigit⟩
  · rintro ⟨others, same, next⟩
    obtain ⟨behind, rfl⟩ := ends.prefix_of_append ['.'] (by decide) ⟨others, same.symm⟩
    obtain ⟨-, rfl⟩ := List.cons.inj same
    have beyond : EndsLine behind more := EndsLine.rest_of_line ['.'] ends (by decide)
    exact pointAhead_cons.mpr fun c starts => next c (beyond.head?_append.trans starts)

end Lexeme
end NumeralStyle
