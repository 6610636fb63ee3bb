import NumeralStyle.Proofs.Source.Alike
import NumeralStyle.Proofs.Source.Scanned

/-! What a scan skips, and how far it looks for that. The end of a comment or of a quoted text is
found whatever comes behind it; the end of anything else depends on the next characters, but not on
which number comes next. So what is skipped before a text is also skipped before any text that is
like it (`read_skips`). -/
namespace NumeralStyle
open CharClass Text

namespace Lexeme

/-! ## Ends that are found -/

/-- The end that is found, after `count` characters before the text, is found whatever comes behind
it. -/
def Ends (find : Text → Option Nat) (count : Nat) (text : Text) (length : Nat) : Prop :=
  ∃ used rest, text = used ++ rest ∧ length = count + used.length ∧
    ∀ others, find (used ++ others) = some length

theorem commentEnd_ends {count depth length : Nat} {text : Text}
    (found : commentEnd count depth text = some length) :
    Ends (commentEnd count depth) count text length := by
  fun_induction commentEnd count depth text with
  | case1 =>
    cases found
    exact ⟨[], _, rfl, rfl, fun _ => by simp [commentEnd]⟩
  | case2 => cases found
  | case3 count depth rest ih =>
    obtain ⟨used, rest, rfl, rfl, ends⟩ := ih found
    refine ⟨'/' :: '*' :: used, rest, rfl, by simp only [List.length_cons]; omega, fun others => ?_⟩
    rw [List.cons_append, List.cons_append, commentEnd]
    exact ends others
  | case4 count depth rest ih =>
    obtain ⟨used, rest, rfl, rfl, ends⟩ := ih found
    refine ⟨'*' :: '/' :: used, rest, rfl, by simp only [List.length_cons]; omega, fun others => ?_⟩
    rw [List.cons_append, List.cons_append, commentEnd]
    exact ends others
  | case5 count depth c rest noOpener noCloser ih =>
    obtain ⟨used, rest, rfl, rfl, ends⟩ := ih found
    -- An open comment does not end before its next character, so that one is not behind the end.
    cases used with
    | nil =>
      have none := ends []
      simp [commentEnd] at none
    | cons d used =>
      refine ⟨c :: d :: used, rest, rfl, by simp only [List.length_cons]; omega, fun others => ?_⟩
      rw [List.cons_append, commentEnd]
      · exact ends others
      · intro others' first second
        exact noOpener (used ++ rest) first (by simp_all)
      · intro others' first second
        exact noCloser (used ++ rest) first (by simp_all)

theorem stringEnd_ends {count length : Nat} {text : Text}
    (found : stringEnd count text = some length) : Ends (stringEnd count) count text length := by
  fun_induction stringEnd count text with
  | case1 => cases found
  | case2 count rest =>
    cases found
    exact ⟨['"'], rest, rfl, rfl, fun _ => by simp [stringEnd]⟩
  | case3 count c rest ih =>
    obtain ⟨used, rest, rfl, rfl, ends⟩ := ih found
    refine ⟨'\\' :: c :: used, rest, rfl, by simp only [List.length_cons]; omega, fun others => ?_⟩
    rw [List.cons_append, List.cons_append, stringEnd]
    exact ends others
  | case4 count c rest noQuote noEscape ih =>
    obtain ⟨used, rest, rfl, rfl, ends⟩ := ih found
    have noBackslash : c ≠ '\\' := by
      rintro rfl
      cases whole : used ++ rest with
      | nil => simp [whole, stringEnd] at found
      | cons d others => exact noEscape d others rfl whole
    refine ⟨c :: used, rest, rfl, by simp only [List.length_cons]; omega, fun others => ?_⟩
    rw [List.cons_append, stringEnd]
    · exact ends others
    · exact noQuote
    · exact fun _ _ same _ => noBackslash same

theorem rawEnd_ends {hashes count length : Nat} {text : Text}
    (found : rawEnd hashes count text = some length) :
    Ends (rawEnd hashes count) count text length ∧ count + hashes < length := by
  fun_induction rawEnd hashes count text with
  | case1 => cases found
  | case2 count c rest closes =>
    cases found
    simp only [Bool.and_eq_true, beq_iff_eq, List.isPrefixOf_iff_prefix] at closes
    obtain ⟨rfl, rest, rfl⟩ := closes
    refine ⟨⟨'"' :: List.replicate hashes '#', rest, rfl, ?_, fun others => ?_⟩, by omega⟩
    · simp only [List.length_cons, List.length_replicate]
      omega
    · simp [rawEnd]
  | case3 count c rest open_ ih =>
    obtain ⟨⟨used, rest, rfl, same, ends⟩, beyond⟩ := ih found
    refine ⟨⟨c :: used, rest, rfl, ?_, fun others => ?_⟩, by omega⟩
    · simp only [List.length_cons]
      omega
    · -- The number signs that would close the string here lie before its end.
      have stillOpen : ¬ (c == '"' && (List.replicate hashes '#').isPrefixOf (used ++ others)) = true := by
        intro closes
        refine open_ ?_
        simp only [Bool.and_eq_true, List.isPrefixOf_iff_prefix] at closes ⊢
        obtain ⟨quote, signs⟩ := closes
        have short : (List.replicate hashes '#').length ≤ used.length := by
          rw [List.length_replicate]
          omega
        have within := List.prefix_of_prefix_length_le signs (List.prefix_append used others) short
        exact ⟨quote, within.trans (List.prefix_append used rest)⟩
      rw [List.cons_append, rawEnd, if_neg stillOpen]
      exact ends others

/-! ## What is skipped -/

/-- What is skipped, after `before` characters before the text, is skipped before any text that is
like the one behind it. -/
def Skips (read : Text → Lexeme) (before : Nat) (text : Text) (length : Nat) : Prop :=
  ∃ used rest, text = used ++ rest ∧ length = before + used.length ∧
    ∀ others, Alike rest others → read (used ++ others) = .skip length

theorem orBroken_eq_skip_iff {fault : ScanFault} {start stop length : Nat} {found : Option Nat} :
    orBroken fault start stop found = .skip length ↔ found = some length := by
  cases found <;> simp [orBroken]

theorem string_skips {start length : Nat} {text : Text}
    (found : string start text = .skip length) : Skips (string start) (start + 1) text length := by
  obtain ⟨used, rest, whole, same, ends⟩ := stringEnd_ends (orBroken_eq_skip_iff.mp found)
  exact ⟨used, rest, whole, same, fun others _ => orBroken_eq_skip_iff.mpr (ends others)⟩

theorem rawString_skips {lead hashes length : Nat} {text : Text}
    (found : rawString lead hashes text = .skip length) :
    Skips (rawString lead hashes) (lead + hashes + 1) text length := by
  obtain ⟨⟨used, rest, whole, same, ends⟩, -⟩ := rawEnd_ends (orBroken_eq_skip_iff.mp found)
  exact ⟨used, rest, whole, same, fun others _ => orBroken_eq_skip_iff.mpr (ends others)⟩

/-- The end of a character literal with an escape is found whatever comes behind it. -/
theorem escapedCharacter_ends {start count length : Nat} {text : Text}
    (found : escapedCharacter start count text = .skip length) :
    ∃ used rest, text = used ++ rest ∧ length = count + used.length ∧
      ∀ others, escapedCharacter start count (used ++ others) = .skip length := by
  fun_induction escapedCharacter start count text with
  | case1 => cases found
  | case2 => cases found
  | case3 count rest =>
    cases found
    exact ⟨['\''], rest, rfl, rfl, fun _ => by simp [escapedCharacter]⟩
  | case4 => cases found
  | case5 count c rest ih =>
    obtain ⟨used, rest, rfl, rfl, ends⟩ := ih found
    refine ⟨'\\' :: c :: used, rest, rfl, by simp only [List.length_cons]; omega, fun others => ?_⟩
    rw [List.cons_append, List.cons_append, escapedCharacter]
    exact ends others
  | case6 count c rest noFeed noQuote noLast noEscape ih =>
    obtain ⟨used, rest, rfl, rfl, ends⟩ := ih found
    have noBackslash : c ≠ '\\' := by
      rintro rfl
      cases whole : used ++ rest with
      | nil => exact noLast rfl whole
      | cons d others => exact noEscape d others rfl whole
    refine ⟨c :: used, rest, rfl, by simp only [List.length_cons]; omega, fun others => ?_⟩
    rw [List.cons_append, escapedCharacter]
    · exact ends others
    · exact noFeed
    · exact noQuote
    · exact fun same _ => noBackslash same
    · exact fun _ _ same _ => noBackslash same

theorem lt_of_escapedCharacter {start count length : Nat} {text : Text}
    (found : escapedCharacter start count text = .skip length) : count < length := by
  fun_induction escapedCharacter start count text with
  | case1 => cases found
  | case2 => cases found
  | case3 =>
    cases found
    omega
  | case4 => cases found
  | case5 _ _ _ ih =>
    have beyond := ih found
    omega
  | case6 _ _ _ _ _ _ _ ih =>
    have beyond := ih found
    omega

theorem character_skips {start length : Nat} {text : Text}
    (found : character start text = .skip length) :
    Skips (character start) (start + 1) text length := by
  unfold character at found
  split at found
  · rename_i rest
    have beyond := lt_of_escapedCharacter found
    obtain ⟨used, behind, whole, same, ends⟩ := escapedCharacter_ends found
    refine ⟨used, behind, whole, same, fun others _ => ?_⟩
    cases used with
    | nil =>
      rw [List.length_nil] at same
      omega
    | cons c used =>
      obtain ⟨rfl, -⟩ := List.cons.inj whole
      exact ends others
  · rename_i c rest noEscape
    cases found
    refine ⟨[c, '\''], rest, rfl, by simp, fun others _ => ?_⟩
    rw [List.cons_append, List.cons_append, character]
    · exact noEscape
  · rename_i noEscape noQuote
    cases found
    have whole := List.takeWhile_append_dropWhile (p := isIdentChar) (l := text)
    have inside : ∀ c ∈ text.takeWhile isIdentChar, isIdentChar c = true :=
      fun _ => List.mem_takeWhile_imp
    have stops := stops_dropWhile isIdentChar text
    refine ⟨_, _, whole.symm, rfl, fun others alike => ?_⟩
    generalize text.takeWhile isIdentChar = used at *
    have stops' := alike.stops (fun _ => isIdentChar_of_decimal) stops
    have back := alike.symm.append used
    rw [whole] at back
    have stillNoEscape : ∀ behind, used ++ others ≠ '\\' :: behind := by
      intro behind same
      rw [same] at back
      obtain ⟨behind', rfl, -⟩ := back.cons_inv (by decide)
      exact noEscape behind' rfl
    have stillNoQuote : ∀ c behind, used ++ others ≠ c :: '\'' :: behind := by
      intro c behind same
      cases used with
      | nil =>
        have outside : isIdentChar c = false := stops' c (by simp_all)
        have plain : ∀ d ∈ [c, '\''], d.isDigit = false := by
          simp [not_isDigit_of_not_isIdentChar outside]
        rw [same] at back
        have front : Alike ([c, '\''] ++ behind) text := back
        obtain ⟨behind', rfl, -⟩ := front.append_inv plain
        exact noQuote c behind' rfl
      | cons d used =>
        obtain ⟨rfl, tail⟩ : d = c ∧ used ++ others = '\'' :: behind := List.cons.inj same
        have beyond := alike.symm.append used
        rw [tail] at beyond
        obtain ⟨behind', same', -⟩ := beyond.cons_inv (by decide)
        exact noQuote d behind' (by rw [← whole, List.cons_append, same'])
    unfold character
    split
    · rename_i behind same
      exact absurd same (stillNoEscape behind)
    · rename_i c behind _ same
      exact absurd same (stillNoQuote c behind)
    · rw [takeWhile_run_append inside stops']

/-- The openers of quoted text that has a letter in front. -/
inductive Opener : Text → Prop
  | string {c : Char} : c = 'b' ∨ c = 'c' → Opener [c, '"']
  | character : Opener ['b', '\'']
  | raw {lead : Text} (hashes : Nat) : lead = ['r'] ∨ lead = ['b', 'r'] ∨ lead = ['c', 'r'] →
      Opener (lead ++ List.replicate hashes '#' ++ ['"'])

theorem Opener.plain {opener : Text} (opens : Opener opener) : ∀ c ∈ opener, c.isDigit = false := by
  cases opens with
  | string either => rcases either with rfl | rfl <;> decide
  | character => decide
  | raw hashes either =>
    intro c member
    simp only [List.mem_append, List.mem_singleton] at member
    rcases member with (inLead | sign) | rfl
    · rcases either with rfl | rfl | rfl <;> revert c <;> decide
    · rw [List.eq_of_mem_replicate sign]
      decide
    · decide

theorem rawOpening?_eq_some_iff {text body : Text} {hashes : Nat} :
    rawOpening? text = some (hashes, body) ↔ text = List.replicate hashes '#' ++ '"' :: body := by
  constructor
  · intro found
    unfold rawOpening? at found
    split at found
    · rename_i rest behind
      cases found
      have whole := List.takeWhile_append_dropWhile (p := (· == '#')) (l := text)
      have signs : text.takeWhile (· == '#') =
          List.replicate (text.takeWhile (· == '#')).length '#' := by
        refine List.eq_replicate_iff.mpr ⟨rfl, fun c member => ?_⟩
        simpa using List.mem_takeWhile_imp member
      rw [← signs, ← behind, whole]
    · cases found
  · rintro rfl
    have signs : ∀ c ∈ List.replicate hashes '#', (c == '#') = true := by
      intro c member
      rw [List.eq_of_mem_replicate member]
      rfl
    have stops : Stops (· == '#') ('"' :: body) := stops_cons.mpr rfl
    simp only [rawOpening?, dropWhile_run_append signs stops, takeWhile_run_append signs stops,
      List.length_replicate]

/-- Without an opener of quoted text there is an identifier. -/
theorem lettered_eq_word {text : Text} (none : ∀ opener, Opener opener → ¬ opener <+: text) :
    lettered text = word text := by
  have noRaw {lead rest body : Text} {hashes : Nat}
      (either : lead = ['r'] ∨ lead = ['b', 'r'] ∨ lead = ['c', 'r']) (whole : text = lead ++ rest) :
      rawOpening? rest ≠ some (hashes, body) := by
    intro found
    rw [rawOpening?_eq_some_iff.mp found] at whole
    exact none _ (.raw hashes either) ⟨body, by simp [whole]⟩
  unfold lettered
  split
  · exact absurd ⟨_, rfl⟩ (none _ (.string (.inl rfl)))
  · exact absurd ⟨_, rfl⟩ (none _ (.string (.inr rfl)))
  · exact absurd ⟨_, rfl⟩ (none _ .character)
  · split
    · rename_i found
      exact absurd found (noRaw (.inr (.inl rfl)) rfl)
    · rfl
  · split
    · rename_i found
      exact absurd found (noRaw (.inr (.inr rfl)) rfl)
    · rfl
  · split
    · rename_i found
      exact absurd found (noRaw (.inl rfl) rfl)
    · rfl
  · rfl

theorem lettered_raw {lead : Text} {hashes : Nat}
    (either : lead = ['r'] ∨ lead = ['b', 'r'] ∨ lead = ['c', 'r']) (body : Text) :
    lettered (lead ++ List.replicate hashes '#' ++ ['"'] ++ body) =
      rawString lead.length hashes body := by
  have found : rawOpening? (List.replicate hashes '#' ++ '"' :: body) = some (hashes, body) :=
    rawOpening?_eq_some_iff.mpr rfl
  have whole : lead ++ List.replicate hashes '#' ++ ['"'] ++ body =
      lead ++ (List.replicate hashes '#' ++ '"' :: body) := by simp
  rw [whole]
  rcases either with rfl | rfl | rfl
  · simp only [List.singleton_append, lettered, found]
    rfl
  · simp only [List.cons_append, List.nil_append, lettered, found]
    rfl
  · simp only [List.cons_append, List.nil_append, lettered, found]
    rfl

/-- What is skipped behind an opener is skipped together with it. -/
theorem Skips.behind {read inner : Text → Lexeme} {opener body : Text} {length : Nat}
    (same : ∀ body, read (opener ++ body) = inner body) (skips : Skips inner opener.length body length) :
    Skips read 0 (opener ++ body) length := by
  obtain ⟨used, rest, rfl, rfl, ends⟩ := skips
  refine ⟨opener ++ used, rest, by simp, by simp, fun others alike => ?_⟩
  rw [List.append_assoc, same]
  exact ends others alike

theorem lettered_skips {text : Text} {length : Nat} (found : lettered text = .skip length) :
    Skips lettered 0 text length := by
  by_cases opened : ∃ opener, Opener opener ∧ opener <+: text
  · obtain ⟨opener, opens, body, rfl⟩ := opened
    cases opens with
    | @string c either =>
      have same : ∀ body, lettered ([c, '"'] ++ body) = string 1 body := by
        rcases either with rfl | rfl <;> exact fun _ => rfl
      rw [same] at found
      exact Skips.behind same (string_skips found)
    | character => exact Skips.behind (fun _ => rfl) (character_skips found)
    | @raw lead hashes either =>
      rw [lettered_raw either] at found
      have size : (lead ++ List.replicate hashes '#' ++ ['"']).length = lead.length + hashes + 1 := by
        simp only [List.length_append, List.length_replicate, List.length_singleton]
      refine Skips.behind (lettered_raw either) ?_
      rw [size]
      exact rawString_skips found
  · have none : ∀ opener, Opener opener → ¬ opener <+: text :=
      fun opener opens leads => opened ⟨opener, opens, leads⟩
    rw [lettered_eq_word none] at found
    cases found
    have whole := List.takeWhile_append_dropWhile (p := isIdentChar) (l := text)
    have inside : ∀ c ∈ text.takeWhile isIdentChar, isIdentChar c = true :=
      fun _ => List.mem_takeWhile_imp
    have stops := stops_dropWhile isIdentChar text
    refine ⟨_, _, whole.symm, (Nat.zero_add _).symm, fun others alike => ?_⟩
    have back := alike.symm.append (text.takeWhile isIdentChar)
    rw [whole] at back
    have stillNone : ∀ opener, Opener opener →
        ¬ opener <+: text.takeWhile isIdentChar ++ others := by
      rintro opener opens ⟨body, same⟩
      rw [← same] at back
      obtain ⟨behind, rfl, -⟩ := back.append_inv opens.plain
      exact none opener opens (List.prefix_append ..)
    rw [lettered_eq_word stillNone, word,
      takeWhile_run_append inside (alike.stops (fun _ => isIdentChar_of_decimal) stops)]

theorem lineComment_skips {afterPoint : Bool} {rest : Text} {length : Nat}
    (found : read afterPoint ('/' :: '/' :: rest) = .skip length) :
    Skips (read afterPoint) 0 ('/' :: '/' :: rest) length := by
  have whole := List.takeWhile_append_dropWhile (p := (· != '\n')) (l := '/' :: '/' :: rest)
  have inside : ∀ c ∈ ('/' :: '/' :: rest).takeWhile (· != '\n'), (c != '\n') = true :=
    fun _ => List.mem_takeWhile_imp
  have stops := stops_dropWhile (· != '\n') ('/' :: '/' :: rest)
  cases found
  refine ⟨_, _, whole.symm, (Nat.zero_add _).symm, fun others alike => ?_⟩
  have digits : ∀ c : Char, c.isDigit = true → (c != '\n') = true := by
    intro c digit
    rw [bne_iff_ne]
    rintro rfl
    cases digit
  have taken := takeWhile_run_append inside (alike.stops digits stops)
  exact congrArg (fun text => Lexeme.skip text.length) taken

theorem blockComment_skips {afterPoint : Bool} {rest : Text} {length : Nat}
    (found : read afterPoint ('/' :: '*' :: rest) = .skip length) :
    Skips (read afterPoint) 0 ('/' :: '*' :: rest) length := by
  obtain ⟨used, behind, rfl, rfl, ends⟩ := commentEnd_ends (orBroken_eq_skip_iff.mp found)
  refine ⟨'/' :: '*' :: used, behind, rfl, by simp only [List.length_cons]; omega,
    fun others _ => ?_⟩
  exact orBroken_eq_skip_iff.mpr (ends others)

theorem other_skips {afterPoint : Bool} {c : Char} {rest : Text} {length : Nat}
    (plain : c ≠ '\x00' ∧ c ≠ '"' ∧ c ≠ '\'')
    (noComment : c = '/' → ∀ d ∈ rest.head?, d ≠ '/' ∧ d ≠ '*')
    (found : read afterPoint (c :: rest) = .skip length) :
    Skips (read afterPoint) 0 (c :: rest) length := by
  rw [read_of_other plain noComment] at found
  split at found
  · cases found
  rename_i noDigit
  split at found
  · rename_i start
    have advances : (lettered (c :: rest)).Advances := lettered_advances start
    obtain ⟨used, behind, whole, rfl, ends⟩ := lettered_skips found
    refine ⟨used, behind, whole, rfl, fun others alike => ?_⟩
    cases used with
    | nil =>
      rw [found] at advances
      exact absurd advances (Nat.lt_irrefl 0)
    | cons d used =>
      obtain ⟨rfl, -⟩ := List.cons.inj whole
      rw [List.cons_append, read_of_isIdentChar (isIdentChar_of_isIdentStart start), if_neg noDigit,
        if_pos start]
      exact ends others alike
  · rename_i noStart
    cases found
    refine ⟨[c], rest, rfl, rfl, fun others alike => ?_⟩
    have stillNoComment : c = '/' → ∀ d ∈ others.head?, d ≠ '/' ∧ d ≠ '*' := by
      intro slash d first
      rcases alike.head first with same | ⟨digit, -⟩
      · exact noComment slash d same
      · refine ⟨?_, ?_⟩ <;> rintro rfl <;> cases digit
    rw [List.singleton_append, read_of_other plain stillNoComment, if_neg noDigit, if_neg noStart]

/-- What holds no number is skipped wherever the text behind it is alike. -/
theorem read_skips {afterPoint : Bool} {text : Text} {length : Nat} (filled : text ≠ [])
    (found : read afterPoint text = .skip length) : Skips (read afterPoint) 0 text length := by
  obtain ⟨c, rest, rfl⟩ := List.exists_cons_of_ne_nil filled
  by_cases nul : c = '\x00'
  · subst nul
    cases found
  by_cases quote : c = '"'
  · subst quote
    have same : ∀ body, read afterPoint (['"'] ++ body) = string 0 body := fun _ => rfl
    exact Skips.behind same (string_skips found)
  by_cases single : c = '\''
  · subst single
    have same : ∀ body, read afterPoint (['\''] ++ body) = character 0 body := fun _ => rfl
    exact Skips.behind same (character_skips found)
  by_cases comment : c = '/' → ∀ d ∈ rest.head?, d ≠ '/' ∧ d ≠ '*'
  · exact other_skips ⟨nul, quote, single⟩ comment found
  simp only [Classical.not_imp, Classical.not_forall, Classical.not_and_iff_not_or_not,
    Classical.not_not] at comment
  obtain ⟨rfl, d, first, either⟩ := comment
  obtain ⟨others, rfl⟩ := List.head?_eq_some_iff.mp first
  rcases either with rfl | rfl
  · exact lineComment_skips found
  · exact blockComment_skips found

end Lexeme
end NumeralStyle
