import NumeralStyle.Proofs.Literal.Pieces

/-! Cutting off a suffix. No suffix ends in another one, so at most one of them ends a text, and what
comes off the end is settled by the spelling alone (`Cut.cutSuffix_eq`). A suffix is spelled like a
tail, and with the separators before it, it can be taken off a number or put behind it without
changing whether the text is a number. -/
namespace NumeralStyle.Suffix
open Literal Text

theorem mem_longestFirst (suffix : Suffix) : suffix ∈ longestFirst := by
  cases suffix <;> decide

/-- Only decimal literals have a floating point suffix. -/
def Allowed (radix : Radix) (suffix : Suffix) : Prop := radix = .decimal ∨ suffix.isFloat = false

theorem text_ne_nil (suffix : Suffix) : suffix.text ≠ [] := by
  cases suffix <;> simp [text]

theorem eq_of_isSuffix {first second : Suffix} {body : Text} (one : first.text <:+ body)
    (other : second.text <:+ body) : first = second := by
  have apart : ∀ a ∈ longestFirst, ∀ b ∈ longestFirst, a.text <:+ b.text → a = b := by decide
  rcases List.suffix_or_suffix_of_suffix one other with within | within
  · exact apart _ (mem_longestFirst _) _ (mem_longestFirst _) within
  · exact (apart _ (mem_longestFirst _) _ (mem_longestFirst _) within).symm

theorem find?_eq_some_iff {radix : Radix} {body : Text} {suffix : Suffix} :
    find? radix body = some suffix ↔
      suffix.Allowed radix ∧ ∃ stem, stem ≠ [] ∧ body = stem ++ suffix.text := by
  have meaning (other : Suffix) : ((radix == .decimal || !other.isFloat) &&
      other.text.isSuffixOf body && other.text.length < body.length) = true ↔
      other.Allowed radix ∧ ∃ stem, stem ≠ [] ∧ body = stem ++ other.text := by
    simp only [Bool.and_eq_true, Bool.or_eq_true, beq_iff_eq, Bool.not_eq_true',
      List.isSuffixOf_iff_suffix, decide_eq_true_eq, Allowed, and_assoc]
    refine and_congr_right fun _ => ⟨?_, ?_⟩
    · rintro ⟨⟨stem, rfl⟩, longer⟩
      refine ⟨stem, ?_, rfl⟩
      rintro rfl
      simp at longer
    · rintro ⟨stem, filled, rfl⟩
      refine ⟨⟨stem, rfl⟩, ?_⟩
      have := List.length_pos_iff.mpr filled
      simp only [List.length_append]
      omega
  constructor
  · intro found
    have passed := List.find?_some found
    exact (meaning suffix).mp passed
  · intro holds
    cases found : find? radix body with
    | none =>
      have missed := List.find?_eq_none.mp found suffix (mem_longestFirst suffix)
      exact absurd ((meaning suffix).mpr holds) missed
    | some other =>
      have passed := List.find?_some found
      obtain ⟨-, stem, -, ends⟩ := (meaning other).mp passed
      obtain ⟨-, stem', -, ends'⟩ := holds
      rw [eq_of_isSuffix ⟨stem, ends.symm⟩ ⟨stem', ends'.symm⟩]

end NumeralStyle.Suffix

namespace NumeralStyle.Literal
open Text CharClass

/-- What a body is cut into: nothing comes off where no suffix ends it, and else the suffix with all
the separators before it. -/
inductive Cut (radix : Radix) : (body stem : Text) → Option WrittenSuffix → Prop
  | whole {body : Text} : Suffix.find? radix body = none → Cut radix body body none
  | glued {stem : Text} {suffix : Suffix} : suffix.Allowed radix → stem ≠ [] →
      stem.getLast? ≠ some separator → Cut radix (stem ++ suffix.text) stem (some ⟨suffix, false⟩)
  | separated {stem : Text} {suffix : Suffix} (count : Nat) : suffix.Allowed radix →
      stem.getLast? ≠ some separator →
      Cut radix (stem ++ List.replicate (count + 1) separator ++ suffix.text) stem
        (some ⟨suffix, true⟩)

/-- What stands behind a number up to the end of its literal. -/
inductive Ending : Option WrittenSuffix → Text → Prop
  | none : Ending none []
  | glued (suffix : Suffix) : Ending (some ⟨suffix, false⟩) suffix.text
  | separated (count : Nat) (suffix : Suffix) :
      Ending (some ⟨suffix, true⟩) (List.replicate (count + 1) separator ++ suffix.text)

theorem Cut.exists_ending {radix : Radix} {body stem : Text} {suffix : Option WrittenSuffix}
    (cut : Cut radix body stem suffix) : ∃ ending, body = stem ++ ending ∧ Ending suffix ending := by
  cases cut with
  | whole => exact ⟨[], (List.append_nil _).symm, .none⟩
  | glued => exact ⟨_, rfl, .glued _⟩
  | separated count => exact ⟨_, List.append_assoc .., .separated count _⟩

/-- A text that no suffix ends is cut off what stands behind it, if a suffix can. -/
theorem Ending.cut {radix : Radix} {stem ending : Text} {suffix : Option WrittenSuffix}
    (ends : Ending suffix ending) (filled : stem ≠ [])
    (bare : suffix = .none → Suffix.find? radix stem = .none)
    (suffixed : ∀ written ∈ suffix, written.suffix.Allowed radix ∧
      stem.getLast? ≠ some separator) : Cut radix (stem ++ ending) stem suffix := by
  cases ends with
  | none =>
    rw [List.append_nil]
    exact .whole (bare rfl)
  | glued suffix =>
    obtain ⟨allowed, last⟩ := suffixed _ rfl
    exact .glued allowed filled last
  | separated count suffix =>
    obtain ⟨allowed, last⟩ := suffixed _ rfl
    rw [← List.append_assoc]
    exact .separated count allowed last

theorem cutSuffix_append {radix : Radix} {stem : Text} {suffix : Suffix}
    (allowed : suffix.Allowed radix) (filled : stem ≠ []) :
    cutSuffix radix (stem ++ suffix.text) =
      if stem.getLast? = some separator then (trimEnd separator stem, some ⟨suffix, true⟩)
      else (stem, some ⟨suffix, false⟩) := by
  have found := Suffix.find?_eq_some_iff.mpr ⟨allowed, stem, filled, rfl⟩
  simp [cutSuffix, found]

theorem cut_cutSuffix (radix : Radix) (body : Text) :
    Cut radix body (cutSuffix radix body).1 (cutSuffix radix body).2 := by
  cases found : Suffix.find? radix body with
  | none =>
    simp only [cutSuffix, found]
    exact .whole found
  | some suffix =>
    obtain ⟨allowed, stem, filled, rfl⟩ := Suffix.find?_eq_some_iff.mp found
    rw [cutSuffix_append allowed filled]
    by_cases last : stem.getLast? = some separator
    · simp only [last, if_true]
      obtain ⟨count, trimmed⟩ := trimEnd_append_replicate separator stem
      have ends := getLast?_trimEnd separator stem
      cases count with
      | zero =>
        simp only [List.replicate_zero, List.append_nil] at trimmed
        exact absurd last (trimmed ▸ ends)
      | succ count =>
        have cut : Cut radix (trimEnd separator stem ++ List.replicate (count + 1) separator ++
          suffix.text) _ _ := .separated count allowed ends
        rwa [← trimmed] at cut
    · simp only [last, if_false]
      exact .glued allowed filled last

theorem Cut.cutSuffix_eq {radix : Radix} {body stem : Text} {suffix : Option WrittenSuffix}
    (cut : Cut radix body stem suffix) : cutSuffix radix body = (stem, suffix) := by
  cases cut with
  | whole missing => simp [cutSuffix, missing]
  | glued allowed filled last => rw [cutSuffix_append allowed filled, if_neg last]
  | separated count allowed last =>
    rw [cutSuffix_append allowed (by simp), if_pos (by simp [List.replicate_succ']),
      trimEnd_append_run last]

/-! ## Numbers with and without what comes off -/

theorem isRun_separators (radix : Radix) (count : Nat) :
    IsRun radix (List.replicate count separator) := by
  intro c member
  simp [List.eq_of_mem_replicate member, isDigitOrSeparator]

theorem IsRun.dropLast {radix : Radix} {run : Text} {c : Char} (inside : IsRun radix (run ++ [c])) :
    IsRun radix run :=
  fun d member => inside d (List.mem_append_left _ member)

theorem not_isDigit_separator (radix : Radix) : radix.isDigit separator = false := by
  cases radix <;> decide

/-- The separator at the end of a run is not the digit in it. -/
theorem exists_digit_dropLast {radix : Radix} {run : Text}
    (digit : ∃ c ∈ run ++ [separator], radix.isDigit c = true) :
    ∃ c ∈ run, radix.isDigit c = true := by
  obtain ⟨c, member, isDigit⟩ := digit
  rcases List.mem_append.mp member with inside | last
  · exact ⟨c, inside, isDigit⟩
  · obtain rfl := List.mem_singleton.mp last
    rw [not_isDigit_separator] at isDigit
    cases isDigit

theorem IsFraction.append_run {fraction run : Text} (valid : IsFraction fraction)
    (filled : fraction ≠ []) (more : IsRun .decimal run) : IsFraction (fraction ++ run) := by
  cases valid with
  | none => exact absurd rfl filled
  | point inside => exact .point (inside.append more)

theorem IsFraction.dropLast {fraction : Text} (valid : IsFraction (fraction ++ [separator])) :
    IsFraction fraction := by
  generalize whole : fraction ++ [separator] = text at valid
  cases valid with
  | none => simp at whole
  | @point run inside =>
    cases fraction with
    | nil => exact .none
    | cons first others =>
      obtain ⟨rfl, rfl⟩ := List.cons.inj whole
      exact .point inside.dropLast

theorem IsExponent.append_run {exponent run : Text} (valid : IsExponent exponent)
    (filled : exponent ≠ []) (more : IsRun .decimal run) : IsExponent (exponent ++ run) := by
  cases valid with
  | none => exact absurd rfl filled
  | @marked letter sign digits marks signs inside digit =>
    obtain ⟨c, member, isDigit⟩ := digit
    have longer := IsExponent.marked marks signs (inside.append more)
      ⟨c, List.mem_append_left _ member, isDigit⟩
    simpa using longer

theorem IsExponent.dropLast {exponent : Text} (valid : IsExponent (exponent ++ [separator])) :
    IsExponent exponent := by
  generalize whole : exponent ++ [separator] = text at valid
  cases valid with
  | none => simp at whole
  | @marked letter sign run marks signs inside digit =>
    obtain ⟨c, member, isDigit⟩ := digit
    obtain ⟨run, last, rfl⟩ := (List.eq_nil_or_concat' run).resolve_left (List.ne_nil_of_mem member)
    have cut : exponent ++ [separator] = (letter :: (sign ++ run)) ++ [last] := by simpa using whole
    obtain ⟨rfl, same⟩ := List.append_inj' cut rfl
    obtain rfl := (List.cons.inj same).1
    exact .marked marks signs inside.dropLast (exists_digit_dropLast ⟨c, member, isDigit⟩)

theorem IsTail.append {tail more : Text} (valid : IsTail tail) (filled : tail ≠ [])
    (inside : ∀ c ∈ more, isTailChar c = true) : IsTail (tail ++ more) := by
  cases valid with
  | none => exact absurd rfl filled
  | letters letter others =>
    refine .letters letter fun c member => ?_
    rcases List.mem_append.mp member with before | behind
    · exact others c before
    · exact inside c behind

theorem IsTail.of_append {tail more : Text} (valid : IsTail (tail ++ more)) : IsTail tail := by
  cases tail with
  | nil => exact .none
  | cons first others =>
    cases valid with
    | letters letter inside =>
      exact .letters letter fun c member => inside c (List.mem_append_left _ member)

/-- A run behind a number without a tail goes to its last piece. -/
theorem exists_append_run {radix : Radix} {pieces : Pieces} {run : Text}
    (valid : pieces.Valid radix) (ends : pieces.tail = []) (more : IsRun radix run) :
    ∃ longer : Pieces, longer.Valid radix ∧ longer.tail = [] ∧ longer.text = pieces.text ++ run := by
  obtain ⟨whole, fraction, exponent, tail⟩ := pieces
  obtain rfl : tail = [] := ends
  by_cases integral : fraction = [] ∧ exponent = []
  · obtain ⟨rfl, rfl⟩ := integral
    obtain ⟨c, member, digit⟩ := valid.digit
    refine ⟨⟨whole ++ run, [], [], []⟩, { valid with
      whole := valid.whole.append more
      digit := ⟨c, List.mem_append_left _ member, digit⟩
      first := fun base => ?_ }, rfl, by simp [Pieces.text]⟩
    obtain ⟨first, starts, isDigit⟩ := valid.first base
    obtain ⟨others, rfl⟩ := List.head?_eq_some_iff.mp starts
    exact ⟨first, rfl, isDigit⟩
  · obtain rfl : radix = .decimal := Classical.byContradiction fun other =>
      integral (valid.integral other)
    by_cases marked : exponent = []
    · subst marked
      have pointed : fraction ≠ [] := fun none => integral ⟨none, rfl⟩
      exact ⟨⟨whole, fraction ++ run, [], []⟩, { valid with
        fraction := valid.fraction.append_run pointed more
        integral := fun other => absurd rfl other }, rfl, by simp [Pieces.text]⟩
    · exact ⟨⟨whole, fraction, exponent ++ run, []⟩, { valid with
        exponent := valid.exponent.append_run marked more
        integral := fun other => absurd rfl other }, rfl, by simp [Pieces.text]⟩

theorem IsNumber.append_separator {radix : Radix} {text : Text} (number : IsNumber radix text) :
    IsNumber radix (text ++ [separator]) := by
  obtain ⟨pieces, valid, rfl⟩ := number
  by_cases ends : pieces.tail = []
  · obtain ⟨longer, valid, -, spelled⟩ := exists_append_run valid ends (isRun_separators radix 1)
    exact ⟨longer, valid, spelled⟩
  · exact ⟨{ pieces with tail := pieces.tail ++ [separator] },
      { valid with tail := valid.tail.append ends (by decide) }, by simp [Pieces.text]⟩

/-- Letters, digits and separators behind a decimal number leave it one. -/
theorem IsNumber.append_chars {text rest : Text} (number : IsNumber .decimal text)
    (chars : ∀ c ∈ rest, isTailChar c = true) : IsNumber .decimal (text ++ rest) := by
  obtain ⟨pieces, valid, rfl⟩ := number
  by_cases ends : pieces.tail = []
  · have whole := List.takeWhile_append_dropWhile (p := isDigitOrSeparator .decimal) (l := rest)
    obtain ⟨longer, valid, ends, spelled⟩ :=
      exists_append_run valid ends (isRun_takeWhile .decimal rest)
    have tail : IsTail (rest.dropWhile (isDigitOrSeparator .decimal)) :=
      isTail_of_stops (.inl rfl) (fun c member => chars c ((List.dropWhile_sublist _).mem member))
        (stops_dropWhile _ _)
    refine ⟨{ longer with tail := rest.dropWhile (isDigitOrSeparator .decimal) },
      { valid with tail }, ?_⟩
    have core : longer.whole ++ longer.fraction ++ longer.exponent =
        pieces.text ++ rest.takeWhile (isDigitOrSeparator .decimal) := by
      simpa [Pieces.text, ends] using spelled
    rw [← whole, ← List.append_assoc, ← core, Pieces.text, whole]
  · exact ⟨{ pieces with tail := pieces.tail ++ rest },
      { valid with tail := valid.tail.append ends chars }, by simp [Pieces.text]⟩

theorem IsNumber.dropLast_separator {radix : Radix} {text : Text}
    (number : IsNumber radix (text ++ [separator])) : IsNumber radix text := by
  obtain ⟨⟨whole, fraction, exponent, tail⟩, valid, spelled⟩ := number
  simp only [Pieces.text] at spelled
  -- The separator is the last character of the last piece that has any.
  rcases List.eq_nil_or_concat' tail with rfl | ⟨tail, last, rfl⟩
  · rcases List.eq_nil_or_concat' exponent with rfl | ⟨exponent, last, rfl⟩
    · rcases List.eq_nil_or_concat' fraction with rfl | ⟨fraction, last, rfl⟩
      · rcases List.eq_nil_or_concat' whole with rfl | ⟨whole, last, rfl⟩
        · simp at spelled
        · simp only [List.append_nil] at spelled
          obtain ⟨rfl, same⟩ := List.append_inj' spelled rfl
          obtain rfl := (List.cons.inj same).1
          have digit := exists_digit_dropLast valid.digit
          refine ⟨⟨whole, [], [], []⟩, { valid with
            whole := valid.whole.dropLast
            digit := digit
            first := fun base => ?_ }, by simp [Pieces.text]⟩
          obtain ⟨first, starts, isDigit⟩ := valid.first base
          obtain ⟨c, member, -⟩ := digit
          obtain ⟨head, others, rfl⟩ := List.exists_cons_of_ne_nil (List.ne_nil_of_mem member)
          exact ⟨first, starts, isDigit⟩
      · simp only [List.append_nil, ← List.append_assoc] at spelled
        obtain ⟨rfl, same⟩ := List.append_inj' spelled rfl
        obtain rfl := (List.cons.inj same).1
        exact ⟨⟨whole, fraction, [], []⟩, { valid with
          fraction := valid.fraction.dropLast
          integral := fun other => absurd (valid.integral other).1 (by simp) },
          by simp [Pieces.text]⟩
    · simp only [List.append_nil, ← List.append_assoc] at spelled
      obtain ⟨rfl, same⟩ := List.append_inj' spelled rfl
      obtain rfl := (List.cons.inj same).1
      exact ⟨⟨whole, fraction, exponent, []⟩, { valid with
        exponent := valid.exponent.dropLast
        integral := fun other => absurd (valid.integral other).2 (by simp) },
        by simp [Pieces.text]⟩
  · simp only [← List.append_assoc] at spelled
    obtain ⟨rfl, same⟩ := List.append_inj' spelled rfl
    obtain rfl := (List.cons.inj same).1
    exact ⟨⟨whole, fraction, exponent, tail⟩, { valid with tail := valid.tail.of_append },
      by simp [Pieces.text]⟩

/-- Separators at the end of a text do not decide whether it is a number. -/
theorem isNumber_append_separators {radix : Radix} {text : Text} (count : Nat) :
    IsNumber radix (text ++ List.replicate count separator) ↔ IsNumber radix text := by
  induction count with
  | zero => simp
  | succ count ih =>
    rw [List.replicate_succ', ← List.append_assoc, ← ih]
    exact ⟨IsNumber.dropLast_separator, IsNumber.append_separator⟩

theorem isTail_suffix (suffix : Suffix) : IsTail suffix.text := by
  cases suffix <;> exact .letters (by decide) (by decide)

theorem IsFraction.chars {fraction : Text} (valid : IsFraction fraction) :
    ∀ c ∈ fraction, isDigitOrSeparator .decimal c = true ∨ c = '.' := by
  cases valid with
  | none => simp
  | point run =>
    intro c member
    rcases List.mem_cons.mp member with rfl | behind
    · exact .inr rfl
    · exact .inl (run c behind)

theorem IsExponent.chars {exponent : Text} (valid : IsExponent exponent) :
    ∀ c ∈ exponent, isDigitOrSeparator .decimal c = true ∨ c ∈ ['e', 'E', '+', '-'] := by
  cases valid with
  | none => simp
  | marked marks signs run _ =>
    intro c member
    rcases List.mem_cons.mp member with rfl | behind
    · rcases marks with rfl | rfl <;> simp
    · rcases List.mem_append.mp behind with inSign | inRun
      · rcases signs with rfl | rfl | rfl <;> simp_all
      · exact .inl (run c inRun)

theorem IsExponent.point_not_mem {exponent : Text} (marked : IsExponent exponent) : '.' ∉ exponent := by
  intro member
  exact absurd (marked.chars '.' member) (by decide)

theorem IsFraction.sign_not_mem {fraction : Text} {sign : Char} (pointed : IsFraction fraction)
    (signs : sign = '+' ∨ sign = '-') : sign ∉ fraction := by
  intro member
  have chars := pointed.chars sign member
  rcases signs with rfl | rfl <;> exact absurd chars (by decide)

/-- The characters that a number can have before its tail. -/
theorem core_chars {radix : Radix} {pieces : Pieces} (valid : pieces.Valid radix) :
    ∀ c ∈ pieces.whole ++ pieces.fraction ++ pieces.exponent,
      isDigitOrSeparator radix c = true ∨ c ∈ ['.', 'e', 'E', '+', '-'] := by
  intro c member
  by_cases base : radix = .decimal
  · subst base
    simp only [List.mem_append] at member
    rcases member with (inWhole | inFraction) | inExponent
    · exact .inl (valid.whole c inWhole)
    · rcases valid.fraction.chars c inFraction with digit | rfl
      · exact .inl digit
      · exact .inr (by simp)
    · exact (valid.exponent.chars c inExponent).imp_right (List.mem_cons_of_mem _)
  · obtain ⟨noFraction, noExponent⟩ := valid.integral base
    rw [noFraction, noExponent, List.append_nil, List.append_nil] at member
    exact .inl (valid.whole c member)

theorem IsNumber.ascii {radix : Radix} {text : Text} (number : IsNumber radix text) :
    ∀ c ∈ text, c.val < 128 := by
  obtain ⟨pieces, valid, rfl⟩ := number
  intro c member
  rcases List.mem_append.mp member with inCore | inTail
  · rcases core_chars valid c inCore with inside | mark
    · exact CharClass.ascii_of_isTailChar (isTailChar_of_isDigitOrSeparator inside)
    · have marks : ∀ d ∈ ['.', 'e', 'E', '+', '-'], d.val < 128 := by decide
      exact marks c mark
  · exact CharClass.ascii_of_isTailChar (valid.tail.chars c inTail)

/-- A suffix that a literal can have starts with a letter that has no other place in it. -/
theorem suffix_head {radix : Radix} {suffix : Suffix} (allowed : suffix.Allowed radix) :
    ∀ c ∈ suffix.text.head?,
      ¬ (isDigitOrSeparator radix c = true ∨ c ∈ ['.', 'e', 'E', '+', '-']) := by
  intro c first
  rcases allowed with rfl | integral
  · cases suffix <;> cases first <;> decide
  · cases suffix <;> cases first <;> cases integral <;> cases radix <;> decide

theorem IsNumber.append_suffix {radix : Radix} {text : Text} (number : IsNumber radix text)
    (suffix : Suffix) : IsNumber radix (text ++ suffix.text) := by
  obtain ⟨⟨whole, fraction, exponent, tail⟩, valid, rfl⟩ := number
  have ends : IsTail (tail ++ suffix.text) := by
    by_cases none : tail = []
    · subst none
      exact isTail_suffix suffix
    · exact valid.tail.append none (isTail_suffix suffix).chars
  exact ⟨⟨whole, fraction, exponent, tail ++ suffix.text⟩, { valid with tail := ends },
    by simp [Pieces.text]⟩

theorem IsNumber.of_append_suffix {radix : Radix} {text : Text} {suffix : Suffix}
    (allowed : suffix.Allowed radix) (number : IsNumber radix (text ++ suffix.text)) :
    IsNumber radix text := by
  obtain ⟨⟨whole, fraction, exponent, tail⟩, valid, spelled⟩ := number
  simp only [Pieces.text] at spelled
  rcases List.append_eq_append_iff.mp spelled with ⟨more, same, split⟩ | ⟨more, same, split⟩
  · exact ⟨⟨whole, fraction, exponent, more⟩, { valid with tail := (split ▸ valid.tail).of_append },
      same.symm⟩
  · -- Nothing of the suffix can lie in front of the tail.
    cases more with
    | nil =>
      rw [List.append_nil] at same
      exact ⟨⟨whole, fraction, exponent, []⟩, { valid with tail := .none },
        by simpa [Pieces.text] using same⟩
    | cons c more =>
      have inside := core_chars valid c (by simp [same])
      exact absurd inside (suffix_head allowed c (by simp [split]))

theorem isNumber_append_suffix {radix : Radix} {text : Text} {suffix : Suffix}
    (allowed : suffix.Allowed radix) :
    IsNumber radix (text ++ suffix.text) ↔ IsNumber radix text :=
  ⟨IsNumber.of_append_suffix allowed, fun number => number.append_suffix suffix⟩

/-- Cutting off a suffix does not decide whether what is cut is a number. -/
theorem Cut.isNumber_iff {radix : Radix} {body stem : Text} {suffix : Option WrittenSuffix}
    (cut : Cut radix body stem suffix) : IsNumber radix body ↔ IsNumber radix stem := by
  cases cut with
  | whole => rfl
  | glued allowed _ _ => exact isNumber_append_suffix allowed
  | separated count allowed _ =>
    rw [isNumber_append_suffix allowed, isNumber_append_separators]

end NumeralStyle.Literal
