import Mathlib.Computability.Language
import NumeralStyle.Proofs.Literal.Reading

/-! The grammar of literals, as a regular language over all characters. It knows nothing of suffixes,
of the order in which pieces are found, or of how much each of them takes: a literal is a decimal or
a prefixed number with a tail. Reading accepts exactly this language (`parse_accepts_iff`). -/
namespace NumeralStyle.Literal.Grammar
open Text
open scoped Computability

/-- The texts of one character that passes a test. -/
def one (test : Char → Bool) : Language Char := {text | ∃ c, test c = true ∧ text = [c]}

/-- Digits and separators, any number of each. -/
def run : Language Char := (one fun c => c.isDigit || c == '_')∗

/-- A point and a run, or nothing. -/
def fraction : Language Char := 1 + {['.']} * run

/-- The letter of an exponent, a sign or none, separators, a digit and a run; or nothing. -/
def exponent : Language Char :=
  1 + one (fun c => c == 'e' || c == 'E') * (1 + {['+']} + {['-']}) * (one (· == '_'))∗ *
    one Char.isDigit * run

/-- A letter, and then letters, digits and separators; or nothing. -/
def tail : Language Char := 1 + one Char.isAlpha * (one fun c => c.isAlphanum || c == '_')∗

/-- A digit and a run, with or without a fraction, an exponent and a tail. -/
def decimal : Language Char := one Char.isDigit * run * fraction * exponent * tail

/-- Digits of a base and separators, with at least one digit. -/
def digits (radix : Radix) : Language Char :=
  {text | (∀ c ∈ text, radix.isDigit c = true ∨ c = '_') ∧ ∃ c ∈ text, radix.isDigit c = true}

/-- The lead of a base, digits of it and a tail. -/
def prefixed (radix : Radix) : Language Char := ({radix.lead} : Language Char) * digits radix * tail

theorem mem_kstar_one {test : Char → Bool} {text : Text} :
    text ∈ (one test)∗ ↔ ∀ c ∈ text, test c = true := by
  rw [Language.mem_kstar]
  constructor
  · rintro ⟨pieces, rfl, each⟩ c member
    obtain ⟨piece, inside, within⟩ := List.mem_flatten.mp member
    obtain ⟨d, passes, rfl⟩ := each piece inside
    obtain rfl := List.mem_singleton.mp within
    exact passes
  · intro each
    refine ⟨text.map fun c => [c], ?_, fun piece member => ?_⟩
    · induction text with
      | nil => rfl
      | cons c rest ih => simpa using ih fun d member => each d (List.mem_cons_of_mem _ member)
    · obtain ⟨c, inside, rfl⟩ := List.mem_map.mp member
      exact ⟨c, each c inside, rfl⟩

theorem mem_run {text : Text} : text ∈ run ↔ IsRun .decimal text := by
  simp only [run, mem_kstar_one, IsRun, isDigitOrSeparator, CharClass.decimal_isDigit, separator]

theorem mem_fraction {text : Text} : text ∈ fraction ↔ IsFraction text := by
  rw [fraction, Language.mem_add, Language.mem_one, Language.mem_mul]
  constructor
  · rintro (rfl | ⟨point, rfl, digits, inside, rfl⟩)
    · exact .none
    · exact .point (mem_run.mp inside)
  · intro valid
    cases valid with
    | none => exact .inl rfl
    | point inside => exact .inr ⟨['.'], rfl, _, mem_run.mpr inside, rfl⟩

theorem mem_tail {text : Text} : text ∈ tail ↔ IsTail text := by
  rw [tail, Language.mem_add, Language.mem_one, Language.mem_mul]
  constructor
  · rintro (rfl | ⟨first, ⟨letter, isLetter, rfl⟩, others, inside, rfl⟩)
    · exact .none
    · exact .letters isLetter (mem_kstar_one.mp inside)
  · intro valid
    cases valid with
    | none => exact .inl rfl
    | letters letter others =>
      exact .inr ⟨[_], ⟨_, letter, rfl⟩, _, mem_kstar_one.mpr others, rfl⟩

theorem mem_sign {text : Text} :
    text ∈ (1 + {['+']} + {['-']} : Language Char) ↔ text = [] ∨ text = ['+'] ∨ text = ['-'] := by
  rw [Language.mem_add, Language.mem_add, Language.mem_one, or_assoc]
  rfl

/-- A run with a digit in it starts with separators or none, and then the digit. -/
theorem run_with_digit {text : Text} (inside : IsRun .decimal text)
    (digit : ∃ c ∈ text, Radix.decimal.isDigit c = true) :
    ∃ separators first others, text = separators ++ first :: others ∧
      (∀ c ∈ separators, (c == '_') = true) ∧ Radix.decimal.isDigit first = true := by
  refine ⟨text.takeWhile (· == '_'), ?_⟩
  have whole := List.takeWhile_append_dropWhile (p := (· == '_')) (l := text)
  cases behind : text.dropWhile (· == '_') with
  | nil =>
    obtain ⟨c, member, isDigit⟩ := digit
    rw [behind, List.append_nil] at whole
    rw [← whole] at member
    have separates := List.mem_takeWhile_imp member
    obtain rfl := beq_iff_eq.mp separates
    exact absurd isDigit (by decide)
  | cons first others =>
    rw [behind] at whole
    have stopped := stops_dropWhile (· == '_') text first (by simp [behind])
    have passes := inside first (whole ▸ by simp)
    simp only [isDigitOrSeparator, separator, Bool.or_eq_true, stopped, Bool.false_eq_true,
      or_false] at passes
    exact ⟨first, others, whole.symm, fun _ => List.mem_takeWhile_imp, passes⟩

theorem mem_exponent {text : Text} : text ∈ exponent ↔ IsExponent text := by
  rw [exponent, Language.mem_add, Language.mem_one]
  constructor
  · rintro (rfl | ⟨_, ⟨_, ⟨_, ⟨_, ⟨letter, marks, rfl⟩, sign, signs, rfl⟩, separators, between, rfl⟩,
      _, ⟨digit, isDigit, rfl⟩, rfl⟩, others, inside, rfl⟩)
    · exact .none
    · rw [← CharClass.decimal_isDigit] at isDigit
      have digits : IsRun .decimal (separators ++ digit :: others) := by
        intro c member
        rcases List.mem_append.mp member with before | behind
        · simp [isDigitOrSeparator, separator, mem_kstar_one.mp between c before]
        · rcases List.mem_cons.mp behind with rfl | behind
          · exact isDigitOrSeparator_of_isDigit isDigit
          · exact mem_run.mp inside c behind
      have spelled := IsExponent.marked (by simpa using marks) (mem_sign.mp signs) digits
        ⟨digit, by simp, isDigit⟩
      simpa using spelled
  · intro valid
    cases valid with
    | none => exact .inl rfl
    | @marked letter sign digits marks signs inside digit =>
      obtain ⟨separators, first, others, rfl, between, isDigit⟩ := run_with_digit inside digit
      rw [CharClass.decimal_isDigit] at isDigit
      have behind : others ∈ run := mem_run.mpr fun c member => inside c (by simp [member])
      refine .inr ⟨_, ⟨_, ⟨_, ⟨[letter], ⟨letter, by simpa using marks, rfl⟩, sign, mem_sign.mpr signs,
        rfl⟩, separators, mem_kstar_one.mpr between, rfl⟩, [first], ⟨first, isDigit, rfl⟩, rfl⟩, others,
        behind, by simp⟩

theorem mem_decimal {text : Text} : text ∈ decimal ↔ IsNumber .decimal text := by
  constructor
  · rintro ⟨_, ⟨_, ⟨_, ⟨_, ⟨digit, isDigit, rfl⟩, others, inside, rfl⟩, part, pointed, rfl⟩, power,
      marked, rfl⟩, ending, ends, rfl⟩
    rw [← CharClass.decimal_isDigit] at isDigit
    refine ⟨⟨digit :: others, part, power, ending⟩, ⟨?_, ⟨digit, by simp, isDigit⟩,
      fun _ => ⟨digit, by simp, isDigit⟩, mem_fraction.mp pointed, mem_exponent.mp marked,
      fun other => absurd rfl other, mem_tail.mp ends⟩, rfl⟩
    intro c member
    rcases List.mem_cons.mp member with rfl | behind
    · exact isDigitOrSeparator_of_isDigit isDigit
    · exact mem_run.mp inside c behind
  · rintro ⟨⟨whole, part, power, ending⟩, valid, rfl⟩
    obtain ⟨first, starts, digit⟩ := valid.first rfl
    obtain ⟨others, rfl⟩ := List.head?_eq_some_iff.mp starts
    rw [CharClass.decimal_isDigit] at digit
    have inside : others ∈ run := mem_run.mpr fun c member => valid.whole c (by simp [member])
    exact ⟨_, ⟨_, ⟨_, ⟨[first], ⟨first, digit, rfl⟩, others, inside, rfl⟩, part,
      mem_fraction.mpr valid.fraction, rfl⟩, power, mem_exponent.mpr valid.exponent, rfl⟩, ending,
      mem_tail.mpr valid.tail, rfl⟩

theorem mem_digits {radix : Radix} {text : Text} :
    text ∈ digits radix ↔ IsRun radix text ∧ ∃ c ∈ text, radix.isDigit c = true := by
  simp only [IsRun, isDigitOrSeparator, Bool.or_eq_true, beq_iff_eq, separator]
  rfl

theorem mem_prefixed {radix : Radix} (base : radix ≠ .decimal) {text : Text} :
    text ∈ prefixed radix ↔ ∃ body, text = radix.lead ++ body ∧ IsNumber radix body := by
  constructor
  · rintro ⟨_, ⟨lead, rfl, whole, member, rfl⟩, ending, ends, rfl⟩
    obtain ⟨inside, digit⟩ := mem_digits.mp member
    refine ⟨whole ++ ending, by simp, ⟨whole, [], [], ending⟩, ⟨inside, digit,
      fun same => absurd same base, .none, .none, fun _ => ⟨rfl, rfl⟩, mem_tail.mp ends⟩, ?_⟩
    simp [Pieces.text]
  · rintro ⟨body, rfl, ⟨whole, part, power, ending⟩, valid, rfl⟩
    obtain ⟨rfl, rfl⟩ := valid.integral base
    refine ⟨_, ⟨_, rfl, whole, mem_digits.mpr ⟨valid.whole, valid.digit⟩, rfl⟩, ending,
      mem_tail.mpr valid.tail, ?_⟩
    simp [Pieces.text]

/-- Reading accepts a text exactly if it starts with no lead and is spelled like a decimal literal,
or is spelled like a literal of another base. -/
theorem parse_accepts_iff (raw : Text) :
    (∃ literal, parse raw = .ok literal) ↔
      (raw ∈ decimal ∧ ∀ radix : Radix, radix ≠ .decimal → ¬ radix.lead <+: raw) ∨
        ∃ radix : Radix, radix ≠ .decimal ∧ raw ∈ prefixed radix := by
  rw [exists_parse_iff]
  by_cases base : (Radix.split raw).1 = .decimal
  · have same := Radix.split_eq_decimal base
    have noLead := Radix.split_decimal_iff.mp same
    rw [same, mem_decimal, and_iff_left noLead, or_iff_left]
    rintro ⟨radix, other, member⟩
    obtain ⟨body, rfl, -⟩ := (mem_prefixed other).mp member
    exact noLead radix other (List.prefix_append _ _)
  · have whole := Radix.lead_append_split raw
    constructor
    · intro number
      exact .inr ⟨_, base, (mem_prefixed base).mpr ⟨_, whole.symm, number⟩⟩
    · rintro (⟨-, noLead⟩ | ⟨radix, other, member⟩)
      · exact absurd ⟨_, whole⟩ (noLead _ base)
      · obtain ⟨body, rfl, number⟩ := (mem_prefixed other).mp member
        rwa [Radix.split_lead_append other]

end NumeralStyle.Literal.Grammar
