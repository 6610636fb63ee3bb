import NumeralStyle.Value
import Mathlib.Data.Nat.Digits.Defs

/-! What messages show of values is on one line. Line feeds are escaped between quotes, and nothing else
that is shown has any (`Value.feed_not_mem_shown`). -/
namespace NumeralStyle

namespace Text

theorem feed_not_mem_ofNat (n : Nat) : '\n' ∉ ofInt n := by
  intro member
  have digits : ofInt n = Nat.toDigits 10 n := Nat.toList_repr
  rw [digits] at member
  exact absurd (Nat.isDigit_of_mem_toDigits (by decide) (by decide) member) (by decide)

theorem feed_not_mem_ofInt (n : Int) : '\n' ∉ ofInt n := by
  cases n with
  | ofNat n => exact feed_not_mem_ofNat n
  | negSucc n =>
    have signed : ofInt (.negSucc n) = '-' :: ofInt ((n + 1 : Nat) : Int) := by
      simp [ofInt, toString, Int.repr]
    rw [signed, List.mem_cons, not_or]
    exact ⟨by decide, feed_not_mem_ofNat (n + 1)⟩

theorem hexDigit_ne_feed (n : Nat) : hexDigit n ≠ '\n' := by
  intro feed
  have value := hexValue?_hexDigit n
  rw [feed] at value
  exact absurd value (by simp [hexValue?])

theorem feed_not_mem_hexDigits (width n : Nat) : '\n' ∉ hexDigits width n := by
  induction width generalizing n with
  | zero => exact List.not_mem_nil
  | succ width ih =>
    rw [hexDigits, List.mem_append, List.mem_singleton, not_or]
    exact ⟨ih (n / 16), (hexDigit_ne_feed n).symm⟩

theorem feed_not_mem_escaped {quote : Char} (other : quote ≠ '\n') (c : Char) :
    '\n' ∉ escaped quote c := by
  by_cases feed : c = '\n'
  · subst feed
    simp [escaped, Ne.symm other]
  · have digits := feed_not_mem_hexDigits
    unfold escaped
    split_ifs <;> simp [Ne.symm feed, digits]

theorem quoteFor_ne_feed (text : Text) : quoteFor text ≠ '\n' := by
  unfold quoteFor
  split <;> decide

theorem feed_not_mem_quoted (text : Text) : '\n' ∉ quoted text := by
  have other := quoteFor_ne_feed text
  simp only [quoted, List.mem_append, List.mem_cons, List.mem_flatMap, List.not_mem_nil, or_false, not_or,
    not_exists, not_and]
  exact ⟨⟨Ne.symm other, fun c _ => feed_not_mem_escaped other c⟩, Ne.symm other⟩

theorem feed_not_mem_trimEnd {c : Char} {text : Text} (none : '\n' ∉ text) : '\n' ∉ trimEnd c text := by
  intro member
  have inside := (List.dropWhile_sublist _).mem (List.mem_reverse.mp member)
  exact none (List.mem_reverse.mp inside)

end Text

open Text

theorem feed_not_mem_commaSeparated {words : List Text} (none : ∀ word ∈ words, '\n' ∉ word) :
    '\n' ∉ commaSeparated words := by
  induction words with
  | nil => exact List.not_mem_nil
  | cons word words ih =>
    obtain ⟨here, behind⟩ := List.forall_mem_cons.mp none
    cases words with
    | nil => simpa [commaSeparated] using here
    | cons next words =>
      rw [commaSeparated] at ih ⊢
      rw [List.intercalate_cons_cons]
      simp [here, ih behind]

namespace Binary64

theorem feed_not_mem_shortest (mantissa : Nat) (exponent : Int) : '\n' ∉ (shortest mantissa exponent).1 := by
  simp only [shortest]
  apply feed_not_mem_trimEnd
  generalize found : List.findSome? _ _ = decimal
  cases decimal with
  | none => exact List.not_mem_nil
  | some decimal =>
    obtain ⟨count, -, made⟩ := List.exists_of_findSome?_eq_some found
    obtain ⟨digits, -, rfl⟩ := Option.map_eq_some_iff.mp made
    exact feed_not_mem_ofNat digits

theorem feed_not_mem_place {digits : Text} (none : '\n' ∉ digits) (layout : Layout) (point : Int) :
    '\n' ∉ place layout digits point := by
  have magnitude (n : Nat) : '\n' ∉ ofInt n := feed_not_mem_ofNat n
  have sign : (if point - 1 < 0 then '-' else '+') ≠ '\n' := by split <;> decide
  have front (count : Nat) : '\n' ∉ digits.take count := fun member => none (List.mem_of_mem_take member)
  have back (count : Nat) : '\n' ∉ digits.drop count := fun member => none (List.mem_of_mem_drop member)
  unfold place
  split_ifs <;> simp only [List.mem_append, List.mem_cons, List.mem_replicate, List.not_mem_nil, none, front,
    back, magnitude, Ne.symm sign, Char.reduceEq, and_false, or_self, not_false_eq_true]

theorem feed_not_mem_text (value : Binary64) : '\n' ∉ value.text := by
  cases value with
  | nan => decide
  | infinite negative => cases negative <;> decide
  | finite negative mantissa exponent =>
    have place := feed_not_mem_place (feed_not_mem_shortest mantissa exponent) layout
      (shortest mantissa exponent).2
    rw [text]
    split_ifs <;> simp [place]

end Binary64

namespace Value

theorem feed_not_mem_showFields (fields : List Nat) : '\n' ∉ showFields fields := by
  refine feed_not_mem_commaSeparated fun word among => ?_
  obtain ⟨n, -, rfl⟩ := List.mem_map.mp among
  exact feed_not_mem_ofNat n

theorem feed_not_mem_named {name : String} (plain : '\n' ∉ name.toList) (n : Int) :
    ∀ word ∈ (if n = 0 then [] else [name.toList ++ '=' :: ofInt n]), '\n' ∉ word := by
  split
  · simp
  · simp [plain, feed_not_mem_ofInt]

theorem feed_not_mem_showDuration (minutes : Int) : '\n' ∉ showDuration minutes := by
  have days : '\n' ∉ "days".toList := by decide
  have seconds : '\n' ∉ "seconds".toList := by decide
  have fields := feed_not_mem_commaSeparated (List.forall_mem_append.mpr
    ⟨feed_not_mem_named days (minutes / 1440), feed_not_mem_named seconds (minutes % 1440 * 60)⟩)
  unfold showDuration
  extract_lets whole left named parts
  have inside : '\n' ∉ (if parts = [] then ['0'] else commaSeparated parts) := by
    split
    · decide
    · exact fields
  rw [List.mem_append, List.mem_append, not_or, not_or]
  exact ⟨⟨by decide, inside⟩, by decide⟩

theorem feed_not_mem_showOffset (minutes : Int) : '\n' ∉ showOffset minutes := by
  unfold showOffset
  split
  · decide
  · simp [feed_not_mem_showDuration]

mutual

/-- A value is shown on one line. -/
theorem feed_not_mem_shown : ∀ value : Value, '\n' ∉ value.shown
  | .null => by
    change '\n' ∉ "None".toList
    decide
  | .boolean value => by
    change '\n' ∉ (if value then "True" else "False").toList
    cases value <;> decide
  | .integer value => by
    change '\n' ∉ ofInt value
    exact feed_not_mem_ofInt value
  | .float value => by
    change '\n' ∉ value.text
    exact value.feed_not_mem_text
  | .text value => by
    change '\n' ∉ quoted value
    exact feed_not_mem_quoted value
  | .list items => by
    change '\n' ∉ '[' :: commaSeparated (shownItems items) ++ [']']
    have inside := feed_not_mem_commaSeparated (feed_not_mem_shownItems items)
    simp [inside]
  | .table entries => by
    change '\n' ∉ '\x7b' :: commaSeparated (shownEntries entries) ++ ['\x7d']
    have inside := feed_not_mem_commaSeparated (feed_not_mem_shownEntries entries)
    simp [inside]
  | .date value => by
    change '\n' ∉ "datetime.date(".toList ++ showFields (dateFields value) ++ [')']
    simp [feed_not_mem_showFields]
  | .clock value => by
    change '\n' ∉ "datetime.time(".toList ++ showFields (clockFields value) ++ [')']
    simp [feed_not_mem_showFields]
  | .moment day time none => by
    change '\n' ∉ "datetime.datetime(".toList ++ showFields (dateFields day ++ clockFields time) ++ [] ++ [')']
    simp [feed_not_mem_showFields]
  | .moment day time (some minutes) => by
    change '\n' ∉ "datetime.datetime(".toList ++ showFields (dateFields day ++ clockFields time) ++
      (", tzinfo=".toList ++ showOffset minutes) ++ [')']
    simp [feed_not_mem_showFields, feed_not_mem_showOffset]

theorem feed_not_mem_shownItems : ∀ items : List Value, ∀ word ∈ shownItems items, '\n' ∉ word
  | [] => fun _ member => absurd member List.not_mem_nil
  | item :: rest => by
    change ∀ word ∈ shown item :: shownItems rest, '\n' ∉ word
    rw [List.forall_mem_cons]
    exact ⟨feed_not_mem_shown item, feed_not_mem_shownItems rest⟩

theorem feed_not_mem_shownEntries :
    ∀ entries : List (Text × Value), ∀ word ∈ shownEntries entries, '\n' ∉ word
  | [] => fun _ member => absurd member List.not_mem_nil
  | (name, value) :: rest => by
    have here := feed_not_mem_shown value
    have quoted := feed_not_mem_quoted name
    change ∀ word ∈ (Text.quoted name ++ [':', ' '] ++ shown value) :: shownEntries rest, '\n' ∉ word
    rw [List.forall_mem_cons]
    exact ⟨by simp [quoted, here], feed_not_mem_shownEntries rest⟩

end

end Value
end NumeralStyle
