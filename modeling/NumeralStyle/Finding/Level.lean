import NumeralStyle.Finding.Kind

/-! Levels. A level says what becomes of the findings of a kind: they are left out, reported, or
reported and counted as a failure. A kind without a level of its own is reported. -/
namespace NumeralStyle

/-- What becomes of the findings of a kind. -/
inductive Level
  | allow
  | warn
  | deny
  deriving DecidableEq, Repr

namespace Level

/-- Every level, the mildest first. -/
def all : List Level := [.allow, .warn, .deny]

/-- The name of the level in settings. -/
def tag : Level → String
  | .allow => "allow"
  | .warn => "warn"
  | .deny => "deny"

/-- The level that a setting names, letter for letter. -/
def ofTag? (name : Text) : Option Level := all.find? fun level => level.tag.toList == name

/-- What a report calls a finding of the level. -/
def label : Level → String
  | .deny => "error"
  | _ => "warning"

end Level

/-- The kinds that have a level of their own, in the order in which they first got one. -/
abbrev Levels := List (FindingKind × Level)

namespace Levels

/-- The level of a kind, if it has one of its own. -/
def get? (levels : Levels) (kind : FindingKind) : Option Level := levels.lookup kind

/-- Give a kind a level, in the place of the one it had or else at the end. -/
def set (levels : Levels) (kind : FindingKind) (level : Level) : Levels :=
  match levels with
  | [] => [(kind, level)]
  | (other, old) :: rest =>
    if other = kind then (other, level) :: rest else (other, old) :: Levels.set rest kind level

/-- The level of a kind; without one of its own it is reported as a warning. -/
def levelOf (levels : Levels) (kind : FindingKind) : Level := (levels.get? kind).getD .warn

theorem get?_set_self (levels : Levels) (kind : FindingKind) (level : Level) :
    (levels.set kind level).get? kind = some level := by
  induction levels with
  | nil => simp [set, get?]
  | cons entry rest ih =>
    obtain ⟨other, old⟩ := entry
    by_cases same : other = kind
    · simp [set, same, get?]
    · simp only [set, same, if_false]
      simpa [get?, List.lookup_cons, Ne.symm same, beq_eq_false_iff_ne.2 (Ne.symm same)] using ih

theorem get?_set_of_ne (levels : Levels) {kind other : FindingKind} (level : Level)
    (different : other ≠ kind) : (levels.set kind level).get? other = levels.get? other := by
  induction levels with
  | nil => simp [set, get?, List.lookup_cons, beq_eq_false_iff_ne.2 different]
  | cons entry rest ih =>
    obtain ⟨key, old⟩ := entry
    by_cases same : key = kind
    · simp [set, same, get?, List.lookup_cons, beq_eq_false_iff_ne.2 different]
    · simp only [set, same, if_false]
      by_cases here : other = key
      · simp [get?, here]
      · simpa [get?, List.lookup_cons, beq_eq_false_iff_ne.2 here] using ih

end Levels
end NumeralStyle
