import NumeralStyle.CharClass.Printable
import NumeralStyle.Text.Quoted

/-! The kinds of findings. A kind has a tag, by which settings name it; a setting may write the tag
in any case, with hyphens for underscores and with blanks around it. -/
namespace NumeralStyle

/-- What can be wrong with the style of a literal. -/
inductive FindingKind
  | mixedCaseHex
  | unseparatedSuffix
  | zeroPrefixed
  | largeGroups
  | inconsistentGroups
  deriving DecidableEq, Repr

namespace FindingKind

/-- Every kind, in the order in which messages list them. -/
def all : List FindingKind :=
  [.mixedCaseHex, .unseparatedSuffix, .zeroPrefixed, .largeGroups, .inconsistentGroups]

/-- The stable name of the kind. -/
def tag : FindingKind → String
  | .mixedCaseHex => "mixed_case_hex"
  | .unseparatedSuffix => "unseparated_literal_suffix"
  | .zeroPrefixed => "zero_prefixed_literal"
  | .largeGroups => "large_digit_groups"
  | .inconsistentGroups => "inconsistent_digit_grouping"

/-- What a finding of the kind says. One kind speaks of the sort of number that the literal is; the
others say the same of all. -/
def message (kind : FindingKind) (sort : String) : String :=
  match kind with
  | .mixedCaseHex => "inconsistent casing in hexadecimal literal"
  | .unseparatedSuffix => sort ++ " type suffix should be separated by an underscore"
  | .zeroPrefixed => "this is a decimal constant"
  | .largeGroups => "digit groups should be smaller"
  | .inconsistentGroups => "digits grouped inconsistently by underscores"

/-- A name without what settings may vary. Only the letters of ASCII have a case here: no letter
beyond it has a lower case that occurs in a tag. -/
def normalized (name : Text) : Text :=
  Text.replace '-' '_' ((Text.trim CharClass.isBlank name).map Char.toLower)

/-- A name that is the tag of no kind. -/
structure Unknown where
  name : Text
  deriving DecidableEq, Repr

/-- The fault in words. -/
def Unknown.message (unknown : Unknown) : String :=
  "unknown lint " ++ Text.quotedString unknown.name ++ " (expected one of: " ++
    String.intercalate ", " (all.map tag) ++ ")"

/-- The kind that a setting names. -/
def ofTag (name : Text) : Except Unknown FindingKind :=
  match all.find? fun kind => kind.tag.toList == normalized name with
  | some kind => .ok kind
  | none => .error ⟨name⟩

end FindingKind
end NumeralStyle
