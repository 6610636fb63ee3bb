import NumeralStyle.Text

/-! What can be wrong with a TOML document. All but two of the faults are faults of its syntax; the
others are an integer too long to be read, and values that hold values too deeply. How a fault of the
syntax is put in words is left open, except that it takes one line. -/
namespace NumeralStyle.Toml

/-- Names from the root of a document to a value. -/
abbrev Key := List Text

/-- Why a text is no TOML document, or cannot be read. -/
inductive Fault
  | expected (what : String)
  | illegal (c : Char)
  | invalidDate
  | redefined (key : Key)
  /-- An integer with more digits than an integer may have. -/
  | longInteger (digits : Nat)
  /-- A value that holds values too deeply. -/
  | tooDeep
  deriving DecidableEq, Repr

namespace Fault

/-- Whether the text is no TOML document. -/
def isSyntax : Fault → Bool
  | .longInteger _ | .tooDeep => false
  | _ => true

end Fault

/-- What a reader of documents says of a fault of their syntax. -/
class Wording where
  ofSyntax : (document : Text) → Fault → String
  oneLine : ∀ document fault, '\n' ∉ (ofSyntax document fault).toList

/-- The wording that keeps the particulars to itself. -/
instance Wording.brief : Wording where
  ofSyntax _ _ := "not a TOML document"
  oneLine _ _ := by decide

/-- The fault of a document in words. -/
def Fault.message [Wording] (document : Text) : Fault → String
  | .longInteger digits =>
    "Exceeds the limit (4300 digits) for integer string conversion: value has " ++
      toString digits ++ " digits; use sys.set_int_max_str_digits() to increase the limit"
  | .tooDeep => "maximum recursion depth exceeded"
  | fault => Wording.ofSyntax document fault

end NumeralStyle.Toml
