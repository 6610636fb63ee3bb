import NumeralStyle.Editor.Diagnostic

/-! Quick fixes. Each spelling that a diagnostic carries along can replace its range. Diagnostics of
other publishers are left alone. What an editor sends back need not hold spellings at all. -/
namespace NumeralStyle.Editor

/-- Why what a diagnostic carries along offers no spellings. -/
inductive PayloadFault
  /-- It has no elements. -/
  | scalar (payload : Value)
  /-- One of its elements is no text. -/
  | notText (item : Value)
  deriving Repr

namespace PayloadFault

/-- The fault in words, where `refusal` says what is wrong with a replacement by a value that is no
text. -/
def message (refusal : Value → String) : PayloadFault → String
  | .scalar payload => "'" ++ payload.sort ++ "' object is not iterable"
  | .notText item => refusal item

end PayloadFault

/-- The elements of what a diagnostic carries along: those of a list, the characters of a text, or
the names of a table. -/
def payloadElements : Value → Except PayloadFault (List Value)
  | .list items => .ok items
  | .text text => .ok (text.map fun c => .text [c])
  | .table entries => .ok (entries.map fun entry => .text entry.1)
  | payload => .error (.scalar payload)

/-- The spelling that an element is. -/
def spellingOf : Value → Except PayloadFault Text
  | .text spelling => .ok spelling
  | item => .error (.notText item)

/-- The replacement of a range of a document, for the sake of a diagnostic. -/
structure QuickFix where
  /-- The address of the document. -/
  document : Text
  diagnostic : Diagnostic
  spelling : Text
  deriving Repr

namespace QuickFix

/-- What an editor calls the fix. -/
def title (fix : QuickFix) : Text := "Replace with `".toList ++ fix.spelling ++ ['`']

/-- The range that the fix replaces. -/
def range (fix : QuickFix) : Range := fix.diagnostic.range

/-- The spellings that a diagnostic offers. -/
def spellings (diagnostic : Diagnostic) : Except PayloadFault (List Text) := do
  match diagnostic.payload with
  | none => return []
  | some payload =>
    if diagnostic.source = some publisher ∧ !payload.isNothing then
      (← payloadElements payload).mapM spellingOf
    else return []

/-- The fixes for a diagnostic. -/
def ofDiagnostic (document : Text) (diagnostic : Diagnostic) :
    Except PayloadFault (List QuickFix) :=
  (spellings diagnostic).map fun list => list.map fun spelling => ⟨document, diagnostic, spelling⟩

/-- The fixes for diagnostics, in order. -/
def ofDiagnostics (document : Text) (diagnostics : List Diagnostic) :
    Except PayloadFault (List QuickFix) :=
  (diagnostics.mapM (ofDiagnostic document)).map List.flatten

end QuickFix
end NumeralStyle.Editor
