import NumeralStyle.Text.Stretches

/-! Paths of files, as names between slashes. Empty names and single points are dropped; two points
are kept, because what they lead to depends on the files there are. A path starts at the root where
its text starts with a slash, and the text that starts with exactly two keeps both. -/
namespace NumeralStyle

/-- A path of a file. -/
structure Path where
  /-- The slashes it starts with: none, one or two. -/
  root : Text
  names : List Text
  deriving DecidableEq, Repr

namespace Path

/-- The slashes that the path of a text starts with. -/
def rootOf : Text → Text
  | '/' :: '/' :: '/' :: _ => ['/']
  | '/' :: '/' :: _ => ['/', '/']
  | '/' :: _ => ['/']
  | _ => []

/-- The path that a text names. -/
def ofText (text : Text) : Path :=
  ⟨rootOf text, (Text.stretches '/' text).filter fun name => name != [] && name != ['.']⟩

/-- The text of a path; the path without names and root is the point. -/
def text (path : Path) : Text :=
  if path.names = [] ∧ path.root = [] then ['.']
  else path.root ++ List.intercalate ['/'] path.names

/-- The path without its last name. -/
def parent (path : Path) : Path := { path with names := path.names.dropLast }

/-- The path with one more name. -/
def child (path : Path) (name : Text) : Path := { path with names := path.names ++ [name] }

end Path
end NumeralStyle
