import NumeralStyle.Files.Path

/-! Files and directories below a working directory, and what a path leads to among them. Above the
working directory there are directories of which nothing is known. A path that starts at the root
leads to the directories that every system has, and to the device that is always empty. -/
namespace NumeralStyle

/-- Why the system does not open what a path leads to: its number for that, and in words. -/
structure SystemFault where
  number : Nat
  reason : String
  deriving DecidableEq, Repr

namespace SystemFault

/-- There is nothing at the path. -/
def missing : SystemFault := ⟨2, "No such file or directory"⟩

/-- A name on the way belongs to a file. -/
def notDirectory : SystemFault := ⟨20, "Not a directory"⟩

/-- A name on the way, or the whole path, is longer than any can be. -/
def tooLong : SystemFault := ⟨36, "File name too long"⟩

/-- The file may not be read. -/
def denied : SystemFault := ⟨13, "Permission denied"⟩

/-- Links on the way lead in a circle. -/
def circle : SystemFault := ⟨40, "Too many levels of symbolic links"⟩

/-- The faults that are common. -/
def common : List SystemFault := [missing, denied, notDirectory, tooLong, circle]

/-- The fault of a number, in the words that go with it where it is common. -/
def ofNumber (number : Nat) (reason : String) : SystemFault :=
  (common.find? (·.number == number)).getD ⟨number, reason⟩

/-- The numbers of the faults that say that a path leads nowhere: nothing is there, what is there is
not open, a name on the way belongs to a file, or links on the way lead in a circle. -/
def absences : List Nat := [2, 9, 20, 40]

/-- Whether the fault says that the path leads nowhere. -/
def isAbsence (fault : SystemFault) : Bool := absences.contains fault.number

end SystemFault

/-- What a path leads to. -/
inductive Entry
  | file (bytes : List UInt8)
  | directory
  | failed (fault : SystemFault)
  /-- The path has a NUL character, which no path can have. -/
  | nul
  deriving DecidableEq, Repr

/-- What a path leads to where there is nothing. -/
def Entry.missing : Entry := .failed .missing

/-- A file or a directory. -/
inductive Node
  | file (bytes : List UInt8)
  | directory
  deriving DecidableEq, Repr

/-- The files and directories below a working directory, each with the names that lead to it. -/
abbrev Tree := List (List Text × Node)

namespace Tree

/-- The node at a place; the working directory is one. -/
def node? (tree : Tree) (place : List Text) : Option Node :=
  if place = [] then some .directory else tree.lookup place

/-- The tree with a node put at a place, and with the directories that lead there. -/
def write (tree : Tree) (place : List Text) (node : Node) : Tree :=
  let above := (List.range place.length).map fun count => (place.take count, Node.directory)
  (place, node) :: above.filter (fun entry => (tree.node? entry.1).isNone) ++
    tree.filter (·.1 != place)

/-- The tree without the node at a place and whatever is below it. -/
def remove (tree : Tree) (place : List Text) : Tree :=
  tree.filter fun entry => !place.isPrefixOf entry.1

/-- Where names lead from a place in the tree, or from a place above it of which nothing is known.
`above` is the place above the top of the tree. -/
def follow (tree : Tree) (above : Option (List Text)) :
    (place : Option (List Text)) → (names : List Text) → Entry
  | none, [] => .directory
  | none, name :: rest => if name = ['.', '.'] then follow tree above none rest else .missing
  | some place, [] =>
    match tree.node? place with
    | some (.file bytes) => .file bytes
    | some .directory => .directory
    | none => .missing
  | some place, name :: rest =>
    match tree.node? place with
    | none => .missing
    | some (.file _) => .failed .notDirectory
    | some .directory =>
      if name = ['.', '.'] then
        follow tree above (if place = [] then above else some place.dropLast) rest
      else if 255 < (String.ofList name).utf8ByteSize then .failed .tooLong
      else follow tree above (some (place ++ [name])) rest

/-- What is known of the files and directories below the root. -/
def system : Tree :=
  (["dev", "null"].map String.toList, .file []) ::
    ["bin", "dev", "etc", "home", "lib", "opt", "proc", "root", "run", "tmp", "usr", "var"].map
      fun name => ([name.toList], .directory)

/-- What a path leads to. -/
def look (tree : Tree) (path : Path) : Entry :=
  if path.names.any (·.contains '\x00') then .nul
  else if 4095 < (String.ofList path.text).utf8ByteSize then .failed .tooLong
  else if path.root = [] then tree.follow none (some []) path.names
  else system.follow (some []) (some []) path.names

end Tree
end NumeralStyle
