import NumeralStyle.Toml.Fault
import NumeralStyle.Value

/-! A TOML document as it is built. Each statement opens a table, adds a table to a list of tables,
or gives a key a value; what was given once can neither be given again nor be opened as something
else. Values keep the order of the statements. -/
namespace NumeralStyle.Toml

/-- Change the table that a key leads to, and make tables on the way where nothing is there. A list
of tables on the way stands for its last one, if `intoLists` says so. -/
def alter (intoLists : Bool) (change : Table → Except Fault Table) :
    Key → Table → Except Fault Table
  | [], table => change table
  | name :: rest, table => do
    match Table.get? table name with
    | none => return Table.set table name (.table (← alter intoLists change rest []))
    | some (.table inner) =>
      return Table.set table name (.table (← alter intoLists change rest inner))
    | some (.list items) =>
      match intoLists, items.getLast? with
      | true, some (.table last) =>
        let changed ← alter intoLists change rest last
        return Table.set table name (.list (items.dropLast ++ [.table changed]))
      | _, _ => .error (.redefined [name])
    | some _ => .error (.redefined [name])

/-- Give a name of a table a value, unless it has one. -/
def define (name : Text) (value : Value) (table : Table) : Except Fault Table :=
  if (Table.get? table name).isSome then .error (.redefined [name])
  else .ok (Table.set table name value)

/-- Add an empty table to the list of tables of a name. -/
def extend (name : Text) (table : Table) : Except Fault Table :=
  match Table.get? table name with
  | none => .ok (Table.set table name (.list [.table []]))
  | some (.list items) => .ok (Table.set table name (.list (items ++ [.table []])))
  | some _ => .error (.redefined [name])

/-- Whether a value can no longer be changed once it is given: tables and lists written within a
value cannot. -/
def isClosed : Value → Bool
  | .table _ | .list _ => true
  | _ => false

/-- A document as far as its statements have been read. -/
structure Document where
  root : Table
  /-- The key of the table that was opened last. -/
  header : Key
  /-- The keys that cannot be opened as tables. -/
  opened : List Key
  /-- The keys that cannot be opened as tables from the next header on. -/
  pending : List Key
  /-- The keys of values that cannot be changed. -/
  closed : List Key

namespace Document

/-- The document without statements. -/
def empty : Document := ⟨[], [], [], [], []⟩

/-- Whether a key leads into a value that cannot be changed. -/
def isClosed (document : Document) (key : Key) : Bool :=
  document.closed.any (·.isPrefixOf key)

/-- The document before a header is read. -/
def settle (document : Document) : Document :=
  { document with opened := document.pending ++ document.opened, pending := [] }

/-- Open a table. -/
def openTable (document : Document) (key : Key) : Except Fault Document := do
  if document.opened.contains key || document.isClosed key then .error (.redefined key)
  else
    let root ← alter true .ok key document.root
    return { document with root, header := key, opened := key :: document.opened }

/-- Open a new table at the end of a list of tables. Whatever was opened or closed below the key
belongs to the table before it. -/
def openElement (document : Document) (key : Key) : Except Fault Document := do
  if document.isClosed key then .error (.redefined key)
  else
    let above (other : Key) : Bool := !key.isPrefixOf other
    let root ← alter true (extend (key.getLast?.getD [])) key.dropLast document.root
    return { document with
      root
      header := key
      opened := key :: document.opened.filter above
      closed := document.closed.filter above }

/-- Give a key of the open table a value. -/
def assign (document : Document) (key : Key) (value : Value) : Except Fault Document := do
  let parents := (List.range (key.length - 1)).map fun count =>
    document.header ++ key.take (count + 1)
  let parent := document.header ++ key.dropLast
  match parents.find? document.opened.contains with
  | some opened => .error (.redefined opened)
  | none =>
    if document.isClosed parent then .error (.redefined parent)
    else
      let root ← alter true (define (key.getLast?.getD []) value) parent document.root
      return { document with
        root
        pending := parents ++ document.pending
        closed :=
          if Toml.isClosed value then (document.header ++ key) :: document.closed
          else document.closed }

end Document
end NumeralStyle.Toml
