import QueryArtifacts.Toml.Value

/-!
# Tables under construction

While a document is read its tables remember how they came to be, because that
decides what may still be added to them.

* `TableKind` — opened by a header, implied by the header of a table below, or
  made by a dotted key.
* `descend?` — go to the table at a path, making the tables that are missing.
* `insertValue?` — add a value under a key.
* `openTable?`, `closeTable?`, `closeElement?` — the table of a header before
  and after its keys.

A value, an inline table included, cannot be entered; the table of an array of
tables is its last element.
-/

namespace QueryArtifacts
namespace Toml

/-- How a table came to be. -/
inductive TableKind where
  | header
  | implied
  | dotted
  deriving DecidableEq, Repr

/-- A value, a table that may still grow, or an array of such tables. -/
inductive Node where
  | value (value : Value)
  | table (kind : TableKind) (entries : List (String × Node))
  | tables (elements : List Node)
  deriving Inhabited

/-- The entries of a table, in order. -/
abbrev Entries := List (String × Node)

mutual

/-- The value that a finished node stands for. -/
def Node.toValue : Node → Value
  | .value value => value
  | .table _ entries => .table (entriesToMembers entries)
  | .tables elements => .array (nodesToItems elements)

/-- The values of the entries of a table. -/
def entriesToMembers : List (String × Node) → List (String × Value)
  | [] => []
  | (name, node) :: rest => (name, node.toValue) :: entriesToMembers rest

/-- The values of the elements of an array of tables. -/
def nodesToItems : List Node → List Value
  | [] => []
  | node :: rest => node.toValue :: nodesToItems rest

end

/-- Replace the node under a name that is present. -/
def replaceNode (name : String) (node : Node) (entries : Entries) : Entries :=
  entries.map fun entry => if entry.1 = name then (name, node) else entry

/-- Apply `f` to the table at a path.  Tables that are missing on the way are
made; a dotted key does not enter the table of a header. -/
def descend? {α : Type} (dotted : Bool) (f : TableKind → Entries → Option (α × Entries)) :
    List String → TableKind → Entries → Option (α × Entries)
  | [], kind, entries => f kind entries
  | name :: path, _, entries =>
      match entries.lookup name with
      | none => do
          let kind := if dotted then .dotted else .implied
          let (answer, inner) ← descend? dotted f path kind []
          return (answer, entries ++ [(name, .table kind inner)])
      | some (.table kind inner) =>
          if dotted && kind = .header then
            none
          else do
            let (answer, inner) ← descend? dotted f path kind inner
            return (answer, replaceNode name (.table kind inner) entries)
      | some (.tables elements) =>
          match elements.getLast? with
          | some (.table kind inner) => do
              let (answer, inner) ← descend? dotted f path kind inner
              let elements := elements.dropLast ++ [.table kind inner]
              return (answer, replaceNode name (.tables elements) entries)
          | _ => none
      | some (.value _) => none

/-- Add an entry under a name that is not present. -/
def addNode? (name : String) (node : Node) (entries : Entries) : Option Entries :=
  if (entries.lookup name).isSome then none else some (entries ++ [(name, node)])

/-- Add a value under a key, which leads through tables of dotted keys. -/
def insertValue? (path : List String) (name : String) (value : Value) (entries : Entries) :
    Option Entries :=
  (descend? true (fun kind inner => do
    if path.isEmpty ∨ kind = .dotted then
      return ((), ← addNode? name (.value value) inner)
    else
      none) path .header entries).map Prod.snd

/-- Take out the table of a header, which was at most implied so far: its
entries, and the document without it. -/
def openTable? (path : List String) (name : String) (root : Entries) :
    Option (Entries × Entries) :=
  descend? false (fun _ inner =>
    match inner.lookup name with
    | none => some ([], inner)
    | some (.table .implied entries) =>
        some (entries, inner.filter fun entry => entry.1 ≠ name)
    | some _ => none) path .header root

/-- Put back the table of a header. -/
def closeTable? (path : List String) (name : String) (entries root : Entries) :
    Option Entries :=
  (descend? false (fun _ inner => do
    return ((), ← addNode? name (.table .header entries) inner)) path .header root).map Prod.snd

/-- Add an element to the array of tables of a header. -/
def closeElement? (path : List String) (name : String) (entries root : Entries) :
    Option Entries :=
  (descend? false (fun _ inner =>
    match inner.lookup name with
    | none => some ((), inner ++ [(name, .tables [.table .header entries])])
    | some (.tables elements) =>
        some ((), replaceNode name (.tables (elements ++ [.table .header entries])) inner)
    | some _ => none) path .header root).map Prod.snd

end Toml
end QueryArtifacts
