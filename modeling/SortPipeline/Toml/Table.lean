import SortPipeline.Toml.Item

/-! The tables of a document, from its statements in their order. Nothing may be written twice,
and no table may be added to from a place where its kind forbids it. -/

namespace SortPipeline.Toml

inductive Statement
  | table (path : List String) (name : String)
  | tables (path : List String) (name : String)
  | entry (path : List String) (name : String) (item : Item)

/-- Whether a path may lead through a table. A header leads through all but inline tables, a
dotted key only through those that no header and no braces have written. -/
def Origin.mayPass (path table : Origin) : Bool :=
  match path with
  | .dotted => table = .implied || table = .dotted
  | _ => table ≠ .inline

/-- Changes the table at the end of a path; missing tables on the way take the origin of the path.
An array of tables is entered at its last element. -/
def change (path : Origin)
    (f : Origin → List (String × Item) → Option (List (String × Item))) :
    List String → Origin → List (String × Item) → Option (List (String × Item))
  | [], origin, entries => f origin entries
  | name :: rest, _, entries =>
    match Entries.get? name entries with
    | none => (change path f rest path []).map fun es => Entries.set name (.table path es) entries
    | some (.table origin es) =>
      if path.mayPass origin then
        (change path f rest origin es).map fun es => Entries.set name (.table origin es) entries
      else none
    | some (.tables elements) =>
      match elements.getLast? with
      | some (.table origin es) =>
        (change path f rest origin es).map fun es =>
          Entries.set name (.tables (elements.dropLast ++ [.table origin es])) entries
      | _ => none
    | some _ => none

/-- Writes an entry below a table. The table at the end of a dotted key has to be one of dotted
keys, and that of a plain key must not be. -/
def writeEntry (path : List String) (name : String) (item : Item) (origin : Origin)
    (entries : List (String × Item)) : Option (List (String × Item)) :=
  change .dotted (fun origin es =>
    if (origin == .dotted) == path.isEmpty then none
    else if (Entries.get? name es).isSome then none
    else some (Entries.set name item es)) path origin entries

def writeTable (name : String) (entries : List (String × Item)) : Option (List (String × Item)) :=
  match Entries.get? name entries with
  | none => some (Entries.set name (.table .header []) entries)
  | some (.table .implied es) => some (Entries.set name (.table .header es) entries)
  | some _ => none

def writeElement (name : String) (entries : List (String × Item)) :
    Option (List (String × Item)) :=
  match Entries.get? name entries with
  | none => some (Entries.set name (.tables [.table .header []]) entries)
  | some (.tables es) => some (Entries.set name (.tables (es ++ [.table .header []])) entries)
  | some _ => none

structure Building where
  root : List (String × Item) := []
  header : List String := []

namespace Building

def add (b : Building) : Statement → Option Building
  | .table path name =>
    (change .implied (fun _ => writeTable name) path .header b.root).map fun root =>
      ⟨root, path ++ [name]⟩
  | .tables path name =>
    (change .implied (fun _ => writeElement name) path .header b.root).map fun root =>
      ⟨root, path ++ [name]⟩
  | .entry path name item =>
    (change .implied (writeEntry path name item) b.header .header b.root).map fun root =>
      { b with root }

end Building

def rootOfStatements? (statements : List Statement) : Option (List (String × Item)) :=
  (statements.foldlM Building.add {}).map (·.root)

def inlineTable? (entries : List (List String × String × Item)) : Option Item :=
  (entries.foldlM (fun es (path, name, item) => writeEntry path name item .inline es) []).map
    (.table .inline)

end SortPipeline.Toml
