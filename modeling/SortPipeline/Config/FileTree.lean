import SortPipeline.Text.Segments

namespace SortPipeline

/-- A file has no contents if its bytes are no text. -/
inductive FileNode
  | directory
  | file (contents : Option String)

abbrev FileSystem := String → Option FileNode

structure FileTree where
  nodes : List (List String × FileNode)

namespace FileTree

def nodeAt? (t : FileTree) (names : List String) : Option FileNode :=
  if names.isEmpty then some .directory
  else (t.nodes.find? fun n => n.1 == names).map (·.2)

def isDirectory (t : FileTree) (names : List String) : Bool :=
  match t.nodeAt? names with
  | some .directory => true
  | _ => false

def follow? (t : FileTree) (here : List String) : List String → Option (List String)
  | [] => some here
  | part :: rest =>
    if !t.isDirectory here then none
    else if part = "" ∨ part = "." then t.follow? here rest
    else if part = ".." then
      if here.isEmpty then none else t.follow? here.dropLast rest
    else t.follow? (here ++ [part]) rest

def find? (t : FileTree) : FileSystem := fun path =>
  match Text.segments '/' path with
  | [] | "" :: _ => none
  | parts => (t.follow? [] parts).bind t.nodeAt?

def places (here : List (List String)) (part : String) : List (List String) :=
  let names := here.head?.getD []
  if part = "" ∨ part = "." then here
  else if part = ".." then names.dropLast :: here
  else (names ++ [part]) :: here

def write (path : String) (node : FileNode) (t : FileTree) : FileTree :=
  match (Text.segments '/' path).foldl places [] with
  | [] => t
  | target :: through => ⟨(target, node) :: through.map (·, .directory) ++ t.nodes⟩

end FileTree

end SortPipeline
