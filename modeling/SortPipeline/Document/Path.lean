import SortPipeline.Json.Value
import SortPipeline.Text.Segments

namespace SortPipeline

namespace Path

def segments (path : String) : List String := Text.segments '.' path

end Path

namespace Value

def getSegments? : List String → Value → Option Value
  | [], v => some v
  | s :: rest, v => (v.member? s).bind (getSegments? rest)

def setSegments? (value : Value) : List String → Value → Option Value
  | [], _ => some value
  | s :: rest, .object members =>
    (setSegments? value rest ((Entries.get? s members).getD (.object []))).map fun v =>
      .object (Entries.set s v members)
  | _ :: _, _ => none

def takeSegments? : List String → Value → Option (Value × Value)
  | [], _ => none
  | [s], .object members =>
    (Entries.get? s members).map fun v => (v, .object (Entries.erase s members))
  | s :: t :: rest, .object members =>
    ((Entries.get? s members).bind (takeSegments? (t :: rest))).map fun (taken, v) =>
      (taken, .object (Entries.set s v members))
  | _ :: _, _ => none

def getPath? (path : String) (document : Value) : Option Value :=
  document.getSegments? (Path.segments path)

def setPath? (path : String) (document value : Value) : Option Value :=
  setSegments? value (Path.segments path) document

def takePath? (path : String) (document : Value) : Option (Value × Value) :=
  document.takeSegments? (Path.segments path)

def erasePath (path : String) (document : Value) : Value :=
  match document.takePath? path with
  | some (_, rest) => rest
  | none => document

end Value

end SortPipeline
