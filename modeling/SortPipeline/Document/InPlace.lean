import SortPipeline.Document.Execution

namespace SortPipeline

/-- Done or refused, there is a document afterwards. -/
inductive Outcome
  | done (after : Value)
  | refused (fault : RunFault) (after : Value)

namespace Outcome

def map (f : Value → Value) : Outcome → Outcome
  | done after => done (f after)
  | refused fault after => refused fault (f after)

def andThen (next : Value → Outcome) : Outcome → Outcome
  | done after => next after
  | refused fault after => refused fault after

def result : Outcome → Except RunFault Value
  | done after => .ok after
  | refused fault _ => .error fault

end Outcome

namespace Value

def writeSegments (path : String) (value : Value) : List String → Value → Outcome
  | [], document => .refused (.emptyPath path) document
  | [name], .object members => .done (.object (Entries.set name value members))
  | name :: next :: rest, .object members =>
    (writeSegments path value (next :: rest) ((Entries.get? name members).getD (.object []))).map
      fun v => .object (Entries.set name v members)
  | _ :: _, document => .refused (.parentNotObject path) document

def write (document : Value) (path : String) (value : Value) : Outcome :=
  writeSegments path value (Path.segments path) document

def removeAt (name : String) : List String → Value → Option Value × Value
  | [], .object members => (Entries.get? name members, .object (Entries.erase name members))
  | s :: rest, .object members =>
    match Entries.get? s members with
    | none => (none, .object members)
    | some v =>
      let (taken, v) := removeAt name rest v
      (taken, .object (Entries.set s v members))
  | _, document => (none, document)

def remove (document : Value) (path : String) : Option Value × Value :=
  match Text.cutLast? '.' path.toList with
  | some (parent, name) =>
    removeAt (String.ofList name) (Path.segments (String.ofList parent)) document
  | none => removeAt path [] document

end Value

namespace Stage

def writeEach : List (String × Option Value) → Value → Outcome
  | [], document => .done document
  | (_, none) :: rest, document => writeEach rest document
  | (name, some value) :: rest, document => (document.write name value).andThen (writeEach rest)

/-- Nothing is written before all values are known. -/
def assignInPlace (assignments : List (String × Expr)) (document : Value) : Outcome :=
  match evaluateAll document assignments with
  | .error fault => .refused fault document
  | .ok writes => writeEach writes document

def dropInPlace (names : List String) (document : Value) : Value :=
  names.foldl (fun document name => (document.remove name).2) document

end Stage

end SortPipeline
