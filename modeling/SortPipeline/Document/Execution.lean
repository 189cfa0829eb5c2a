import SortPipeline.Document.Evaluation
import SortPipeline.Document.Order
import SortPipeline.Document.StableSort
import SortPipeline.Pipeline

namespace SortPipeline

namespace Stage

def evaluateAll (document : Value) :
    List (String × Expr) → Except RunFault (List (String × Option Value))
  | [] => .ok []
  | (name, e) :: rest =>
    match e.evaluate name document with
    | .error fault => .error fault
    | .ok value => (evaluateAll document rest).map ((name, value) :: ·)

def writeAll (document : Value) : List (String × Option Value) → Except RunFault Value
  | [] => .ok document
  | (_, none) :: rest => writeAll document rest
  | (name, some value) :: rest =>
    match document.setPath? name value with
    | none => .error (.parentNotObject name)
    | some document => writeAll document rest

/-- Every assignment sees the document as it was. -/
def assign (assignments : List (String × Expr)) (document : Value) : Except RunFault Value :=
  (evaluateAll document assignments).bind (writeAll document)

def drop (names : List String) (document : Value) : Value :=
  names.foldl (fun document name => document.erasePath name) document

def applyTo (document : Value) : Stage → Except RunFault Value
  | .set assignments => assign assignments document
  | .sort _ => .ok document
  | .unset names => .ok (drop names document)

def run (documents : List Value) : Stage → Except RunFault (List Value)
  | .sort keys => .ok (StableSort.sort (fun a b => keys.compare a b == .lt) documents)
  | stage => documents.mapM stage.applyTo

end Stage

def Pipeline.run (documents : List Value) (p : Pipeline) : Except RunFault (List Value) :=
  p.stages.foldlM Stage.run documents

end SortPipeline
