import SortPipeline.Document.Path
import SortPipeline.Expr
import SortPipeline.Json.Printer
import SortPipeline.RunFault
import SortPipeline.Text.Lowercase

namespace SortPipeline

def Value.lowered? : Option Value → Option String
  | none | some .null => some ""
  | some (.string s) => some (Text.lowercase s)
  | some (.number n) => some n.text
  | some _ => none

namespace Expr

mutual

def evaluate (target : String) (document : Value) : Expr → Except RunFault (Option Value)
  | .field path => .ok (document.getPath? path)
  | .literal value => .ok (some value)
  | .lower inner =>
    match inner.evaluate target document with
    | .error fault => .error fault
    | .ok found =>
      match Value.lowered? found with
      | some text => .ok (some (.string text))
      | none => .error (.lowerOfNonScalar target (.ofValue? found))
  | .size inner =>
    match inner.evaluate target document with
    | .error fault => .error fault
    | .ok (some (.array items)) => .ok (some (.number (.int items.length)))
    | .ok found => .error (.sizeOfNonArray target (.ofValue? found))
  | .coalesce candidates => evaluateFirst target document candidates

def evaluateFirst (target : String) (document : Value) :
    List Expr → Except RunFault (Option Value)
  | [] => .ok none
  | e :: rest =>
    match e.evaluate target document with
    | .error fault => .error fault
    | .ok none | .ok (some .null) => evaluateFirst target document rest
    | .ok found => .ok found

end

end Expr

end SortPipeline
