import SortPipeline.Expr
import SortPipeline.Field.Spec

namespace SortPipeline

inductive Strategy
  | lower
  | size
  | coalesce
  deriving DecidableEq

def Strategy.tag : Strategy → String
  | .lower => "lower"
  | .size => "size"
  | .coalesce => "coalesce"

namespace Temporary

/-- Hyphens and dots are spelled with two characters each, so that no two keys share a spelling
and no spelling has a dot. -/
def escape : Char → List Char
  | '-' => ['-', '_']
  | '.' => ['-', '-']
  | c => [c]

def marker : String := "__sort_"

def name (key tag : String) : String :=
  String.ofList (key.toList.flatMap escape ++ marker.toList ++ tag.toList)

end Temporary

inductive FieldPlan
  | direct (path : String)
  | temporary (name : String) (expr : Expr)

namespace FieldPlan

def sortPath : FieldPlan → String
  | .direct path => path
  | .temporary name _ => name

def derived (path : String) (strategy : Strategy) (expr : Expr) : FieldPlan :=
  .temporary (Temporary.name path strategy.tag) expr

def candidates (path : String) (spec : FieldSpec) : List Expr :=
  .field path ::
    ((spec.replacementKey?.map .field).toList ++ (spec.replacementValue?.map .literal).toList)

def ofSpec? (name : String) (spec : FieldSpec) : Option FieldPlan :=
  let path := spec.storagePath name
  match spec.kind with
  | .string => some (derived path .lower (.lower (.field path)))
  | .array => some (derived path .size (.size (.field path)))
  | .date =>
    if spec.replacesNull then some (derived path .coalesce (.coalesce (candidates path spec)))
    else some (.direct path)
  | .number | .boolean => some (.direct path)
  | .unrecognized => none

end FieldPlan

end SortPipeline
