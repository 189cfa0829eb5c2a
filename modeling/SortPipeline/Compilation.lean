import SortPipeline.Directive
import SortPipeline.Field.Registry
import SortPipeline.Pipeline
import SortPipeline.Plan

namespace SortPipeline

structure CompileOptions where
  projectPending : Bool := false
  fallback : SortKeys := .idAscending
  trace : Bool := false

structure Request where
  token : Token
  spec : FieldSpec

namespace Request

def plan? (r : Request) : Option FieldPlan := FieldPlan.ofSpec? r.token.name r.spec

def direction (r : Request) : Direction := .ofDescending r.token.descending

end Request

def Registry.requests (registry : Registry) (directive : String) : List Request :=
  (Directive.tokens directive).filterMap fun t => (registry.get? t.name).map (Request.mk t)

structure Draft where
  keys : SortKeys := .empty
  temporaries : List (String × Expr) := []

namespace Draft

def add (d : Draft) (plan : FieldPlan) (direction : Direction) : Draft where
  keys := d.keys.set plan.sortPath direction
  temporaries :=
    if d.keys.contains plan.sortPath then d.temporaries
    else
      match plan with
      | .direct _ => d.temporaries
      | .temporary name expr => d.temporaries ++ [(name, expr)]

def addAll? (d : Draft) : List Request → Option Draft
  | [] => some d
  | r :: rest =>
    match r.plan? with
    | none => none
    | some plan => (d.add plan r.direction).addAll? rest

def toPipeline (d : Draft) (projectPending : Bool) : Pipeline :=
  if d.temporaries.isEmpty then .sortOnly d.keys
  else
    ⟨[.set d.temporaries, .sort d.keys] ++
      if projectPending then [] else [.unset (Entries.names d.temporaries)]⟩

end Draft

namespace Registry

/-- The fallback order stands in for a directive that is absent or empty, that names no field of
the registry, or that names one without a plan. -/
def compile (registry : Registry) (directive : Option String) (options : CompileOptions) :
    Pipeline :=
  match directive.filter (· ≠ "") with
  | none => .sortOnly options.fallback
  | some directive =>
    match registry.requests directive with
    | [] => .sortOnly options.fallback
    | requests =>
      match Draft.addAll? {} requests with
      | none => .sortOnly options.fallback
      | some draft => draft.toPipeline options.projectPending

end Registry

end SortPipeline
