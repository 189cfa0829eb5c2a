import SortPipeline.Compilation
import SortPipeline.Document.Execution
import SortPipeline.Json.Printer
import SortPipeline.Log

namespace SortPipeline

inductive TraceSink
  | recording (pipelines : List Pipeline)
  | silent
  | logging

namespace TraceSink

def receive (p : Pipeline) : TraceSink → TraceSink
  | .recording pipelines => .recording (pipelines ++ [p])
  | sink => sink

def recorded : TraceSink → List Pipeline
  | .recording pipelines => pipelines
  | _ => []

end TraceSink

structure Compiler where
  registry : Option Registry := none
  sink : TraceSink := .logging

inductive Call
  | apply (registry : Registry)
  | compile (directive : Option String) (options : CompileOptions)
  | compileValue (directive : Option Value) (options : CompileOptions)
  | run (directive : Option Value) (options : CompileOptions) (documents : List Value)

inductive Answer
  | applied
  | compiled (pipeline : Pipeline)
  | documents (documents : List Value)
  | notCompiled (fault : CompileFault)
  | notRun (fault : RunFault)

namespace Compiler

def apply (registry : Registry) (c : Compiler) : Compiler := { c with registry := some registry }

def compile (c : Compiler) (directive : Option String) (options : CompileOptions) :
    Except CompileFault Pipeline :=
  match c.registry with
  | none => .error .notConfigured
  | some registry => .ok (registry.compile directive options)

def compileValue (c : Compiler) (directive : Option Value) (options : CompileOptions) :
    Except CompileFault Pipeline :=
  match directive with
  | none | some .null => c.compile none options
  | some (.string directive) => c.compile (some directive) options
  | some other =>
    match c.registry with
    | none => .error .notConfigured
    | some _ => .error (.directiveNotText (.ofValue other))

def trace (c : Compiler) (options : CompileOptions) :
    Except CompileFault Pipeline → Compiler
  | .ok p => if options.trace then { c with sink := c.sink.receive p } else c
  | .error _ => c

def step (c : Compiler) : Call → Compiler × Answer
  | .apply registry => (c.apply registry, .applied)
  | .compile directive options =>
    let result := c.compile directive options
    (c.trace options result, answer result)
  | .compileValue directive options =>
    let result := c.compileValue directive options
    (c.trace options result, answer result)
  | .run directive options documents =>
    let result := c.compileValue directive options
    (c.trace options result, runAnswer documents result)
where
  answer : Except CompileFault Pipeline → Answer
    | .ok p => .compiled p
    | .error fault => .notCompiled fault
  runAnswer (documents : List Value) : Except CompileFault Pipeline → Answer
    | .error fault => .notCompiled fault
    | .ok p =>
      match p.run documents with
      | .ok documents => .documents documents
      | .error fault => .notRun fault

def steps (c : Compiler) : List Call → Compiler × List Answer
  | [] => (c, [])
  | call :: rest =>
    let (c, answer) := c.step call
    let (c, answers) := c.steps rest
    (c, answer :: answers)

def isConfigured (c : Compiler) : Bool := c.registry.isSome

def describe (c : Compiler) : String :=
  let count :=
    match c.registry with
    | none => "None"
    | some registry => "Some(" ++ toString registry.size ++ ")"
  "PipelineCompiler \x7b configured: " ++ toString c.isConfigured ++ ", field_count: " ++ count ++
    " \x7d"

end Compiler

inductive CompilerEvent
  | applying (fields : Nat)
  | noFields (directive : String)
  | unrecognizedKind (field : String) (kind : FieldKind)
  | repeatedKey (field path : String) (direction : Direction)
  | traced (pipeline : Pipeline)

namespace CompilerEvent

def target : String := "docsort_core::compiler"

def pipelineTarget : String := "docsort::pipeline"

def record : CompilerEvent → LogRecord
  | .applying fields => ⟨.debug, target, "applying sort registry", [("fields", toString fields)]⟩
  | .noFields directive =>
    ⟨.debug, target, "no registered fields in sort directive; using fallback",
      [("directive", directive)]⟩
  | .unrecognizedKind field kind =>
    ⟨.warn, target, "unrecognized field kind in sort registry; using fallback",
      [("field", field), ("kind", kind.name)]⟩
  | .repeatedKey field path direction =>
    ⟨.debug, target, "repeated sort key; later direction wins",
      [("field", field), ("path", path), ("direction", direction.label)]⟩
  | .traced pipeline =>
    ⟨.info, pipelineTarget, "compiled sort pipeline:\n" ++ pipeline.render.indentedText 0,
      [("stages", toString pipeline.size)]⟩

def ofRequests (seen : List String) : List Request → List CompilerEvent
  | [] => []
  | r :: rest =>
    match r.plan? with
    | none => [.unrecognizedKind r.token.name r.spec.kind]
    | some plan =>
      if seen.contains plan.sortPath then
        .repeatedKey r.token.name plan.sortPath r.direction :: ofRequests seen rest
      else ofRequests (plan.sortPath :: seen) rest

def ofDirective (registry : Registry) (directive : Option String) : List CompilerEvent :=
  match directive.filter (· ≠ "") with
  | none => []
  | some directive =>
    match registry.requests directive with
    | [] => [.noFields directive]
    | requests => ofRequests [] requests

def ofCompile (c : Compiler) (directive : Option String) (options : CompileOptions) :
    List CompilerEvent :=
  match c.registry with
  | none => []
  | some registry =>
    ofDirective registry directive ++
      match c.sink with
      | .logging => if options.trace then [.traced (registry.compile directive options)] else []
      | _ => []

def ofCompileValue (c : Compiler) (directive : Option Value) (options : CompileOptions) :
    List CompilerEvent :=
  match directive with
  | none | some .null => ofCompile c none options
  | some (.string directive) => ofCompile c (some directive) options
  | some _ => []

def ofCall (c : Compiler) : Call → List CompilerEvent
  | .apply registry => [.applying registry.size]
  | .compile directive options => ofCompile c directive options
  | .compileValue directive options => ofCompileValue c directive options
  | .run directive options _ => ofCompileValue c directive options

end CompilerEvent

end SortPipeline
