import SortPipeline.Config.FileTree
import SortPipeline.Config.JsonText
import SortPipeline.Config.TomlText
import SortPipeline.Log
import SortPipeline.Text.Blank
import SortPipeline.Text.Quoted

/-! Loading a registry: from the file that one variable names, else from the text of another,
else from the first of the default files that is there, else an empty one. What is selected counts,
readable or not; nothing of lower rank stands in for it. -/

namespace SortPipeline

inductive LoadFault
  | json (fault : Fault)
  | toml (path : String) (fault : Fault)
  | neither (origin : String) (tomlFault jsonFault : Fault)
  | jsonFile (path : String) (fault : Fault)
  | unreadable (path : String)
  | jsonVariable (fault : Fault)
  deriving DecidableEq

namespace LoadFault

def jsonMessage (fault : Fault) : String := "invalid sort registry json: " ++ fault.message

def message : LoadFault → String
  | .json fault => jsonMessage fault
  | .toml path fault => "invalid sort registry " ++ path ++ ": " ++ fault.message
  | .neither origin tomlFault jsonFault =>
    "failed to parse sort registry " ++ origin ++ ": toml error: " ++ tomlFault.message ++
      "; json error: " ++ jsonFault.message
  | .jsonFile path _ => "invalid sort registry " ++ path
  | .unreadable path => "failed to read sort registry from " ++ path
  | .jsonVariable _ => "failed to parse DOCSORT_REGISTRY_JSON"

def causes : LoadFault → List String
  | .jsonFile _ fault | .jsonVariable fault => [jsonMessage fault]
  | .unreadable _ => ["io"]
  | _ => []

end LoadFault

inductive RegistrySource
  | default
  | envPath (path : String)
  | envInline
  | file (path : String)
  deriving DecidableEq

def RegistrySource.describe : RegistrySource → String
  | .default => "Default"
  | .envPath path => "EnvPath(" ++ Text.quoted path ++ ")"
  | .envInline => "EnvInline"
  | .file path => "File(" ++ Text.quoted path ++ ")"

structure Environment where
  registryPath : Option String := none
  registryJson : Option String := none

namespace Path

def join (base candidate : String) : String :=
  if base = "" then candidate
  else if base.toList.getLast? = some '/' then base ++ candidate
  else base ++ "/" ++ candidate

def fileName? (path : String) : Option String :=
  match ((Text.segments '/' path).filter fun part => part ≠ "" ∧ part ≠ ".").getLast? with
  | some ".." => none
  | name => name

def extension? (path : String) : Option String :=
  (fileName? path).bind fun name =>
    let parts := Text.cut '.' name.toList
    match parts.dropLast with
    | [] | [[]] => none
    | _ => parts.getLast?.map String.ofList

end Path

namespace Registry

/-- A text of unknown format is TOML if it can be read as such, else JSON. -/
def ofText (text origin : String) : Except LoadFault Registry :=
  match ofToml text with
  | .ok registry => .ok registry
  | .error tomlFault =>
    match ofJson text with
    | .ok registry => .ok registry
    | .error jsonFault => .error (.neither origin tomlFault jsonFault)

def ofNode (path : String) : Option FileNode → Except LoadFault Registry
  | some (.file (some text)) =>
    match Path.extension? path with
    | some "json" => (ofJson text).mapError (.jsonFile path)
    | some "toml" | some "tml" => (ofToml text).mapError (.toml path)
    | _ => ofText text path
  | _ => .error (.unreadable path)

def ofFile (files : FileTree) (path : String) : Except LoadFault Registry :=
  ofNode path (files.find? path)

def defaultFiles : List String :=
  ["sort_registry.toml", "sort_registry.json", "config/sort_registry.toml",
    "config/sort_registry.json"]

def candidates (base : String) : List String := defaultFiles.map (Path.join base)

def findDefault? (files : FileSystem) (base : String) : Option String :=
  (candidates base).find? fun path => (files path).isSome

def given? (setting : Option String) : Option String := setting.filter fun s => !Text.isBlank s

def loadFrom (env : Environment) (files : FileSystem) (base : String) :
    Except LoadFault (Registry × RegistrySource) :=
  match given? env.registryPath with
  | some path => (ofNode path (files path)).map (·, .envPath path)
  | none =>
    match given? env.registryJson with
    | some text => ((ofJson text).mapError .jsonVariable).map (·, .envInline)
    | none =>
      match findDefault? files base with
      | some path => (ofNode path (files path)).map (·, .file path)
      | none => .ok (empty, .default)

def load (env : Environment) (files : FileTree) (base : String) :
    Except LoadFault (Registry × RegistrySource) :=
  loadFrom env files.find? base

end Registry

def loaderRecords : Except LoadFault (Registry × RegistrySource) → List LogRecord
  | .error _ => []
  | .ok (registry, source) =>
    let target := "docsort_config::loader"
    let absent : LogRecord :=
      ⟨.debug, target, "no sort registry configured; using an empty registry", []⟩
    let loaded : LogRecord :=
      ⟨.info, target, "loaded sort registry",
        [("fields", toString registry.size), ("source", source.describe)]⟩
    if source = .default then [absent, loaded] else [loaded]

end SortPipeline
