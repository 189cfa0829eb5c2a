import SortPipeline.Json.Value

namespace SortPipeline

inductive FieldKind
  | string
  | number
  | array
  | date
  | boolean
  | unrecognized
  deriving DecidableEq

namespace FieldKind

def name : FieldKind → String
  | .string => "string"
  | .number => "number"
  | .array => "array"
  | .date => "date"
  | .boolean => "boolean"
  | .unrecognized => "unrecognized"

def ofName : String → FieldKind
  | "string" => .string
  | "number" => .number
  | "array" => .array
  | "date" => .date
  | "boolean" => .boolean
  | _ => .unrecognized

@[simp] theorem ofName_name (k : FieldKind) : ofName k.name = k := by cases k <;> rfl

end FieldKind

structure FieldSpec where
  kind : FieldKind
  storageKey : Option String := none
  nullReplacementKey : Option String := none
  nullReplacementValue : Option Value := none

namespace FieldSpec

def storagePath (name : String) (spec : FieldSpec) : String :=
  match spec.storageKey with
  | some key => if key = "" then name else key
  | none => name

def replacementKey? (spec : FieldSpec) : Option String := spec.nullReplacementKey.filter (· ≠ "")

def replacementValue? (spec : FieldSpec) : Option Value :=
  spec.nullReplacementValue.filter (!·.isNull)

def replacesNull (spec : FieldSpec) : Bool :=
  spec.replacementKey?.isSome || spec.replacementValue?.isSome

def toValue (spec : FieldSpec) : Value :=
  .object
    ([("type", .string spec.kind.name)] ++
      (spec.storageKey.map fun s => ("storage_key", Value.string s)).toList ++
      (spec.nullReplacementKey.map fun s => ("null_replacement_key", Value.string s)).toList ++
      (spec.nullReplacementValue.map fun v => ("null_replacement_value", v)).toList)

end FieldSpec

end SortPipeline
