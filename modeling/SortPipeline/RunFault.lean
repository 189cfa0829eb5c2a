import SortPipeline.Json.Value

namespace SortPipeline

inductive Found
  | missing
  | null
  | bool
  | number
  | string
  | array
  | object
  deriving DecidableEq

namespace Found

def ofValue : Value → Found
  | .null => .null
  | .bool _ => .bool
  | .number _ => .number
  | .string _ => .string
  | .array _ => .array
  | .object _ => .object

def ofValue? : Option Value → Found
  | none => .missing
  | some v => ofValue v

def label : Found → String
  | .missing => "missing"
  | .null => "null"
  | .bool => "bool"
  | .number => "number"
  | .string => "string"
  | .array => "array"
  | .object => "object"

end Found

inductive CompileFault
  | notConfigured
  | directiveNotText (found : Found)
  deriving DecidableEq

def CompileFault.message : CompileFault → String
  | .notConfigured => "the sort registry has not been applied yet"
  | .directiveNotText found =>
    "invalid sort directive: sort directive must be a string, received " ++
      if found = .bool then "boolean" else found.label

inductive RunFault
  | sizeOfNonArray (target : String) (found : Found)
  | lowerOfNonScalar (target : String) (found : Found)
  | emptyPath (target : String)
  | parentNotObject (target : String)
  deriving DecidableEq

def RunFault.message : RunFault → String
  | .sizeOfNonArray target found =>
    "the argument to $size must be an array, found " ++ found.label ++ " at `" ++ target ++ "`"
  | .lowerOfNonScalar target found => "can't lowercase " ++ found.label ++ " at `" ++ target ++ "`"
  | .emptyPath target => "cannot assign `" ++ target ++ "`: empty path"
  | .parentNotObject target => "cannot assign `" ++ target ++ "`: parent is not an object"

end SortPipeline
