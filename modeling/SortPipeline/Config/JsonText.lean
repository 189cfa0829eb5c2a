import SortPipeline.Field.Registry
import SortPipeline.Json.Node

namespace SortPipeline

namespace Json.Node

/-- The registry and its spec are two containers around every value. -/
def settingDepth : Nat := maxDepth - 2

instance : SettingSource Node where
  members?
    | .object members => some members
    | _ => none
  items?
    | .array items => some items
    | _ => none
  kind?
    | .string name => name.map .ofName
    | .object [(name, .null)] => name.map .ofName
    | _ => none
  text?
    | .null => some none
    | .string s => s.map some
    | _ => none
  value?
    | .null => some none
    | v => (v.value? settingDepth).map some
  passable := intact
  allowsExtraItems := false

end Json.Node

def Registry.ofJson (text : String) : Except Fault Registry :=
  let d := Json.Document.ofText text
  match Registry.read d.root with
  | .error fault => .error fault
  | .ok registry => if d.closed then .ok registry else .error .malformed

end SortPipeline
