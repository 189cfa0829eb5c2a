import SortPipeline.Field.Registry
import SortPipeline.Toml.Reader

namespace SortPipeline

namespace Toml.Item

def members? : Item → Option (List (Option String × Item))
  | .table _ entries => some ((sortEntries entries).map fun (name, i) => (some name, i))
  | .datetime text => some [(some datetimeName, .string text)]
  | _ => none

instance : SettingSource Item where
  members? := members?
  items?
    | .array items => some items
    | .tables elements => some elements
    | _ => none
  kind?
    | .string name => some (.ofName name)
    | .table _ [(name, .table _ [])] | .table _ [(name, .array [])] => some (.ofName name)
    | _ => none
  text?
    | .string s => some (some s)
    | _ => none
  value? i := i.value?.map some
  passable := isPassable
  allowsExtraItems := true

end Toml.Item

def Registry.ofToml (text : String) : Except Fault Registry :=
  match Toml.read? text with
  | none => .error .malformed
  | some root => Registry.read root

end SortPipeline
