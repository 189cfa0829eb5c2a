import SortPipeline.Fault
import SortPipeline.Field.Spec

/-! Reading a field spec off settings: an object whose members may use either spelling of a
setting, or an array of the settings in their fixed order. Settings are read from several kinds of
data, which differ in how one value is read; the rules on members are the same for all. -/

universe u

namespace SortPipeline

inductive Setting
  | kind
  | storageKey
  | nullReplacementKey
  | nullReplacementValue
  deriving DecidableEq

namespace Setting

def name : Setting → String
  | .kind => "type"
  | .storageKey => "storage_key"
  | .nullReplacementKey => "null_replacement_key"
  | .nullReplacementValue => "null_replacement_value"

def ofName? : String → Option Setting
  | "type" => some .kind
  | "storage_key" | "databaseKey" | "storageKey" => some .storageKey
  | "null_replacement_key" | "nullReplacementKey" => some .nullReplacementKey
  | "null_replacement_value" | "nullReplacementValue" => some .nullReplacementValue
  | _ => none

end Setting

class SettingSource (ν : Type u) where
  members? : ν → Option (List (Option String × ν))
  items? : ν → Option (List ν)
  kind? : ν → Option FieldKind
  text? : ν → Option (Option String)
  value? : ν → Option (Option Value)
  passable : ν → Bool
  allowsExtraItems : Bool

structure Settings where
  kind : Option FieldKind := none
  storageKey : Option (Option String) := none
  nullReplacementKey : Option (Option String) := none
  nullReplacementValue : Option (Option Value) := none

namespace Settings

def has (s : Settings) : Setting → Bool
  | .kind => s.kind.isSome
  | .storageKey => s.storageKey.isSome
  | .nullReplacementKey => s.nullReplacementKey.isSome
  | .nullReplacementValue => s.nullReplacementValue.isSome

variable {ν : Type u} [SettingSource ν]

def read? (setting : Setting) (data : ν) (s : Settings) : Option Settings :=
  match setting with
  | .kind => (SettingSource.kind? data).map fun k => { s with kind := some k }
  | .storageKey => (SettingSource.text? data).map fun t => { s with storageKey := some t }
  | .nullReplacementKey =>
    (SettingSource.text? data).map fun t => { s with nullReplacementKey := some t }
  | .nullReplacementValue =>
    (SettingSource.value? data).map fun v => { s with nullReplacementValue := some v }

/-- A repeated setting is refused before its second value is read. -/
def readMember (s : Settings) : Option String × ν → Except Fault Settings
  | (none, _) => .error .malformed
  | (some name, data) =>
    match Setting.ofName? name with
    | none => if SettingSource.passable data then .ok s else .error .malformed
    | some setting =>
      if s.has setting then .error (.duplicate setting.name)
      else Fault.orMalformed (s.read? setting data)

def readMembers (s : Settings) : List (Option String × ν) → Except Fault Settings
  | [] => .ok s
  | m :: rest =>
    match s.readMember m with
    | .ok s => readMembers s rest
    | .error fault => .error fault

def toSpec (s : Settings) : Except Fault FieldSpec :=
  match s.kind with
  | none => .error (.missing Setting.kind.name)
  | some kind =>
    .ok ⟨kind, s.storageKey.join, s.nullReplacementKey.join, s.nullReplacementValue.join⟩

def readItems? (s : Settings) : List Setting → List ν → Option Settings
  | _, [] => some s
  | [], _ :: _ => if SettingSource.allowsExtraItems ν then some s else none
  | setting :: settings, data :: rest =>
    (s.read? setting data).bind (readItems? · settings rest)

end Settings

namespace FieldSpec

variable {ν : Type u} [SettingSource ν]

def ofMembers (members : List (Option String × ν)) : Except Fault FieldSpec :=
  match Settings.readMembers {} members with
  | .ok s => s.toSpec
  | .error fault => .error fault

def ofItems (items : List ν) : Except Fault FieldSpec :=
  let order : List Setting := [.kind, .storageKey, .nullReplacementKey, .nullReplacementValue]
  match Settings.readItems? {} order items with
  | none => .error .malformed
  | some s => if s.kind.isSome then s.toSpec else .error .malformed

def read (data : ν) : Except Fault FieldSpec :=
  match SettingSource.members? data, SettingSource.items? data with
  | some members, _ => ofMembers members
  | none, some items => ofItems items
  | none, none => .error .malformed

end FieldSpec

instance : SettingSource Value where
  members? v := v.members?.map (·.map fun (name, v) => (some name, v))
  items? := Value.items?
  kind?
    | .string name => some (.ofName name)
    | .object [(name, .null)] => some (.ofName name)
    | _ => none
  text?
    | .null => some none
    | .string s => some (some s)
    | _ => none
  value?
    | .null => some none
    | v => some (some v)
  passable _ := true
  allowsExtraItems := false

end SortPipeline
