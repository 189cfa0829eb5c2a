import SortPipeline.Proofs.CompiledPipeline
import SortPipeline.Proofs.Entries
import SortPipeline.Proofs.SpecGrammar

universe u v

namespace SortPipeline

namespace Setting

variable {α : Type u} {β : Type v}

theorem valuesIn_append (t : Setting) (members more : List (String × α)) :
    t.valuesIn (members ++ more) = t.valuesIn members ++ t.valuesIn more :=
  List.filterMap_append

theorem valuesIn_toList (t : Setting) (name : String) (f : β → α) (o : Option β) :
    t.valuesIn (o.map fun b => (name, f b)).toList =
      if ofName? name = some t then (o.map f).toList else [] := by
  cases o <;> simp [valuesIn_cons]

end Setting

namespace FieldSpec

def reloaded (spec : FieldSpec) : FieldSpec :=
  { spec with nullReplacementValue := spec.nullReplacementValue.filter (!·.isNull) }

theorem valuesIn_toValue (spec : FieldSpec) :
    ∃ members, spec.toValue = .object members ∧
      Setting.kind.valuesIn members = [.string spec.kind.name] ∧
      Setting.storageKey.valuesIn members = (spec.storageKey.map .string).toList ∧
      Setting.nullReplacementKey.valuesIn members = (spec.nullReplacementKey.map .string).toList ∧
      Setting.nullReplacementValue.valuesIn members = spec.nullReplacementValue.toList := by
  have hvalue := fun t => Setting.valuesIn_toList t "null_replacement_value"
    (fun v : Value => v) spec.nullReplacementValue
  refine ⟨_, rfl, ?_, ?_, ?_, ?_⟩ <;>
    simp [Setting.valuesIn_append, Setting.valuesIn_toList, Setting.valuesIn_cons, hvalue,
      Setting.ofName?]

theorem once_toList {P : Value → Prop} {o : Option Value} (h : ∀ v ∈ o, P v) :
    o.toList.length ≤ 1 ∧ ∀ v ∈ o.toList, P v := by
  cases o <;> simp_all

theorem isSome_text?_of_mem {o : Option String} {v : Value} (h : v ∈ o.map Value.string) :
    (SettingSource.text? v).isSome := by
  obtain ⟨s, -, rfl⟩ := Option.map_eq_some_iff.1 h
  rfl

theorem bind_text?_toList (o : Option String) :
    (o.map Value.string).toList.head?.bind Value.text? = o := by
  cases o <;> rfl

theorem read_toValue (spec : FieldSpec) : read spec.toValue = .ok spec.reloaded := by
  obtain ⟨members, hmembers, hkind, hkey, hnullKey, hvalue⟩ := spec.valuesIn_toValue
  rw [hmembers, read_object]
  refine ofMembers_eq_ok_iff.2 ⟨Value.passable members, fun t => ?_,
    Settings.toSpec_eq_ok_iff.2 ⟨?_, ?_, ?_, ?_⟩⟩
  · cases t with
    | kind => exact hkind ▸ ⟨Nat.le_refl 1, List.forall_mem_singleton.2 rfl⟩
    | storageKey => exact hkey ▸ once_toList fun _ => isSome_text?_of_mem
    | nullReplacementKey => exact hnullKey ▸ once_toList fun _ => isSome_text?_of_mem
    | nullReplacementValue => exact hvalue ▸ once_toList fun v _ => v.isSome_value?
  · change (Setting.kind.valuesIn members).head?.bind SettingSource.kind? = _
    simp [hkind, SettingSource.kind?, reloaded]
  · refine (Value.join_bind_text? _).trans ?_
    rw [hkey, bind_text?_toList]
    rfl
  · refine (Value.join_bind_text? _).trans ?_
    rw [hnullKey, bind_text?_toList]
    rfl
  · refine (Value.join_bind_value? _).trans ?_
    rw [hvalue, Option.head?_toList]
    rfl

theorem ofSpec?_reloaded (name : String) (spec : FieldSpec) :
    FieldPlan.ofSpec? name spec.reloaded = FieldPlan.ofSpec? name spec := by
  have hvalue : spec.reloaded.replacementValue? = spec.replacementValue? := by
    simp [replacementValue?, reloaded]
  have hcandidates (path : String) :
      FieldPlan.candidates path spec.reloaded = FieldPlan.candidates path spec := by
    rw [FieldPlan.candidates, hvalue]
    rfl
  unfold FieldPlan.ofSpec?
  rw [replacesNull, hvalue]
  simp only [hcandidates]
  rfl

end FieldSpec

namespace Registry

theorem insertSorted_of_forall_lt {name : String} (spec : FieldSpec)
    {fields : List (String × FieldSpec)} (h : ∀ f ∈ fields, f.1 < name) :
    insertSorted name spec fields = fields ++ [(name, spec)] := by
  induction fields with
  | nil => rfl
  | cons f rest ih =>
    obtain ⟨hf, hrest⟩ := List.forall_mem_cons.1 h
    have hne : f.1 ≠ name := fun heq => String.lt_irrefl name (heq ▸ hf)
    rw [insertSorted, if_neg (String.lt_asymm hf), if_neg hne, ih hrest]
    rfl

theorem readMembers_toValue {r : Registry} {fields : List (String × FieldSpec)}
    (h : (Entries.names r.fields ++ Entries.names fields).Pairwise (· < ·)) :
    ∃ s, r.readMembers (Settings.named (fields.map fun f => (f.1, f.2.toValue))) = .ok s ∧
      s.fields = r.fields ++ fields.map fun f => (f.1, f.2.reloaded) := by
  induction fields generalizing r with
  | nil => exact ⟨r, rfl, (List.append_nil _).symm⟩
  | cons f rest ih =>
    have hlt : ∀ e ∈ r.fields, e.1 < f.1 := fun e he =>
      (List.pairwise_append.1 h).2.2 _ (List.mem_map_of_mem he) _ List.mem_cons_self
    have hinsert : (r.insert f.1 f.2.reloaded).fields = r.fields ++ [(f.1, f.2.reloaded)] :=
      insertSorted_of_forall_lt f.2.reloaded hlt
    obtain ⟨s, hread, hfields⟩ := @ih (r.insert f.1 f.2.reloaded) (by simpa [hinsert] using h)
    refine ⟨s, ?_, ?_⟩
    · rw [List.map_cons, Settings.named_cons, readMembers, FieldSpec.read_toValue]
      exact hread
    · rw [hfields, hinsert, List.append_assoc]
      rfl

def reloaded (r : Registry) : Registry where
  fields := r.fields.map fun f => (f.1, f.2.reloaded)
  sorted := List.pairwise_map.2 r.sorted

theorem eq_of_fields_eq {r s : Registry} (h : r.fields = s.fields) : r = s := by
  cases r
  cases s
  cases h
  rfl

theorem read_toValue (r : Registry) : read r.toValue = .ok r.reloaded := by
  have hnames : (Entries.names r.fields).Pairwise (· < ·) := List.pairwise_map.2 r.sorted
  obtain ⟨s, hread, hfields⟩ := @readMembers_toValue empty r.fields hnames
  rw [show r.reloaded = s from eq_of_fields_eq hfields.symm, ← hread]
  rfl

theorem get?_reloaded (r : Registry) (name : String) :
    r.reloaded.get? name = (r.get? name).map FieldSpec.reloaded :=
  Entries.get?_map_snd FieldSpec.reloaded name r.fields

theorem plan?_reloaded (r : Registry) (name : String) : r.reloaded.plan? name = r.plan? name := by
  rw [plan?, get?_reloaded, Option.map_map]
  exact congrArg (Option.map · _) (funext (FieldSpec.ofSpec?_reloaded name))

/-- A registry is read from its stored form, without the replacement values that are null, and
then compiles as it did. -/
theorem saved_registry_compiles_alike (r : Registry) :
    ∃ s, read r.toValue = .ok s ∧
      (s.fields = r.fields.map fun (name, spec) => (name, { spec with
        nullReplacementValue := spec.nullReplacementValue.filter (!·.isNull) })) ∧
      ∀ directive options, s.compile directive options = r.compile directive options :=
  ⟨r.reloaded, r.read_toValue, rfl, compile_congr_plan? r.plan?_reloaded⟩

end Registry

end SortPipeline
