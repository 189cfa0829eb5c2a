import SortPipeline.Field.Reading

universe u

namespace SortPipeline

/-- Names ascend strictly, so a registry is determined by what it holds for each name. -/
structure Registry where
  fields : List (String × FieldSpec)
  sorted : fields.Pairwise fun a b => a.1 < b.1

namespace Registry

def insertSorted (name : String) (spec : FieldSpec) :
    List (String × FieldSpec) → List (String × FieldSpec)
  | [] => [(name, spec)]
  | (n, s) :: rest =>
    if name < n then (name, spec) :: (n, s) :: rest
    else if n = name then (name, spec) :: rest
    else (n, s) :: insertSorted name spec rest

theorem mem_insertSorted {name : String} {spec : FieldSpec} {fields : List (String × FieldSpec)}
    {e : String × FieldSpec} (h : e ∈ insertSorted name spec fields) :
    e = (name, spec) ∨ e ∈ fields := by
  induction fields with
  | nil => simpa [insertSorted] using h
  | cons f rest ih =>
    simp only [insertSorted] at h
    split at h
    · simpa using h
    · split at h <;> simp only [List.mem_cons] at h ⊢
      · exact h.imp_right .inr
      · rcases h with h | h
        · exact .inr (.inl h)
        · exact (ih h).imp_right .inr

theorem sorted_insertSorted (name : String) (spec : FieldSpec)
    {fields : List (String × FieldSpec)} (h : fields.Pairwise fun a b => a.1 < b.1) :
    (insertSorted name spec fields).Pairwise fun a b => a.1 < b.1 := by
  induction fields with
  | nil => simp [insertSorted]
  | cons f rest ih =>
    obtain ⟨hf, hrest⟩ := List.pairwise_cons.1 h
    simp only [insertSorted]
    split
    · next hlt =>
      refine List.pairwise_cons.2 ⟨fun e he => ?_, h⟩
      rcases List.mem_cons.1 he with rfl | he
      · exact hlt
      · exact String.lt_trans hlt (hf e he)
    · next hge =>
      split
      · next heq => exact List.pairwise_cons.2 ⟨fun e he => heq ▸ hf e he, hrest⟩
      · next hne =>
        refine List.pairwise_cons.2 ⟨fun e he => ?_, ih hrest⟩
        rcases mem_insertSorted he with rfl | he
        · exact Std.lt_of_le_of_ne (String.not_lt.1 hge) hne
        · exact hf e he

def empty : Registry := ⟨[], .nil⟩

def insert (name : String) (spec : FieldSpec) (r : Registry) : Registry :=
  ⟨insertSorted name spec r.fields, sorted_insertSorted name spec r.sorted⟩

def get? (name : String) (r : Registry) : Option FieldSpec := Entries.get? name r.fields

def contains (name : String) (r : Registry) : Bool := (r.get? name).isSome

def size (r : Registry) : Nat := r.fields.length

def isEmpty (r : Registry) : Bool := r.fields.isEmpty

def names (r : Registry) : List String := Entries.names r.fields

def ofList (fields : List (String × FieldSpec)) : Registry :=
  fields.foldl (fun r f => r.insert f.1 f.2) empty

def toValue (r : Registry) : Value :=
  .object (r.fields.map fun (name, spec) => (name, spec.toValue))

variable {ν : Type u} [SettingSource ν]

def readMembers (r : Registry) : List (Option String × ν) → Except Fault Registry
  | [] => .ok r
  | (none, _) :: _ => .error .malformed
  | (some name, data) :: rest =>
    match FieldSpec.read data with
    | .ok spec => readMembers (r.insert name spec) rest
    | .error fault => .error fault

/-- One member for each field; of a repeated name the last counts. -/
def read (data : ν) : Except Fault Registry :=
  match SettingSource.members? data with
  | some members => readMembers empty members
  | none => .error .malformed

end Registry

end SortPipeline
