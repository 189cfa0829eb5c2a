import Mathlib.Data.List.Induction
import SortPipeline.Compilation
import SortPipeline.Proofs.Entries

namespace SortPipeline

theorem FieldPlan.ofSpec?_eq_none_iff (name : String) (spec : FieldSpec) :
    ofSpec? name spec = none ↔ spec.kind = .unrecognized := by
  cases h : spec.kind <;> simp only [ofSpec?, h] <;> (try split) <;> simp

@[simp] theorem FieldPlan.sortPath_direct (path : String) : (direct path).sortPath = path := rfl

@[simp] theorem FieldPlan.sortPath_temporary (name : String) (expr : Expr) :
    (temporary name expr).sortPath = name := rfl

theorem SortKeys.contains_iff {path : String} {keys : SortKeys} :
    keys.contains path ↔ path ∈ Entries.names keys.entries := by
  rw [contains, Option.isSome_iff_ne_none]
  exact (Entries.get?_eq_none_iff path keys.entries).not_left

def FieldPlan.assignment? : FieldPlan → Option (String × Expr)
  | .direct _ => none
  | .temporary name expr => some (name, expr)

structure PlannedField extends Request where
  plan : FieldPlan
  plan?_eq : toRequest.plan? = some plan

namespace Request

def planned? (r : Request) : Option PlannedField :=
  match h : r.plan? with
  | none => none
  | some plan => some ⟨r, plan, h⟩

theorem planned?_eq_some_iff {r : Request} {f : PlannedField} :
    r.planned? = some f ↔ f.toRequest = r := by
  constructor
  · intro h
    unfold planned? at h
    split at h
    · cases h
    · cases h; rfl
  · rintro rfl
    obtain ⟨r, plan, hplan⟩ := f
    unfold planned?
    split
    · next h => simp [hplan] at h
    · next p h =>
      obtain rfl : p = plan := Option.some.inj (h.symm.trans hplan)
      rfl

theorem isSome_planned?_iff {r : Request} : r.planned?.isSome ↔ r.plan? ≠ none := by
  unfold planned?
  split <;> simp [*]

end Request

namespace PlannedField

def sortPath (f : PlannedField) : String := f.plan.sortPath

def assignment? (f : PlannedField) : Option (String × Expr) := f.plan.assignment?

def sortPaths (fields : List PlannedField) : List String := (fields.map sortPath).eraseDups

def first? (path : String) (fields : List PlannedField) : Option PlannedField :=
  fields.find? (·.sortPath = path)

def lastDirection (path : String) (fields : List PlannedField) : Direction :=
  ((fields.findRev? (·.sortPath = path)).map (·.direction)).getD .ascending

def sortKeys (fields : List PlannedField) : SortKeys :=
  ⟨(sortPaths fields).map fun path => (path, lastDirection path fields)⟩

def temporaries (fields : List PlannedField) : List (String × Expr) :=
  (sortPaths fields).filterMap fun path => (first? path fields).bind assignment?

def draft (fields : List PlannedField) : Draft := ⟨sortKeys fields, temporaries fields⟩

theorem mem_sortPaths {path : String} {fields : List PlannedField} :
    path ∈ sortPaths fields ↔ ∃ f ∈ fields, f.sortPath = path := by
  simp [sortPaths]

theorem sortPaths_concat (fields : List PlannedField) (f : PlannedField) :
    sortPaths (fields ++ [f]) =
      if f.sortPath ∈ sortPaths fields then sortPaths fields
      else sortPaths fields ++ [f.sortPath] := by
  rw [sortPaths, List.map_append, List.map_singleton, eraseDups_concat]
  simp only [sortPaths, List.mem_eraseDups]

theorem nodup_sortPaths (fields : List PlannedField) : (sortPaths fields).Nodup := by
  induction fields using List.reverseRecOn with
  | nil => simp [sortPaths]
  | append_singleton fields f ih =>
    rw [sortPaths_concat]
    split
    · exact ih
    · next h => exact List.concat_eq_append ▸ List.Nodup.concat h ih

theorem first?_concat (path : String) (fields : List PlannedField) (f : PlannedField) :
    first? path (fields ++ [f]) =
      (first? path fields).or (if f.sortPath = path then some f else none) := by
  simp [first?, List.find?_append, List.find?_singleton]

theorem lastDirection_concat (path : String) (fields : List PlannedField) (f : PlannedField) :
    lastDirection path (fields ++ [f]) =
      if f.sortPath = path then f.direction else lastDirection path fields := by
  simp only [lastDirection, List.findRev?_eq_find?_reverse, List.reverse_append,
    List.reverse_cons, List.reverse_nil, List.nil_append, List.singleton_append, List.find?_cons]
  by_cases h : f.sortPath = path <;> simp [h]

theorem isSome_first?_iff {path : String} {fields : List PlannedField} :
    (first? path fields).isSome ↔ path ∈ sortPaths fields := by
  simp [first?, mem_sortPaths]

theorem sortPath_of_first? {path : String} {fields : List PlannedField} {f : PlannedField}
    (h : first? path fields = some f) : f.sortPath = path := by
  simpa using List.find?_some h

theorem names_sortKeys (fields : List PlannedField) :
    Entries.names (sortKeys fields).entries = sortPaths fields := by
  simp [Entries.names, sortKeys, Function.comp_def]

theorem get?_sortKeys (path : String) (fields : List PlannedField) :
    (sortKeys fields).get? path =
      if path ∈ sortPaths fields then some (lastDirection path fields) else none :=
  Entries.get?_map path (sortPaths fields) fun path => lastDirection path fields

theorem contains_sortKeys {path : String} {fields : List PlannedField} :
    (sortKeys fields).contains path ↔ path ∈ sortPaths fields := by
  rw [SortKeys.contains_iff, names_sortKeys]

theorem sortKeys_concat (fields : List PlannedField) (f : PlannedField) :
    sortKeys (fields ++ [f]) = (sortKeys fields).set f.sortPath f.direction := by
  have hnames : Entries.names ((sortKeys fields).set f.sortPath f.direction).entries =
      sortPaths (fields ++ [f]) := by
    rw [sortPaths_concat, ← names_sortKeys]
    split
    · next h => exact Entries.names_set_of_mem h
    · next h =>
      rw [SortKeys.set, Entries.set_of_not_mem h]
      simp
  have hget : ∀ path, (sortKeys (fields ++ [f])).get? path =
      ((sortKeys fields).set f.sortPath f.direction).get? path := by
    intro path
    have hset : ((sortKeys fields).set f.sortPath f.direction).get? path =
        if f.sortPath = path then some f.direction else (sortKeys fields).get? path :=
      Entries.get?_set _ _ _ _
    rw [hset, get?_sortKeys, get?_sortKeys, sortPaths_concat, lastDirection_concat]
    by_cases hpath : f.sortPath = path
    · subst hpath
      simp only [if_true, ite_eq_left_iff, reduceCtorEq, imp_false, not_not]
      split <;> simp [*]
    · split <;> simp [Ne.symm hpath]
  have hentries : (sortKeys (fields ++ [f])).entries =
      ((sortKeys fields).set f.sortPath f.direction).entries := by
    apply Entries.eq_of_names_eq _ _ hget
    · rw [names_sortKeys]
      exact nodup_sortPaths _
    · rw [names_sortKeys, hnames]
  exact congrArg SortKeys.mk hentries

theorem temporaries_concat (fields : List PlannedField) (f : PlannedField) :
    temporaries (fields ++ [f]) =
      if f.sortPath ∈ sortPaths fields then temporaries fields
      else temporaries fields ++ f.assignment?.toList := by
  -- A path that is there already has its first field among `fields`.
  have hkept : ∀ path ∈ sortPaths fields,
      (first? path (fields ++ [f])).bind assignment? = (first? path fields).bind assignment? := by
    intro path hpath
    rw [first?_concat, Option.or_of_isSome (isSome_first?_iff.2 hpath)]
  rw [temporaries, sortPaths_concat]
  split
  · exact List.filterMap_congr hkept
  · next h =>
    have hnew : first? f.sortPath (fields ++ [f]) = some f := by
      have hnone : first? f.sortPath fields = none := by
        simpa using isSome_first?_iff.not.2 h
      rw [first?_concat, hnone]
      simp
    rw [List.filterMap_append, List.filterMap_congr hkept]
    cases hassign : f.assignment? <;> simp [temporaries, hnew, hassign]

theorem draft_concat (fields : List PlannedField) (f : PlannedField) :
    draft (fields ++ [f]) = (draft fields).add f.plan f.direction := by
  have hplan : temporaries fields ++ f.assignment?.toList =
      match f.plan with
      | .direct _ => temporaries fields
      | .temporary name expr => temporaries fields ++ [(name, expr)] := by
    unfold assignment?
    cases f.plan <;> simp [FieldPlan.assignment?]
  have hcontains : (sortKeys fields).contains f.plan.sortPath ↔ f.sortPath ∈ sortPaths fields :=
    contains_sortKeys
  rw [draft, sortKeys_concat, temporaries_concat, hplan]
  simp only [Draft.add, draft, hcontains]
  rfl

theorem foldl_add (fields : List PlannedField) :
    fields.foldl (fun d f => d.add f.plan f.direction) {} = draft fields := by
  induction fields using List.reverseRecOn with
  | nil => rfl
  | append_singleton fields f ih => rw [List.foldl_concat, ih, draft_concat]

end PlannedField

end SortPipeline
