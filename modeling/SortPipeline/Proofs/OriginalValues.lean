import Mathlib.Data.List.ReduceOption
import SortPipeline.Proofs.NumberText
import SortPipeline.Proofs.RequestedFields
import SortPipeline.Proofs.TotalPreorder

namespace SortPipeline

namespace Value

def lowerText : Option Value → String
  | some (.string s) => Text.lowercase s
  | some (.number n) => Text.lowercase n.text
  | _ => ""

def count? : Option Value → Option Value
  | some (.array items) => some (.number (.int items.length))
  | _ => none

def firstPresent? (found : List (Option Value)) : Option Value :=
  found.reduceOption.find? (!·.isNull)

theorem lowered?_eq_lowerText {found : Option Value} {text : String}
    (h : lowered? found = some text) : text = lowerText found := by
  unfold lowered? at h
  split at h <;> cases h
  · rfl
  · rfl
  · rfl
  · exact (Number.lowercase_text _).symm

end Value

namespace Request

def sortValue (r : Request) (document : Value) : Option Value :=
  let stored := document.getPath? r.storagePath
  match r.spec.kind with
  | .string => some (.string (Value.lowerText stored))
  | .array => Value.count? stored
  | .date =>
    if r.spec.replacesNull then
      Value.firstPresent?
        [stored, r.spec.replacementKey?.bind fun key => document.getPath? key,
          r.spec.replacementValue?]
    else stored
  | .number | .boolean | .unrecognized => stored

/-- The array that the field counts, if it does, has fewer items than an integer of 64 bits with
sign can count. Every array in a memory of 64-bit addresses has. -/
def Countable (r : Request) (document : Value) : Prop :=
  r.spec.kind = .array → ∀ items, document.getPath? r.storagePath = some (.array items) →
    items.length < 9223372036854775808

theorem integral_sortValue {r : Request} {document : Value} (hdocument : document.Integral)
    (hliteral : ∀ v ∈ r.spec.replacementValue?, v.Integral) (hcount : r.Countable document) :
    ∀ v ∈ r.sortValue document, v.Integral := by
  have hstored : ∀ path, ∀ v ∈ document.getPath? path, v.Integral := fun _ _ =>
    Value.integral_of_getPath? hdocument
  intro v hv
  unfold sortValue at hv
  cases hkind : r.spec.kind with
  | string =>
    simp only [hkind] at hv
    cases hv
    exact Value.integral_string _
  | array =>
    simp only [hkind] at hv
    unfold Value.count? at hv
    split at hv
    · next items hitems =>
      cases hv
      have hlt := hcount hkind items hitems
      simp only [Value.integral_number, Number.int64?]
      rw [if_pos (by omega)]
      rfl
    · cases hv
  | date =>
    simp only [hkind] at hv
    split at hv
    · have hmem := List.mem_of_find?_eq_some hv
      simp only [List.reduceOption_mem_iff, List.mem_cons, List.not_mem_nil, or_false] at hmem
      rcases hmem with h | h | h
      · exact hstored _ v h.symm
      · obtain ⟨key, -, hkey⟩ := Option.bind_eq_some_iff.1 h.symm
        exact hstored key v hkey
      · exact hliteral v h.symm
    · exact hstored _ v hv
  | number | boolean | unrecognized =>
    simp only [hkind] at hv
    exact hstored _ v hv

end Request

theorem Expr.evaluateFirst_eq {target : String} {document : Value} {candidates : List Expr}
    {found : List (Option Value)}
    (h : List.Forall₂ (fun e v => e.evaluate target document = .ok v) candidates found) :
    evaluateFirst target document candidates = .ok (Value.firstPresent? found) := by
  induction h with
  | nil => rfl
  | @cons e v _ _ hv _ ih =>
    rw [evaluateFirst, hv]
    rcases v with _ | v
    · exact ih
    · cases v with
      | null => exact ih
      | _ => rfl

theorem Expr.evaluate_candidates (target path : String) (spec : FieldSpec) (document : Value) :
    (coalesce (FieldPlan.candidates path spec)).evaluate target document =
      .ok (Value.firstPresent? [document.getPath? path,
        spec.replacementKey?.bind fun key => document.getPath? key, spec.replacementValue?]) := by
  have hfound : List.Forall₂ (fun e v => e.evaluate target document = .ok v)
      (FieldPlan.candidates path spec)
      (document.getPath? path ::
        ((spec.replacementKey?.map fun key => document.getPath? key).toList ++
          (spec.replacementValue?.map some).toList)) := by
    unfold FieldPlan.candidates
    cases spec.replacementKey? <;> cases spec.replacementValue? <;> simp [evaluate]
  rw [evaluate, evaluateFirst_eq hfound]
  cases spec.replacementKey? <;> cases spec.replacementValue? <;> rfl

namespace PlannedField

def sortValueAt (fields : List PlannedField) (path : String) (document : Value) : Option Value :=
  (first? path fields).bind fun f => f.sortValue document

def compareOriginals (fields : List PlannedField) (a b : Value) : Ordering :=
  (sortPaths fields).foldr (fun path rest =>
    ((lastDirection path fields).apply
      (Value.compare? (sortValueAt fields path a) (sortValueAt fields path b))).then rest) .eq

def compareAt (fields : List PlannedField) (path : String) (a b : Value) : Ordering :=
  (lastDirection path fields).apply
    (Value.compare? (sortValueAt fields path a) (sortValueAt fields path b))

theorem compareOriginals_eq (fields : List PlannedField) :
    compareOriginals fields = lexicographic (compareAt fields) (sortPaths fields) := rfl

def Comparable (fields : List PlannedField) (document : Value) : Prop :=
  ∀ path, ∀ v ∈ sortValueAt fields path document, v.Integral

theorem transCmp_compareOriginals {fields : List PlannedField} {P : Value → Prop}
    (h : ∀ d, P d → Comparable fields d) :
    Std.TransCmp fun a b : Subtype P => compareOriginals fields a.1 b.1 := by
  have hintegral (path : String) (d : Subtype P) :
      ((sortValueAt fields path d.1).getD .null).Integral :=
    Value.integral_getD (h d.1 d.2 path)
  have hpaths : ∀ path ∈ sortPaths fields,
      Std.TransCmp fun a b : Subtype P => compareAt fields path a.1 b.1 := fun path _ =>
    Value.transCmp_apply (hintegral path) (lastDirection path fields)
  exact transCmp_lexicographic hpaths

theorem comparable_of_integral {fields : List PlannedField} {document : Value}
    (hdocument : document.Integral)
    (hliterals : ∀ f ∈ fields, ∀ v ∈ f.spec.replacementValue?, v.Integral)
    (hcounts : ∀ f ∈ fields, f.Countable document) : Comparable fields document := by
  intro path v hv
  obtain ⟨f, hfirst, hvalue⟩ := Option.bind_eq_some_iff.1 hv
  have hf := List.mem_of_find?_eq_some hfirst
  exact Request.integral_sortValue hdocument (hliterals f hf) (hcounts f hf) v hvalue

theorem evaluate_eq_sortValue {f : PlannedField} {name target : String} {expr : Expr}
    (hplan : f.plan = .temporary name expr) {document : Value} {value : Option Value}
    (h : expr.evaluate target document = .ok value) : value = f.sortValue document := by
  obtain ⟨s, hs, -, rfl⟩ := plan_eq_temporary_iff.1 hplan
  unfold Request.sortValue
  cases hkind : f.spec.kind with
  | string =>
    obtain rfl : .lower = s := by simpa [FieldSpec.strategy?, hkind] using hs
    rw [Strategy.expr, Expr.evaluate, Expr.evaluate] at h
    cases hlowered : Value.lowered? (document.getPath? f.storagePath) with
    | none => simp [hlowered] at h
    | some text =>
      simp only [hlowered] at h
      cases h
      rw [Value.lowered?_eq_lowerText hlowered]
  | array =>
    obtain rfl : .size = s := by simpa [FieldSpec.strategy?, hkind] using hs
    rw [Strategy.expr, Expr.evaluate, Expr.evaluate] at h
    split at h
    · cases h
    · next items hitems =>
      cases h
      rw [Except.ok.inj hitems]
      rfl
    · cases h
  | date =>
    obtain ⟨hnull, rfl⟩ : f.spec.replacesNull = true ∧ .coalesce = s := by
      simpa [FieldSpec.strategy?, hkind] using hs
    rw [Strategy.expr, Expr.evaluate_candidates] at h
    cases h
    simp [hnull]
  | number | boolean | unrecognized => simp [FieldSpec.strategy?, hkind] at hs

theorem getPath?_eq_sortValue {f : PlannedField} {path : String} (hplan : f.plan = .direct path)
    (document : Value) : document.getPath? path = f.sortValue document := by
  rw [plan_eq] at hplan
  cases hs : f.spec.strategy? with
  | some s => simp [hs, FieldPlan.derived] at hplan
  | none =>
    rw [hs] at hplan
    obtain rfl : f.storagePath = path := FieldPlan.direct.inj hplan
    unfold Request.sortValue
    cases hkind : f.spec.kind <;> simp_all [FieldSpec.strategy?]

end PlannedField

theorem Registry.comparable_plannedFields {registry : Registry} {directive : String}
    {document : Value} (h : ¬registry.FallsBack (some directive)) (hdocument : document.Integral)
    (hliterals : ∀ r ∈ registry.requests directive, ∀ v ∈ r.spec.replacementValue?, v.Integral)
    (hcounts : ∀ r ∈ registry.requests directive, r.Countable document) :
    PlannedField.Comparable (registry.plannedFields directive) document := by
  apply PlannedField.comparable_of_integral hdocument
  · exact fun f hf => hliterals _ (mem_requests_of_mem_plannedFields h hf)
  · exact fun f hf => hcounts _ (mem_requests_of_mem_plannedFields h hf)

end SortPipeline
