import SortPipeline.Proofs.DocumentByDocument
import SortPipeline.Proofs.Rendering

namespace SortPipeline

namespace Expr

mutual

theorem ofValue?_toValue (e : Expr) : ofValue? e.toValue = some e := by
  match e with
  | .field path => rfl
  | .literal value => rfl
  | .lower inner => simp [toValue, ofValue?, ofValue?_toValue inner]
  | .size inner => simp [toValue, ofValue?, ofValue?_toValue inner]
  | .coalesce candidates => simp [toValue, ofValue?, ofValues?_toValues candidates]

theorem ofValues?_toValues (es : List Expr) : ofValues? (toValues es) = some es := by
  match es with
  | [] => rfl
  | e :: rest => simp [toValues, ofValues?, ofValue?_toValue e, ofValues?_toValues rest]

end

end Expr

@[simp] theorem Direction.ofValue?_toValue (d : Direction) : ofValue? d.toValue = some d := by
  cases d <;> rfl

namespace SortKeys

theorem ofValue?_toValue (keys : SortKeys) : ofValue? keys.toValue = some keys := by
  rw [toValue, ofValue?, mapM_map_eq_some]
  · rfl
  · rintro ⟨path, d⟩ -
    simp [entryOfValue?]

end SortKeys

namespace Stage

theorem assignmentOfValue?_assignmentToValue (a : String × Expr) :
    assignmentOfValue? (assignmentToValue a) = some a := by
  simp [assignmentToValue, assignmentOfValue?, Expr.ofValue?_toValue]

theorem ofValue_toValue (stage : Stage) : ofValue stage.toValue = .ok stage := by
  cases stage with
  | set assignments =>
    have hread : (assignments.map assignmentToValue).mapM assignmentOfValue? = some assignments :=
      mapM_map_eq_some fun a _ => assignmentOfValue?_assignmentToValue a
    simp [toValue, ofValue, part, Entries.get?, Value.items?, hread, Fault.orMalformed]
  | sort keys =>
    simp [toValue, ofValue, part, Entries.get?, SortKeys.ofValue?_toValue, Fault.orMalformed]
  | unset names =>
    have hread : (names.map Value.string).mapM Value.text? = some names :=
      mapM_map_eq_some fun _ _ => rfl
    simp [toValue, ofValue, part, Entries.get?, Value.items?, hread, Fault.orMalformed]

end Stage

namespace Pipeline

theorem ofValue_toValue (p : Pipeline) : ofValue p.toValue = .ok p := by
  have hread : (p.stages.map Stage.toValue).mapM Stage.ofValue = .ok p.stages := by
    rw [mapM_eq_ok_iff, List.forall₂_map_left_iff, List.forall₂_same]
    exact fun stage _ => Stage.ofValue_toValue stage
  rw [toValue, ofValue, hread]
  rfl

theorem stored_forms_read_back :
    (∀ e : Expr, Expr.ofValue? e.toValue = some e) ∧
    (∀ keys : SortKeys, SortKeys.ofValue? keys.toValue = some keys) ∧
    (∀ stage : Stage, Stage.ofValue stage.toValue = .ok stage) ∧
    ∀ p : Pipeline, ofValue p.toValue = .ok p :=
  ⟨Expr.ofValue?_toValue, SortKeys.ofValue?_toValue, Stage.ofValue_toValue, ofValue_toValue⟩

end Pipeline

end SortPipeline
