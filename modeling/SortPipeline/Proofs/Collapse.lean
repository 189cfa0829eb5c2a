import SortPipeline.Document.Evaluation
import SortPipeline.Proofs.Rendering

namespace SortPipeline

namespace Expr

/-- The second evaluation comes to the same as the first, or to null where that finds nothing. -/
inductive Agree : Except RunFault (Option Value) → Except RunFault (Option Value) → Prop
  | same (r : Except RunFault (Option Value)) : Agree r r
  | null : Agree (.ok none) (.ok (some .null))
  | size (target : String) :
      Agree (.error (.sizeOfNonArray target .missing)) (.error (.sizeOfNonArray target .null))

mutual

theorem render_collapse (e : Expr) : e.collapse.render = e.render := by
  match e with
  | .field path => rfl
  | .literal value => rfl
  | .lower inner => rw [collapse, render, render, render_collapse inner]
  | .size inner => rw [collapse, render, render, render_collapse inner]
  | .coalesce [] => rfl
  | .coalesce [candidate] => exact render_collapse candidate
  | .coalesce (a :: b :: rest) =>
    have hall := renderAll_collapseAll (a :: b :: rest)
    simp only [collapseAll] at hall
    simp only [collapse, collapseAll, render, hall]

theorem renderAll_collapseAll (es : List Expr) : renderAll (collapseAll es) = renderAll es := by
  match es with
  | [] => rfl
  | e :: rest =>
    rw [collapseAll, renderAll, renderAll, render_collapse e, renderAll_collapseAll rest]

end

theorem collapse_eq_iff (e other : Expr) :
    e.collapse = other.collapse ↔ e.render = other.render := by
  constructor
  · intro h
    rw [← render_collapse e, h, render_collapse other]
  · intro h
    have hread : some e.collapse = some other.collapse := by
      rw [← ofRendered?_render e, h, ofRendered?_render other]
    exact Option.some.inj hread

section Evaluation

variable (target : String) (document : Value)

theorem agree_lower {e other : Expr}
    (h : Agree (e.evaluate target document) (other.evaluate target document)) :
    Agree ((lower e).evaluate target document) ((lower other).evaluate target document) := by
  rw [evaluate, evaluate]
  generalize e.evaluate target document = r at h ⊢
  generalize other.evaluate target document = s at h ⊢
  cases h with
  | same => exact .same _
  | null => exact .same _
  | size target => exact .size target

theorem agree_size {e other : Expr}
    (h : Agree (e.evaluate target document) (other.evaluate target document)) :
    Agree ((size e).evaluate target document) ((size other).evaluate target document) := by
  rw [evaluate, evaluate]
  generalize e.evaluate target document = r at h ⊢
  generalize other.evaluate target document = s at h ⊢
  cases h with
  | same => exact .same _
  | null => exact .size target
  | size target => exact .size target

mutual

theorem agree_collapse (e : Expr) :
    Agree (e.evaluate target document) (e.collapse.evaluate target document) := by
  match e with
  | .field path => exact .same _
  | .literal value => exact .same _
  | .lower inner => exact agree_lower target document (agree_collapse inner)
  | .size inner => exact agree_size target document (agree_collapse inner)
  | .coalesce [] => exact .null
  | .coalesce [candidate] =>
    have h := agree_collapse candidate
    rw [collapse, evaluate, evaluateFirst]
    generalize candidate.evaluate target document = r at h ⊢
    generalize candidate.collapse.evaluate target document = s at h ⊢
    cases h with
    | same =>
      rcases r with fault | _ | v
      · exact .same _
      · exact .same _
      · cases v with
        | null => exact .null
        | _ => exact .same _
    | null => exact .null
    | size target => exact .size target
  | .coalesce (a :: b :: rest) => exact agree_collapseAll (a :: b :: rest)

theorem agree_collapseAll (es : List Expr) :
    Agree (evaluateFirst target document es) (evaluateFirst target document (collapseAll es)) := by
  match es with
  | [] => exact .same _
  | e :: rest =>
    have h := agree_collapse e
    have hrest := agree_collapseAll rest
    rw [collapseAll, evaluateFirst, evaluateFirst]
    generalize e.evaluate target document = r at h ⊢
    generalize e.collapse.evaluate target document = s at h ⊢
    cases h with
    | same =>
      rcases r with fault | _ | v
      · exact .same _
      · exact hrest
      · cases v with
        | null => exact hrest
        | _ => exact .same _
    | null => exact hrest
    | size target => exact .size target

end

end Evaluation

/-- To render an expression is to render what it collapses to, which can be read back from the
rendering and has the value of the expression, null and nothing taken for one. -/
theorem collapse_harmless (e : Expr) :
    e.collapse.render = e.render ∧
    (∀ other : Expr, e.collapse.render = other.collapse.render ↔ e.collapse = other.collapse) ∧
    ∀ target document,
      Agree (e.evaluate target document) (e.collapse.evaluate target document) := by
  refine ⟨render_collapse e, fun other => ?_, fun target document => ?_⟩
  · rw [render_collapse, render_collapse, collapse_eq_iff]
  · exact agree_collapse target document e

example : (size (coalesce [field "tags"])).evaluate "n" (.object [("tags", .null)]) =
      .error (.sizeOfNonArray "n" .missing) ∧
    (size (coalesce [field "tags"])).collapse.evaluate "n" (.object [("tags", .null)]) =
      .error (.sizeOfNonArray "n" .null) := ⟨rfl, rfl⟩

end Expr

end SortPipeline
