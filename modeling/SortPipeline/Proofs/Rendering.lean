import SortPipeline.Proofs.RequestedFields

namespace SortPipeline

namespace Expr

mutual

def collapse : Expr → Expr
  | .field path => .field path
  | .literal value => .literal value
  | .lower inner => .lower inner.collapse
  | .size inner => .size inner.collapse
  | .coalesce [] => .literal .null
  | .coalesce [candidate] => candidate.collapse
  | .coalesce candidates => .coalesce (collapseAll candidates)

def collapseAll : List Expr → List Expr
  | [] => []
  | e :: es => e.collapse :: collapseAll es

end

mutual

def coalesces : Expr → List (List Expr)
  | .field _ | .literal _ => []
  | .lower inner | .size inner => inner.coalesces
  | .coalesce candidates => candidates :: coalescesAll candidates

def coalescesAll : List Expr → List (List Expr)
  | [] => []
  | e :: es => e.coalesces ++ coalescesAll es

end

mutual

theorem collapse_eq_self {e : Expr} (h : ∀ candidates ∈ e.coalesces, 2 ≤ candidates.length) :
    e.collapse = e := by
  match e with
  | .field path => rfl
  | .literal value => rfl
  | .lower inner => exact congrArg lower (collapse_eq_self h)
  | .size inner => exact congrArg size (collapse_eq_self h)
  | .coalesce [] => simp [coalesces] at h
  | .coalesce [candidate] => simp [coalesces] at h
  | .coalesce (a :: b :: rest) =>
    exact congrArg coalesce (collapseAll_eq_self (List.forall_mem_cons.1 h).2)

theorem collapseAll_eq_self {es : List Expr}
    (h : ∀ candidates ∈ coalescesAll es, 2 ≤ candidates.length) : collapseAll es = es := by
  match es with
  | [] => rfl
  | e :: rest =>
    rw [coalescesAll, List.forall_mem_append] at h
    rw [collapseAll, collapse_eq_self h.1, collapseAll_eq_self h.2]

end

mutual

def ofRendered? : Value → Option Expr
  | .string s =>
    match s.toList with
    | '$' :: path => some (.field (String.ofList path))
    | _ => some (.literal (.string s))
  | .object [("$literal", value)] => some (.literal value)
  | .object [("$toLower", inner)] => (ofRendered? inner).map .lower
  | .object [("$size", inner)] => (ofRendered? inner).map .size
  | .object [("$ifNull", .array candidates)] => (ofRenderedAll? candidates).map .coalesce
  | .object _ | .array _ => none
  | value => some (.literal value)

def ofRenderedAll? : List Value → Option (List Expr)
  | [] => some []
  | v :: vs => do
    let e ← ofRendered? v
    let es ← ofRenderedAll? vs
    return e :: es

end

theorem ofRendered?_renderLiteral (value : Value) :
    ofRendered? (renderLiteral value) = some (.literal value) := by
  cases value with
  | string s =>
    rw [renderLiteral]
    split
    · rfl
    · next h =>
      rw [ofRendered?]
      split
      · next hs => simp [hs] at h
      · rfl
  | null | bool | number | array | object => rfl

mutual

theorem ofRendered?_render (e : Expr) : ofRendered? e.render = some e.collapse := by
  match e with
  | .field path => simp [render, ofRendered?, collapse]
  | .literal value => exact ofRendered?_renderLiteral value
  | .lower inner => simp [render, ofRendered?, collapse, ofRendered?_render inner]
  | .size inner => simp [render, ofRendered?, collapse, ofRendered?_render inner]
  | .coalesce [] => rfl
  | .coalesce [candidate] => exact ofRendered?_render candidate
  | .coalesce (a :: b :: rest) =>
    simp [render, ofRendered?, collapse, ofRenderedAll?_renderAll (a :: b :: rest)]

theorem ofRenderedAll?_renderAll (es : List Expr) :
    ofRenderedAll? (renderAll es) = some (collapseAll es) := by
  match es with
  | [] => rfl
  | e :: rest =>
    simp [renderAll, ofRenderedAll?, collapseAll, ofRendered?_render e,
      ofRenderedAll?_renderAll rest]

end

theorem renderAll_eq_map (es : List Expr) : renderAll es = es.map render := by
  induction es with
  | nil => rfl
  | cons e es ih => rw [renderAll, ih, List.map_cons]

theorem render_coalesce {candidates : List Expr} (h : 2 ≤ candidates.length) :
    (coalesce candidates).render = .object [("$ifNull", .array (candidates.map render))] := by
  match candidates with
  | [] | [_] => simp at h
  | a :: b :: rest =>
    rw [← renderAll_eq_map]
    rfl

end Expr

namespace SortKeys

inductive Built : SortKeys → Prop
  | empty : Built .empty
  | set {keys : SortKeys} (path : String) (direction : Direction) (h : Built keys) :
      Built (keys.set path direction)
  | ofList (entries : List (String × Direction)) : Built (.ofList entries)

theorem Built.nodup {keys : SortKeys} (h : keys.Built) : (Entries.names keys.entries).Nodup := by
  induction h with
  | empty => exact .nil
  | set path direction _ ih => exact Entries.nodup_names_set path direction ih
  | ofList entries => exact Entries.nodup_names_ofList entries

def entryOfRendered? : String × Value → Option (String × Direction)
  | (path, .number (.int 1)) => some (path, .ascending)
  | (path, .number (.int (-1))) => some (path, .descending)
  | _ => none

end SortKeys

namespace Stage

def Plain : Stage → Prop
  | .set assignments =>
    (Entries.names assignments).Nodup ∧
      ∀ a ∈ assignments, ∀ candidates ∈ a.2.coalesces, 2 ≤ candidates.length
  | .sort keys => (Entries.names keys.entries).Nodup
  | .unset _ => True

theorem render_set {assignments : List (String × Expr)} (h : (Entries.names assignments).Nodup) :
    (set assignments).render =
      .object [("$set", .object (assignments.map fun (name, e) => (name, e.render)))] := by
  have hnames : (Entries.names (assignments.map fun (name, e) => (name, e.render))).Nodup := by
    simpa [Entries.names, Function.comp_def] using h
  rw [render, Entries.ofList_eq_self hnames]

theorem render_sort {keys : SortKeys} (h : (Entries.names keys.entries).Nodup) :
    (sort keys).render = .object [("$sort",
      .object (keys.entries.map fun (path, d) => (path, .number (.int d.sign))))] := by
  have hnames : (Entries.names (keys.entries.map fun (path, d) =>
      (path, Value.number (.int d.sign)))).Nodup := by
    simpa [Entries.names, Function.comp_def] using h
  rw [render, SortKeys.render, Entries.ofList_eq_self hnames]

def assignmentOfRendered? : String × Value → Option (String × Expr)
  | (name, v) => (Expr.ofRendered? v).map (name, ·)

def ofRendered? : Value → Option Stage
  | .object [("$set", .object members)] =>
    (members.mapM assignmentOfRendered?).map .set
  | .object [("$sort", .object members)] =>
    (members.mapM SortKeys.entryOfRendered?).map fun entries => .sort ⟨entries⟩
  | .object [("$unset", .array names)] => (names.mapM Value.text?).map .unset
  | _ => none

theorem ofRendered?_render {stage : Stage} (h : stage.Plain) :
    ofRendered? stage.render = some stage := by
  cases stage with
  | set assignments =>
    rw [render_set h.1, ofRendered?, mapM_map_eq_some]
    · rfl
    · intro a ha
      simp [assignmentOfRendered?, Expr.ofRendered?_render, Expr.collapse_eq_self (h.2 a ha)]
  | sort keys =>
    rw [render_sort h, ofRendered?, mapM_map_eq_some]
    · rfl
    · rintro ⟨path, d⟩ -
      cases d <;> rfl
  | unset names =>
    rw [render, ofRendered?, mapM_map_eq_some]
    · rfl
    · exact fun _ _ => rfl

end Stage

namespace Pipeline

def ofRendered? : Value → Option Pipeline
  | .array stages => (stages.mapM Stage.ofRendered?).map .mk
  | _ => none

theorem ofRendered?_render {p : Pipeline} (h : ∀ stage ∈ p.stages, stage.Plain) :
    ofRendered? p.render = some p := by
  have hstages : ∀ stage ∈ p.stages, Stage.ofRendered? stage.render = some stage :=
    fun stage hstage => Stage.ofRendered?_render (h stage hstage)
  rw [render, ofRendered?, mapM_map_eq_some hstages]
  rfl

end Pipeline

namespace FieldPlan

theorem two_le_length_candidates_iff {path : String} {spec : FieldSpec} :
    2 ≤ (candidates path spec).length ↔ spec.replacesNull := by
  unfold candidates FieldSpec.replacesNull
  cases spec.replacementKey? <;> cases spec.replacementValue? <;> simp

theorem coalescesAll_candidates (path : String) (spec : FieldSpec) :
    Expr.coalescesAll (candidates path spec) = [] := by
  unfold candidates
  cases spec.replacementKey? <;> cases spec.replacementValue? <;> rfl

end FieldPlan

theorem FieldSpec.replacesNull_of_strategy? {spec : FieldSpec}
    (h : spec.strategy? = some .coalesce) : spec.replacesNull := by
  cases hkind : spec.kind <;> simp_all [strategy?]

theorem PlannedField.two_le_of_mem_coalesces {fields : List PlannedField} {a : String × Expr}
    (ha : a ∈ temporaries fields) {candidates : List Expr} (h : candidates ∈ a.2.coalesces) :
    2 ≤ candidates.length := by
  obtain ⟨f, -, hplan⟩ := mem_temporaries.1 ha
  obtain ⟨s, hs, -, hexpr⟩ := plan_eq_temporary_iff.1 hplan
  rw [← hexpr] at h
  cases s with
  | lower => simp [Strategy.expr, Expr.coalesces] at h
  | size => simp [Strategy.expr, Expr.coalesces] at h
  | coalesce =>
    rw [Strategy.expr, Expr.coalesces, FieldPlan.coalescesAll_candidates,
      List.mem_singleton] at h
    rw [h, FieldPlan.two_le_length_candidates_iff]
    exact FieldSpec.replacesNull_of_strategy? hs

theorem Draft.mem_stages_toPipeline {d : Draft} {projectPending : Bool} {stage : Stage}
    (h : stage ∈ (d.toPipeline projectPending).stages) :
    stage = .set d.temporaries ∨ stage = .sort d.keys ∨
      stage = .unset (Entries.names d.temporaries) := by
  unfold toPipeline at h
  split at h
  · exact .inr (.inl (List.mem_singleton.1 h))
  · cases projectPending with
    | true => exact (List.mem_pair.1 h).imp_right .inl
    | false => simpa using h

theorem Registry.plain_of_mem_compile {registry : Registry} {directive : Option String}
    {options : CompileOptions} (hfallback : options.fallback.Built) {stage : Stage}
    (h : stage ∈ (registry.compile directive options).stages) : stage.Plain := by
  by_cases hfalls : registry.FallsBack directive
  · rw [compile_of_fallsBack hfalls] at h
    obtain rfl := List.mem_singleton.1 h
    exact hfallback.nodup
  · cases directive with
    | none => exact absurd trivial hfalls
    | some text =>
      rw [compile_of_not_fallsBack hfalls] at h
      rcases Draft.mem_stages_toPipeline h with rfl | rfl | rfl
      · exact ⟨PlannedField.nodup_temporaries _, fun a ha candidates =>
          PlannedField.two_le_of_mem_coalesces ha⟩
      · rw [Stage.Plain, PlannedField.draft, PlannedField.names_sortKeys]
        exact PlannedField.nodup_sortPaths _
      · trivial

namespace Pipeline

def Compiled (p : Pipeline) : Prop :=
  ∃ (c : Compiler) (directive : Option String) (options : CompileOptions),
    options.fallback.Built ∧ c.compile directive options = .ok p

theorem Compiled.plain {p : Pipeline} (h : p.Compiled) : ∀ stage ∈ p.stages, stage.Plain := by
  obtain ⟨c, directive, options, hfallback, hcompile⟩ := h
  unfold Compiler.compile at hcompile
  split at hcompile
  · cases hcompile
  · cases hcompile
    exact fun stage hstage => Registry.plain_of_mem_compile hfallback hstage

/-- Compiled pipelines are told apart by their renderings: each assignment and each sort key is a
member of its own, and each coalesce an operator with all its candidates. -/
theorem render_lossless {p q : Pipeline} (hp : p.Compiled) (hq : q.Compiled) :
    (p.render = q.render → p = q) ∧
    (∀ assignments, .set assignments ∈ p.stages →
      (Stage.set assignments).render =
        .object [("$set", .object (assignments.map fun (name, e) => (name, e.render)))] ∧
      ∀ a ∈ assignments, ∀ candidates ∈ a.2.coalesces, 2 ≤ candidates.length ∧
        (Expr.coalesce candidates).render =
          .object [("$ifNull", .array (candidates.map Expr.render))]) ∧
    ∀ keys, .sort keys ∈ p.stages →
      (Stage.sort keys).render = .object [("$sort",
        .object (keys.entries.map fun (path, d) => (path, .number (.int d.sign))))] := by
  refine ⟨fun h => ?_, fun assignments hmem => ?_, fun keys hmem => ?_⟩
  · have hread : some p = some q := by
      rw [← ofRendered?_render hp.plain, h, ofRendered?_render hq.plain]
    exact Option.some.inj hread
  · obtain ⟨hnames, hcoalesces⟩ := hp.plain _ hmem
    refine ⟨Stage.render_set hnames, fun a ha candidates hcandidates => ?_⟩
    have hlength := hcoalesces a ha candidates hcandidates
    exact ⟨hlength, Expr.render_coalesce hlength⟩
  · exact Stage.render_sort (hp.plain _ hmem)

end Pipeline

def replacedByPath : Registry where
  fields := [("due", ⟨.date, none, some "x", none⟩)]
  sorted := by decide

def replacedByText : Registry where
  fields := [("due", ⟨.date, none, none, some (.string "$x")⟩)]
  sorted := by decide

theorem render_replacedByPath_ne :
    (replacedByPath.compile (some "due") {}).render ≠
      (replacedByText.compile (some "due") {}).render := by
  have hbuilt : SortKeys.idAscending.Built := .set "_id" .ascending .empty
  have hpath : (replacedByPath.compile (some "due") {}).Compiled :=
    ⟨{ registry := some replacedByPath }, some "due", {}, hbuilt, rfl⟩
  have htext : (replacedByText.compile (some "due") {}).Compiled :=
    ⟨{ registry := some replacedByText }, some "due", {}, hbuilt, rfl⟩
  intro h
  have hsame := (Pipeline.render_lossless hpath htext).1 h
  have hset : some [("due__sort_coalesce", Expr.coalesce [.field "due", .field "x"])] =
      some [("due__sort_coalesce", .coalesce [.field "due", .literal (.string "$x")])] :=
    congrArg Pipeline.assignments? hsame
  simp at hset

end SortPipeline
