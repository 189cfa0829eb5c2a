import SortPipeline.Proofs.OriginalOrder

namespace SortPipeline

namespace Value

def foundAt (path : String) (document : Value) : Found := .ofValue? (document.getPath? path)

theorem lowered?_eq_none_iff {path : String} {document : Value} :
    lowered? (document.getPath? path) = none ↔
      document.foundAt path = .bool ∨ document.foundAt path = .array ∨
        document.foundAt path = .object := by
  unfold foundAt
  cases document.getPath? path with
  | none => decide
  | some v => cases v <;> simp [lowered?, Found.ofValue?, Found.ofValue]

theorem foundAt_eq_array_iff {path : String} {document : Value} :
    document.foundAt path = .array ↔ ∃ items, document.getPath? path = some (.array items) := by
  unfold foundAt
  cases document.getPath? path with
  | none => simp [Found.ofValue?]
  | some v => cases v <;> simp [Found.ofValue?, Found.ofValue]

end Value

namespace Stage

/-- The assignment finds what it cannot take. Lowered may be a text or a number, null or nothing at
all; counted may be nothing but an array. -/
inductive Refuses (document : Value) : String × Expr → RunFault → Prop
  | lower {name path : String} (h : document.foundAt path = .bool ∨ document.foundAt path = .array ∨
      document.foundAt path = .object) :
    Refuses document (name, .lower (.field path)) (.lowerOfNonScalar name (document.foundAt path))
  | size {name path : String} (h : document.foundAt path ≠ .array) :
    Refuses document (name, .size (.field path)) (.sizeOfNonArray name (document.foundAt path))

theorem refuses_lower_iff {document : Value} {name path : String} {fault : RunFault} :
    Refuses document (name, .lower (.field path)) fault ↔
      (document.foundAt path = .bool ∨ document.foundAt path = .array ∨
        document.foundAt path = .object) ∧
        fault = .lowerOfNonScalar name (document.foundAt path) := by
  constructor
  · intro h
    cases h with
    | lower h => exact ⟨h, rfl⟩
  · rintro ⟨h, rfl⟩
    exact .lower h

theorem refuses_size_iff {document : Value} {name path : String} {fault : RunFault} :
    Refuses document (name, .size (.field path)) fault ↔
      document.foundAt path ≠ .array ∧ fault = .sizeOfNonArray name (document.foundAt path) := by
  constructor
  · intro h
    cases h with
    | size h => exact ⟨h, rfl⟩
  · rintro ⟨h, rfl⟩
    exact .size h

theorem evaluateAll_eq_error_iff {document : Value} {assignments : List (String × Expr)}
    {fault : RunFault} :
    evaluateAll document assignments = .error fault ↔
      First (fun a fault => a.2.evaluate a.1 document = .error fault) assignments fault := by
  induction assignments with
  | nil => simp [evaluateAll]
  | cons a rest ih =>
    obtain ⟨name, e⟩ := a
    rw [first_cons, ← ih, evaluateAll]
    cases e.evaluate name document with
    | error fault => simp
    | ok value => cases evaluateAll document rest <;> simp [Except.map]

theorem assign_eq_error_iff {assignments : List (String × Expr)}
    (hdots : ∀ n ∈ Entries.names assignments, Path.Undotted n) {members : List (String × Value)}
    {fault : RunFault} :
    assign assignments (.object members) = .error fault ↔
      First (fun a fault => a.2.evaluate a.1 (.object members) = .error fault) assignments
        fault := by
  rw [← evaluateAll_eq_error_iff, assign]
  cases hwrites : evaluateAll (.object members) assignments with
  | error fault => simp [Except.bind]
  | ok writes =>
    rw [← names_of_evaluateAll hwrites] at hdots
    obtain ⟨written, hwritten⟩ := exists_writeAll hdots members
    simp [Except.bind, hwritten]

end Stage

namespace Expr

variable {path target : String} {document : Value} {fault : RunFault}

theorem evaluate_lower_eq_error_iff :
    (lower (.field path)).evaluate target document = .error fault ↔
      Stage.Refuses document (target, .lower (.field path)) fault := by
  rw [Stage.refuses_lower_iff, ← Value.lowered?_eq_none_iff, evaluate, evaluate]
  cases hlowered : Value.lowered? (document.getPath? path) with
  | none => simp [hlowered, Value.foundAt, eq_comm]
  | some text => simp [hlowered]

theorem evaluate_size_eq_error_iff :
    (size (.field path)).evaluate target document = .error fault ↔
      Stage.Refuses document (target, .size (.field path)) fault := by
  rw [Stage.refuses_size_iff, ne_eq, Value.foundAt_eq_array_iff, evaluate, evaluate]
  split
  · next hfault => cases hfault
  · next items hitems => simp [Except.ok.inj hitems]
  · next stored hnone hstored =>
    obtain rfl := Except.ok.inj hstored
    have hitems : ¬∃ items, document.getPath? path = some (.array items) := by
      rintro ⟨items, hitems⟩
      exact hnone items (hitems ▸ rfl)
    exact ⟨fun h => ⟨hitems, (Except.error.inj h).symm⟩, fun h => h.2 ▸ rfl⟩

end Expr

theorem Strategy.evaluate_eq_error_iff {s : Strategy} {path target : String} {spec : FieldSpec}
    {document : Value} {fault : RunFault} :
    (s.expr path spec).evaluate target document = .error fault ↔
      Stage.Refuses document (target, s.expr path spec) fault := by
  cases s with
  | lower => exact Expr.evaluate_lower_eq_error_iff
  | size => exact Expr.evaluate_size_eq_error_iff
  | coalesce =>
    rw [expr, Expr.evaluate_candidates]
    constructor <;> intro h <;> cases h

theorem PlannedField.evaluate_eq_error_iff {f : PlannedField} {name : String} {expr : Expr}
    (hplan : f.plan = .temporary name expr) {document : Value} {fault : RunFault} :
    expr.evaluate name document = .error fault ↔ Stage.Refuses document (name, expr) fault := by
  obtain ⟨s, -, -, rfl⟩ := plan_eq_temporary_iff.1 hplan
  exact Strategy.evaluate_eq_error_iff

namespace Draft

theorem run_toPipeline_eq_error_iff {d : Draft} {projectPending : Bool} {documents : List Value}
    {fault : RunFault} :
    (d.toPipeline projectPending).run documents = .error fault ↔
      documents.mapM (Stage.assign d.temporaries) = .error fault := by
  rw [run_toPipeline]
  cases documents.mapM (Stage.assign d.temporaries) <;> simp [Except.map]

theorem Planned.run_eq_error_iff {d : Draft} (h : d.Planned) {projectPending : Bool}
    {documents : List Value} (hdocuments : ∀ v ∈ documents, ∃ members, v = .object members)
    {fault : RunFault} :
    (d.toPipeline projectPending).run documents = .error fault ↔
      First (fun v => First (Stage.Refuses v) d.temporaries) documents fault := by
  rw [run_toPipeline_eq_error_iff, mapM_eq_error_iff]
  -- First document by document, then in each document assignment by assignment.
  refine first_congr fun v hv fault => ?_
  obtain ⟨members, rfl⟩ := hdocuments v hv
  rw [Stage.assign_eq_error_iff fun n => h.undotted]
  refine first_congr fun a ha fault => ?_
  obtain ⟨f, hplan⟩ := h.exists_plan a ha
  exact PlannedField.evaluate_eq_error_iff hplan

theorem Planned.exists_evaluate_coalesce {d : Draft} (h : d.Planned) {name : String}
    {candidates : List Expr} (ha : (name, .coalesce candidates) ∈ d.temporaries) (v : Value) :
    ∃ value, (Expr.coalesce candidates).evaluate name v = .ok value := by
  obtain ⟨f, hplan⟩ := h.exists_plan _ ha
  cases hvalue : (Expr.coalesce candidates).evaluate name v with
  | ok value => exact ⟨value, rfl⟩
  | error fault => cases (PlannedField.evaluate_eq_error_iff hplan).1 hvalue

end Draft

namespace Registry

/-- A run of a compiled directive fails exactly if an assignment is refused by a document. The fault
is then that of the first such document, and of its first such assignment. Dates are never refused,
nor is what is sorted by as it is stored, and a temporary can be written to every document. -/
theorem run_eq_error_iff_first (registry : Registry) (directive : Option String)
    (options : CompileOptions) {documents : List Value}
    (h : ∀ v ∈ documents, ∃ members, v = .object members) :
    let compiled := registry.compile directive options
    let assignments := compiled.assignments?.getD []
    ((∃ fault, compiled.run documents = .error fault) ↔
      ∃ v ∈ documents, ∃ a ∈ assignments, ∃ fault, Stage.Refuses v a fault) ∧
    (∀ fault, compiled.run documents = .error fault ↔
      First (fun v => First (Stage.Refuses v) assignments) documents fault) ∧
    (∀ name candidates, (name, .coalesce candidates) ∈ assignments →
      ∀ v, ∃ value, (Expr.coalesce candidates).evaluate name v = .ok value) ∧
    (assignments = [] → ∃ out, compiled.run documents = .ok out) ∧
    ∀ name, compiled.run documents ≠ .error (.emptyPath name) ∧
      compiled.run documents ≠ .error (.parentNotObject name) := by
  intro compiled assignments
  obtain ⟨d, hplanned, hcompile⟩ := registry.exists_compile_eq_toPipeline directive options
  have hassignments : assignments = d.temporaries := by
    rw [← d.assignments?_toPipeline options.projectPending, ← hcompile]
  have hfirst : ∀ fault, compiled.run documents = .error fault ↔
      First (fun v => First (Stage.Refuses v) assignments) documents fault := by
    intro fault
    rw [hassignments, ← hplanned.run_eq_error_iff h, ← hcompile]
  have hfails : (∃ fault, compiled.run documents = .error fault) ↔
      ∃ v ∈ documents, ∃ a ∈ assignments, ∃ fault, Stage.Refuses v a fault := by
    simp only [hfirst, exists_first_iff]
  have hrefused : ∀ fault, compiled.run documents = .error fault →
      ∃ v a, Stage.Refuses v a fault := by
    intro fault hrun
    obtain ⟨v, -, hv⟩ := ((hfirst fault).1 hrun).exists_mem
    obtain ⟨a, -, ha⟩ := hv.exists_mem
    exact ⟨v, a, ha⟩
  refine ⟨hfails, hfirst, fun name candidates ha => ?_, fun hnone => ?_,
    fun name => ⟨fun hrun => ?_, fun hrun => ?_⟩⟩
  · exact hplanned.exists_evaluate_coalesce (hassignments ▸ ha)
  · cases hrun : compiled.run documents with
    | ok out => exact ⟨out, rfl⟩
    | error fault =>
      obtain ⟨v, -, a, ha, -⟩ := hfails.1 ⟨fault, hrun⟩
      simp [hnone] at ha
  · obtain ⟨v, a, ha⟩ := hrefused _ hrun
    cases ha
  · obtain ⟨v, a, ha⟩ := hrefused _ hrun
    cases ha

def catalogue : Registry where
  fields := [("tags", ⟨.array, none, none, none⟩), ("title", ⟨.string, none, none, none⟩)]
  sorted := by decide

def catalogued : List Value :=
  [.object [("title", .number (.int 1984)), ("tags", .array [])],
    .object [("title", .bool true)],
    .object [("title", .object []), ("tags", .array [.null])]]

theorem catalogue_run_eq_error :
    (∀ v ∈ catalogued, ∃ members, v = .object members) ∧
      (catalogue.compile (some "tags,-title") {}).run catalogued =
        .error (.sizeOfNonArray "tags__sort_size" .missing) := by
  have hobjects : ∀ v ∈ catalogued, ∃ members, v = .object members := by
    simp [catalogued]
  obtain ⟨-, hfirst, -⟩ := run_eq_error_iff_first catalogue (some "tags,-title") {} hobjects
  refine ⟨hobjects, (hfirst _).2 ?_⟩
  have hassignments : (catalogue.compile (some "tags,-title") {}).assignments?.getD [] =
      [("tags__sort_size", .size (.field "tags")),
        ("title__sort_lower", .lower (.field "title"))] := rfl
  rw [hassignments]
  refine .tail (fun fault h => ?_) (.head (.head (.size (by decide))))
  rcases first_cons.1 h with h | ⟨-, h⟩
  · exact (Stage.refuses_size_iff.1 h).1 rfl
  · obtain ⟨a, ha, h⟩ := h.exists_mem
    obtain rfl := List.mem_singleton.1 ha
    exact absurd (Stage.refuses_lower_iff.1 h).1 (by decide)

end Registry

end SortPipeline
