import SortPipeline.Compiler
import SortPipeline.Proofs.DirectiveText
import SortPipeline.Proofs.Merging

namespace SortPipeline

namespace Registry

/-- No field of the registry is asked for, or one that cannot be planned. -/
def FallsBack (registry : Registry) : Option String → Prop
  | none => True
  | some directive =>
    directive = "" ∨
    (∀ t ∈ Directive.tokens directive, ¬registry.contains t.name) ∨
    ∃ t ∈ Directive.tokens directive, ∃ spec ∈ registry.get? t.name, spec.kind = .unrecognized

instance (registry : Registry) : DecidablePred registry.FallsBack
  | none => .isTrue trivial
  | some directive =>
    inferInstanceAs (Decidable (directive = "" ∨
      (∀ t ∈ Directive.tokens directive, ¬registry.contains t.name) ∨
      ∃ t ∈ Directive.tokens directive, ∃ spec ∈ registry.get? t.name, spec.kind = .unrecognized))

def plannedFields (registry : Registry) (directive : String) : List PlannedField :=
  (registry.requests directive).filterMap Request.planned?

theorem mem_requests {registry : Registry} {directive : String} {r : Request} :
    r ∈ registry.requests directive ↔
      r.token ∈ Directive.tokens directive ∧ registry.get? r.token.name = some r.spec := by
  simp only [requests, List.mem_filterMap, Option.map_eq_some_iff]
  constructor
  · rintro ⟨t, ht, spec, hspec, rfl⟩
    exact ⟨ht, hspec⟩
  · rintro ⟨ht, hspec⟩
    exact ⟨r.token, ht, r.spec, hspec, rfl⟩

theorem requests_eq_nil_iff {registry : Registry} {directive : String} :
    registry.requests directive = [] ↔
      ∀ t ∈ Directive.tokens directive, ¬registry.contains t.name := by
  simp [requests, contains]

theorem requests_eq_filter (registry : Registry) (directive : String) :
    registry.requests directive =
      ((Directive.tokens directive).filter fun t => registry.contains t.name).filterMap
        fun t => (registry.get? t.name).map (Request.mk t) := by
  rw [List.filterMap_filter, requests]
  apply List.filterMap_congr
  intro t _
  cases h : registry.get? t.name <;> simp [contains, h]

theorem map_token_requests (registry : Registry) (directive : String) :
    (registry.requests directive).map (·.token) =
      (Directive.tokens directive).filter fun t => registry.contains t.name := by
  rw [requests]
  induction Directive.tokens directive with
  | nil => rfl
  | cons t rest ih => cases h : registry.get? t.name <;> simpa [contains, h] using ih

theorem exists_plan?_eq_none_iff {registry : Registry} {directive : String} :
    (∃ r ∈ registry.requests directive, r.plan? = none) ↔
      ∃ t ∈ Directive.tokens directive, ∃ spec ∈ registry.get? t.name,
        spec.kind = .unrecognized := by
  constructor
  · rintro ⟨r, hr, hplan⟩
    obtain ⟨ht, hspec⟩ := mem_requests.1 hr
    exact ⟨r.token, ht, r.spec, hspec, (FieldPlan.ofSpec?_eq_none_iff _ _).1 hplan⟩
  · rintro ⟨t, ht, spec, hspec, hkind⟩
    exact ⟨⟨t, spec⟩, mem_requests.2 ⟨ht, hspec⟩, (FieldPlan.ofSpec?_eq_none_iff _ _).2 hkind⟩

theorem map_toRequest_plannedFields {registry : Registry} {directive : String}
    (h : ¬registry.FallsBack (some directive)) :
    (registry.plannedFields directive).map (·.toRequest) = registry.requests directive := by
  have hplans : ∀ r ∈ registry.requests directive, r.plan? ≠ none := fun r hr hplan =>
    h (.inr (.inr (exists_plan?_eq_none_iff.1 ⟨r, hr, hplan⟩)))
  rw [plannedFields, List.map_filterMap]
  calc
    (registry.requests directive).filterMap (fun r => r.planned?.map (·.toRequest)) =
        (registry.requests directive).filterMap some := by
      apply List.filterMap_congr
      intro r hr
      obtain ⟨f, hf⟩ := Option.isSome_iff_exists.1 (Request.isSome_planned?_iff.2 (hplans r hr))
      rw [hf, Option.map_some, Request.planned?_eq_some_iff.1 hf]
    _ = registry.requests directive := List.filterMap_some

end Registry

theorem Draft.addAll?_eq_none {requests : List Request} (h : ∃ r ∈ requests, r.plan? = none)
    (d : Draft) : d.addAll? requests = none := by
  induction requests generalizing d with
  | nil => simp at h
  | cons r rest ih =>
    rw [addAll?]
    split
    · rfl
    · next plan hplan =>
      obtain ⟨s, hs, hnone⟩ := h
      rcases List.mem_cons.1 hs with rfl | hs
      · simp [hplan] at hnone
      · exact ih ⟨s, hs, hnone⟩ _

theorem Draft.addAll?_map_toRequest (fields : List PlannedField) (d : Draft) :
    d.addAll? (fields.map (·.toRequest)) =
      some (fields.foldl (fun d f => d.add f.plan f.direction) d) := by
  induction fields generalizing d with
  | nil => rfl
  | cons f rest ih => simp [addAll?, f.plan?_eq, ih]

theorem Draft.addAll?_congr {requests others : List Request}
    (h : requests.map (fun r => (r.plan?, r.direction)) =
      others.map fun r => (r.plan?, r.direction)) (d : Draft) :
    d.addAll? requests = d.addAll? others := by
  induction requests generalizing others d with
  | nil => rw [List.map_eq_nil_iff.1 h.symm]
  | cons r rest ih =>
    cases others with
    | nil => simp at h
    | cons r' rest' =>
      rw [List.map_cons, List.map_cons, List.cons.injEq, Prod.mk.injEq] at h
      obtain ⟨⟨hplan, hdirection⟩, hrest⟩ := h
      rw [addAll?, addAll?, hplan, hdirection]
      cases r'.plan? with
      | none => rfl
      | some plan => exact ih hrest _

namespace Registry

theorem filter_of_ne_empty {directive : String} (h : directive ≠ "") :
    (some directive).filter (· ≠ "") = some directive := by
  simp [h]

theorem compile_of_fallsBack {registry : Registry} {directive : Option String}
    (h : registry.FallsBack directive) (options : CompileOptions) :
    registry.compile directive options = .sortOnly options.fallback := by
  cases directive with
  | none => rfl
  | some directive =>
    by_cases hempty : directive = ""
    · subst hempty; rfl
    · simp only [compile, filter_of_ne_empty hempty]
      cases hrequests : registry.requests directive with
      | nil => rfl
      | cons r rest =>
        have hnone : ∃ r ∈ registry.requests directive, r.plan? = none := by
          rcases h with h | h | h
          · exact absurd h hempty
          · simp [requests_eq_nil_iff.2 h] at hrequests
          · exact exists_plan?_eq_none_iff.2 h
        simp only [← hrequests, Draft.addAll?_eq_none hnone]

theorem compile_of_not_fallsBack {registry : Registry} {directive : String}
    (h : ¬registry.FallsBack (some directive)) (options : CompileOptions) :
    registry.compile (some directive) options =
      (PlannedField.draft (registry.plannedFields directive)).toPipeline
        options.projectPending := by
  have hempty : directive ≠ "" := fun hempty => h (.inl hempty)
  have hdraft : Draft.addAll? {} (registry.requests directive) =
      some (PlannedField.draft (registry.plannedFields directive)) := by
    rw [← map_toRequest_plannedFields h, Draft.addAll?_map_toRequest, PlannedField.foldl_add]
  simp only [compile, filter_of_ne_empty hempty]
  cases hrequests : registry.requests directive with
  | nil => exact absurd (.inr (.inl (requests_eq_nil_iff.1 hrequests))) h
  | cons r rest => simp only [← hrequests, hdraft]

theorem compile_congr {registry : Registry} {text other : String} (htext : text ≠ "")
    (hother : other ≠ "")
    (h : (Directive.tokens text).filter (fun t => registry.contains t.name) =
      (Directive.tokens other).filter fun t => registry.contains t.name)
    (options : CompileOptions) :
    registry.compile (some text) options = registry.compile (some other) options := by
  have hrequests : registry.requests text = registry.requests other := by
    rw [requests_eq_filter, h, ← requests_eq_filter]
  simp only [compile, filter_of_ne_empty htext, filter_of_ne_empty hother, hrequests]

def plan? (registry : Registry) (name : String) : Option (Option FieldPlan) :=
  (registry.get? name).map (FieldPlan.ofSpec? name)

theorem map_plan?_requests (registry : Registry) (directive : String) :
    (registry.requests directive).map (fun r => (r.plan?, r.direction)) =
      (Directive.tokens directive).filterMap fun t =>
        (registry.plan? t.name).map (·, .ofDescending t.descending) := by
  rw [requests, List.map_filterMap]
  apply List.filterMap_congr
  intro t _
  rw [plan?, Option.map_map, Option.map_map]
  rfl

theorem compile_congr_plan? {registry other : Registry}
    (h : ∀ name, registry.plan? name = other.plan? name) (directive : Option String)
    (options : CompileOptions) :
    registry.compile directive options = other.compile directive options := by
  have hplans : ∀ text, (registry.requests text).map (fun r => (r.plan?, r.direction)) =
      (other.requests text).map fun r => (r.plan?, r.direction) := by
    simp only [map_plan?_requests, h, implies_true]
  unfold compile
  cases directive.filter (· ≠ "") with
  | none => rfl
  | some text =>
    have hplans := hplans text
    dsimp only
    cases hr : registry.requests text with
    | nil =>
      rw [hr, List.map_nil, eq_comm, List.map_eq_nil_iff] at hplans
      simp only [hplans]
    | cons r rest =>
      cases hs : other.requests text with
      | nil => simp [hr, hs] at hplans
      | cons s more =>
        rw [hr, hs] at hplans
        simp only [Draft.addAll?_congr hplans]

theorem fallsBack_iff (registry : Registry) (directive : Option String)
    (options : CompileOptions) :
    registry.FallsBack directive ↔
      ∀ fallback, registry.compile directive { options with fallback } = .sortOnly fallback := by
  constructor
  · intro h fallback
    exact compile_of_fallsBack h { options with fallback }
  · intro h
    by_contra hnot
    cases directive with
    | none => exact hnot trivial
    | some text =>
      have hempty := h .empty
      have hid := h .idAscending
      rw [compile_of_not_fallsBack hnot] at hempty hid
      have hsame : Pipeline.sortOnly .empty = Pipeline.sortOnly .idAscending :=
        hempty.symm.trans hid
      simp [Pipeline.sortOnly, SortKeys.empty, SortKeys.idAscending, SortKeys.set, Entries.set]
        at hsame

/-- A configured compiler puts the fallback order, as it is, exactly where nothing usable is asked
for. All other directives compile to the merged fields, which neither tracing nor tokens of
unregistered names can change. -/
theorem compile_eq_merged (registry : Registry) (directive : Option String)
    (options : CompileOptions) :
    (∀ sink, (Compiler.mk (some registry) sink).compile directive options =
      .ok (registry.compile directive options)) ∧
    (∀ text, Directive.tokens text = (text.toList.splitOn ',').map fun piece =>
      if piece.head? = some '-' then ⟨String.ofList piece.tail, true⟩
      else ⟨String.ofList piece, false⟩) ∧
    (registry.FallsBack directive ↔
      ∀ fallback, registry.compile directive { options with fallback } = .sortOnly fallback) ∧
    (∀ text, directive = some text → ¬registry.FallsBack directive →
      let fields := registry.plannedFields text
      let keys := PlannedField.sortKeys fields
      let temporaries := PlannedField.temporaries fields
      fields.map (·.token) =
          (Directive.tokens text).filter (fun t => registry.contains t.name) ∧
        (∀ f ∈ fields, registry.get? f.token.name = some f.spec) ∧
        (Entries.names keys.entries).Nodup ∧
        (registry.compile directive options).stages =
          if temporaries = [] then [.sort keys]
          else if options.projectPending then [.set temporaries, .sort keys]
          else [.set temporaries, .sort keys, .unset (Entries.names temporaries)]) ∧
    (∀ trace, registry.compile directive { options with trace } =
      registry.compile directive options) ∧
    (∀ text other, directive = some text → text ≠ "" → other ≠ "" →
      (Directive.tokens other).filter (fun t => registry.contains t.name) =
        (Directive.tokens text).filter (fun t => registry.contains t.name) →
      registry.compile (some other) options = registry.compile directive options) := by
  refine ⟨fun _ => rfl, Directive.tokens_eq_splitOn, fallsBack_iff registry directive options, ?_,
    fun _ => rfl, ?_⟩
  · rintro text rfl h
    have hfields := map_toRequest_plannedFields h
    refine ⟨?_, ?_, ?_, ?_⟩
    · rw [← map_token_requests, ← hfields, List.map_map]
      rfl
    · intro f hf
      have hr : f.toRequest ∈ registry.requests text := hfields ▸ List.mem_map_of_mem hf
      exact (mem_requests.1 hr).2
    · rw [PlannedField.names_sortKeys]
      exact PlannedField.nodup_sortPaths _
    · rw [compile_of_not_fallsBack h, Draft.toPipeline]
      cases htemps : PlannedField.temporaries (registry.plannedFields text) with
      | nil => simp [PlannedField.draft, htemps, Pipeline.sortOnly]
      | cons a rest => cases hpending : options.projectPending <;>
          simp [PlannedField.draft, htemps]
  · rintro text other rfl htext hother h
    exact compile_congr hother htext h options

end Registry

end SortPipeline
