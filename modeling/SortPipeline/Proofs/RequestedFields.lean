import Mathlib.Data.List.Find
import SortPipeline.Proofs.CompiledPipeline
import SortPipeline.Proofs.Decoration
import SortPipeline.Proofs.TemporaryName

namespace SortPipeline

def FieldSpec.strategy? (spec : FieldSpec) : Option Strategy :=
  match spec.kind with
  | .string => some .lower
  | .array => some .size
  | .date => if spec.replacesNull then some .coalesce else none
  | .number | .boolean | .unrecognized => none

def Strategy.expr (path : String) (spec : FieldSpec) : Strategy → Expr
  | .lower => .lower (.field path)
  | .size => .size (.field path)
  | .coalesce => .coalesce (FieldPlan.candidates path spec)

theorem FieldPlan.candidates_inj {path : String} {spec other : FieldSpec} :
    candidates path spec = candidates path other ↔
      spec.replacementKey? = other.replacementKey? ∧
        spec.replacementValue? = other.replacementValue? := by
  constructor
  · intro h
    cases hk : spec.replacementKey? <;> cases hk' : other.replacementKey? <;>
      cases hv : spec.replacementValue? <;> cases hv' : other.replacementValue? <;>
      simp_all [candidates]
  · rintro ⟨hkey, hvalue⟩
    rw [candidates, candidates, hkey, hvalue]

theorem Strategy.expr_inj {s : Strategy} {path : String} {spec other : FieldSpec} :
    s.expr path spec = s.expr path other ↔
      (s = .coalesce → spec.replacementKey? = other.replacementKey? ∧
        spec.replacementValue? = other.replacementValue?) := by
  cases s <;> simp [expr, FieldPlan.candidates_inj]

theorem Draft.assignments?_toPipeline (d : Draft) (projectPending : Bool) :
    (d.toPipeline projectPending).assignments?.getD [] = d.temporaries := by
  unfold toPipeline
  split
  · next h => exact (List.isEmpty_iff.1 h).symm
  · rfl

namespace Request

def storagePath (r : Request) : String := r.spec.storagePath r.token.name

def SharesTemporary (r s : Request) : Prop :=
  r.storagePath = s.storagePath ∧ r.spec.strategy? = s.spec.strategy?

instance (r s : Request) : Decidable (r.SharesTemporary s) :=
  inferInstanceAs (Decidable (_ ∧ _))

end Request

namespace PlannedField

theorem plan_eq (f : PlannedField) :
    f.plan =
      match f.spec.strategy? with
      | none => .direct f.storagePath
      | some s => .derived f.storagePath s (s.expr f.storagePath f.spec) := by
  have hplan : FieldPlan.ofSpec? f.token.name f.spec = some f.plan := f.plan?_eq
  unfold FieldPlan.ofSpec? at hplan
  cases hkind : f.spec.kind with
  | date =>
    cases hnull : f.spec.replacesNull <;> simp only [hkind, hnull] at hplan <;>
      simpa [FieldSpec.strategy?, hkind, hnull, Request.storagePath, Strategy.expr] using
        (Option.some.inj hplan).symm
  | unrecognized => simp [hkind] at hplan
  | string | array | number | boolean =>
    simp only [hkind] at hplan
    simpa [FieldSpec.strategy?, hkind, Request.storagePath, Strategy.expr] using
      (Option.some.inj hplan).symm

theorem plan_eq_temporary_iff {f : PlannedField} {name : String} {expr : Expr} :
    f.plan = .temporary name expr ↔
      ∃ s, f.spec.strategy? = some s ∧ Temporary.name f.storagePath s.tag = name ∧
        s.expr f.storagePath f.spec = expr := by
  rw [plan_eq]
  cases f.spec.strategy? <;> simp [FieldPlan.derived]

theorem sortPath_eq_of_sharesTemporary {f g : PlannedField}
    (h : g.SharesTemporary f.toRequest) : g.sortPath = f.sortPath := by
  rw [sortPath, sortPath, plan_eq, plan_eq, h.1, h.2]
  cases f.spec.strategy? <;> rfl

theorem sharesTemporary_of_sortPath_eq {f g : PlannedField} {s t : Strategy}
    (hf : f.spec.strategy? = some s) (hg : g.spec.strategy? = some t)
    (h : g.sortPath = f.sortPath) : g.SharesTemporary f.toRequest := by
  rw [sortPath, sortPath, plan_eq, plan_eq, hf, hg] at h
  obtain ⟨hpath, rfl⟩ := Temporary.name_inj h
  exact ⟨hpath, hg.trans hf.symm⟩

theorem assignment?_eq_some_iff {f : PlannedField} {name : String} {expr : Expr} :
    f.assignment? = some (name, expr) ↔ f.plan = .temporary name expr := by
  unfold assignment?
  cases f.plan <;> simp [FieldPlan.assignment?]

theorem mem_temporaries {fields : List PlannedField} {name : String} {expr : Expr} :
    (name, expr) ∈ temporaries fields ↔
      ∃ f, first? name fields = some f ∧ f.plan = .temporary name expr := by
  simp only [temporaries, List.mem_filterMap, Option.bind_eq_some_iff,
    assignment?_eq_some_iff]
  constructor
  · rintro ⟨path, -, f, hfirst, hplan⟩
    obtain rfl : name = path := by simpa [sortPath, hplan] using sortPath_of_first? hfirst
    exact ⟨f, hfirst, hplan⟩
  · rintro ⟨f, hfirst, hplan⟩
    exact ⟨name, isSome_first?_iff.1 (Option.isSome_of_eq_some hfirst), f, hfirst, hplan⟩

theorem nodup_temporaries (fields : List PlannedField) :
    (Entries.names (temporaries fields)).Nodup := by
  have hname : ∀ path name, ((first? path fields).bind assignment?).map (·.1) = some name →
      name = path := by
    intro path name h
    simp only [Option.map_eq_some_iff, Option.bind_eq_some_iff] at h
    obtain ⟨⟨_, expr⟩, ⟨f, hfirst, hassign⟩, rfl⟩ := h
    have hplan := assignment?_eq_some_iff.1 hassign
    simpa [sortPath, hplan] using sortPath_of_first? hfirst
  rw [Entries.names, temporaries, List.map_filterMap]
  apply (nodup_sortPaths fields).filterMap
  intro path path' name h h'
  exact (hname path name h).symm.trans (hname path' name h')

theorem sortKeys?_draft (fields : List PlannedField) (projectPending : Bool) :
    ((draft fields).toPipeline projectPending).sortKeys? = some (sortKeys fields) := by
  unfold Draft.toPipeline
  split <;> rfl

theorem assignments?_draft (fields : List PlannedField) (projectPending : Bool) :
    ((draft fields).toPipeline projectPending).assignments?.getD [] = temporaries fields :=
  Draft.assignments?_toPipeline _ _

/-- Where nothing else has the name of a temporary, the first field with that name is the first
that shares the temporary. -/
theorem first?_eq_find?_sharesTemporary {fields : List PlannedField} {f : PlannedField}
    {name : String} {expr : Expr} (hplan : f.plan = .temporary name expr)
    (hclash : ∀ g ∈ fields, g.plan ≠ .direct name) :
    first? name fields = fields.find? (·.SharesTemporary f.toRequest) := by
  have hpath : f.sortPath = name := by simp [sortPath, hplan]
  obtain ⟨s, hs, -, -⟩ := plan_eq_temporary_iff.1 hplan
  apply List.find?_congr
  intro g hg
  rw [decide_eq_decide]
  constructor
  · intro hsame
    cases hgplan : g.plan with
    | direct path =>
      obtain rfl : path = name := by simpa [sortPath, hgplan] using hsame
      exact absurd hgplan (hclash g hg)
    | temporary other e =>
      obtain ⟨t, ht, -, -⟩ := plan_eq_temporary_iff.1 hgplan
      exact sharesTemporary_of_sortPath_eq hs ht (hsame.trans hpath.symm)
  · intro hshares
    rw [sortPath_eq_of_sharesTemporary hshares, hpath]

theorem exists_first_temporary {fields : List PlannedField} {f : PlannedField} (hf : f ∈ fields)
    {name : String} {expr : Expr} (hplan : f.plan = .temporary name expr)
    (hclash : ∀ g ∈ fields, g.plan ≠ .direct name) :
    ∃ g firstExpr, first? name fields = some g ∧ g.plan = .temporary name firstExpr ∧
      g.SharesTemporary f.toRequest := by
  have hpath : name ∈ sortPaths fields := mem_sortPaths.2 ⟨f, hf, by simp [sortPath, hplan]⟩
  obtain ⟨g, hfirst⟩ := Option.isSome_iff_exists.1 (isSome_first?_iff.2 hpath)
  have hshares : g.SharesTemporary f.toRequest := by
    rw [first?_eq_find?_sharesTemporary hplan hclash] at hfirst
    simpa using List.find?_some hfirst
  cases hgplan : g.plan with
  | direct path =>
    obtain rfl : path = name := by simpa [sortPath, hgplan] using sortPath_of_first? hfirst
    exact absurd hgplan (hclash g (List.mem_of_find?_eq_some hfirst))
  | temporary other firstExpr =>
    obtain rfl : other = name := by simpa [sortPath, hgplan] using sortPath_of_first? hfirst
    exact ⟨g, firstExpr, hfirst, hgplan, hshares⟩

theorem expr_eq_iff_of_sharesTemporary {f g : PlannedField} (h : g.SharesTemporary f.toRequest)
    {name : String} {expr firstExpr : Expr} (hf : f.plan = .temporary name expr)
    (hg : g.plan = .temporary name firstExpr) :
    firstExpr = expr ↔ (f.spec.kind = .date →
      g.spec.replacementKey? = f.spec.replacementKey? ∧
        g.spec.replacementValue? = f.spec.replacementValue?) := by
  obtain ⟨s, hs, -, rfl⟩ := plan_eq_temporary_iff.1 hf
  obtain ⟨t, ht, -, rfl⟩ := plan_eq_temporary_iff.1 hg
  obtain rfl : t = s := Option.some.inj (ht.symm.trans (h.2.trans hs))
  have hkind : t = .coalesce ↔ f.spec.kind = .date := by
    cases hk : f.spec.kind <;> simp only [FieldSpec.strategy?, hk] at hs <;> grind
  rw [h.1, Strategy.expr_inj, hkind]

end PlannedField

namespace FieldPlan

theorem exists_strategy_of_ofSpec? {field name : String} {spec : FieldSpec} {expr : Expr}
    (h : ofSpec? field spec = some (.temporary name expr)) :
    ∃ s, spec.strategy? = some s ∧ Temporary.name (spec.storagePath field) s.tag = name ∧
      s.expr (spec.storagePath field) spec = expr :=
  PlannedField.plan_eq_temporary_iff (f := ⟨⟨⟨field, false⟩, spec⟩, _, h⟩).1 rfl

/-- The name of a temporary tells the path and the strategy that it was made of, so two fields
share one exactly if they have both in common. Without dots it is a single segment of a path: what
it names is a member of the document itself. -/
theorem temporaries_told_apart :
    (∀ (key other : String) (s t : Strategy),
      Temporary.name key s.tag = Temporary.name other t.tag ↔ key = other ∧ s = t) ∧
    (∀ (field other : String) (spec otherSpec : FieldSpec) (name otherName : String)
      (expr otherExpr : Expr), ofSpec? field spec = some (.temporary name expr) →
      ofSpec? other otherSpec = some (.temporary otherName otherExpr) →
      ∃ s t : Strategy, spec.strategy? = some s ∧ otherSpec.strategy? = some t ∧
        expr = s.expr (spec.storagePath field) spec ∧
        otherExpr = t.expr (otherSpec.storagePath other) otherSpec ∧
        (name = otherName ↔
          spec.storagePath field = otherSpec.storagePath other ∧ s = t)) ∧
    ∀ (key : String) (s : Strategy), Path.Undotted (Temporary.name key s.tag) ∧
      ∀ members : List (String × Value),
        (Value.object members).getPath? (Temporary.name key s.tag) =
          Entries.get? (Temporary.name key s.tag) members ∧
        (∀ v, (Value.object members).setPath? (Temporary.name key s.tag) v =
          some (.object (Entries.set (Temporary.name key s.tag) v members))) ∧
        (Value.object members).erasePath (Temporary.name key s.tag) =
          .object (Entries.erase (Temporary.name key s.tag) members) := by
  have htold : ∀ (key other : String) (s t : Strategy),
      Temporary.name key s.tag = Temporary.name other t.tag ↔ key = other ∧ s = t := by
    intro key other s t
    constructor
    · exact Temporary.name_inj
    · rintro ⟨rfl, rfl⟩
      rfl
  refine ⟨htold, ?_, fun key s => ?_⟩
  · intro field other spec otherSpec name otherName expr otherExpr h h'
    obtain ⟨s, hs, rfl, rfl⟩ := exists_strategy_of_ofSpec? h
    obtain ⟨t, ht, rfl, rfl⟩ := exists_strategy_of_ofSpec? h'
    exact ⟨s, t, hs, ht, rfl, rfl, htold _ _ s t⟩
  · have hdots : Path.Undotted (Temporary.name key s.tag) := Temporary.dot_not_mem_name key s
    exact ⟨hdots, fun members => ⟨Value.getPath?_object hdots members,
      Value.setPath?_object hdots members, Value.erasePath_object hdots members⟩⟩

theorem temporaries_dotted_ne_hyphened :
    ofSpec? "a" ⟨.string, some "x.y", none, none⟩ =
        some (.temporary "x--y__sort_lower" (.lower (.field "x.y"))) ∧
      ofSpec? "b" ⟨.string, some "x--y", none, none⟩ =
        some (.temporary "x-_-_y__sort_lower" (.lower (.field "x--y"))) ∧
      ∃ s t : Strategy, FieldSpec.strategy? ⟨.string, some "x.y", none, none⟩ = some s ∧
        FieldSpec.strategy? ⟨.string, some "x--y", none, none⟩ = some t ∧
        .lower (.field "x.y") = s.expr "x.y" ⟨.string, some "x.y", none, none⟩ ∧
        .lower (.field "x--y") = t.expr "x--y" ⟨.string, some "x--y", none, none⟩ ∧
        ("x--y__sort_lower" = "x-_-_y__sort_lower" ↔ "x.y" = "x--y" ∧ s = t) := by
  have hdotted : ofSpec? "a" ⟨.string, some "x.y", none, none⟩ =
      some (.temporary "x--y__sort_lower" (.lower (.field "x.y"))) := rfl
  have hhyphened : ofSpec? "b" ⟨.string, some "x--y", none, none⟩ =
      some (.temporary "x-_-_y__sort_lower" (.lower (.field "x--y"))) := rfl
  exact ⟨hdotted, hhyphened, temporaries_told_apart.2.1 _ _ _ _ _ _ _ _ hdotted hhyphened⟩

end FieldPlan

structure Draft.Planned (d : Draft) : Prop where
  exists_plan : ∀ a ∈ d.temporaries, ∃ f : PlannedField, f.plan = .temporary a.1 a.2
  nodup : (Entries.names d.temporaries).Nodup

theorem PlannedField.planned_draft (fields : List PlannedField) : (draft fields).Planned where
  exists_plan a ha := by
    obtain ⟨f, -, hplan⟩ := mem_temporaries.1 ha
    exact ⟨f, hplan⟩
  nodup := nodup_temporaries fields

namespace Registry

theorem exists_compile_eq_toPipeline (registry : Registry) (directive : Option String)
    (options : CompileOptions) :
    ∃ d : Draft, d.Planned ∧
      registry.compile directive options = d.toPipeline options.projectPending := by
  by_cases hfalls : registry.FallsBack directive
  · exact ⟨{ keys := options.fallback }, ⟨by simp, .nil⟩, compile_of_fallsBack hfalls _⟩
  · cases directive with
    | none => exact absurd trivial hfalls
    | some text =>
      exact ⟨_, PlannedField.planned_draft _, compile_of_not_fallsBack hfalls options⟩

/-- A field is sorted as it is stored at the path, and another has a temporary of that name. -/
def Clashes (registry : Registry) (directive path : String) : Prop :=
  (∃ r ∈ registry.requests directive, r.plan? = some (.direct path)) ∧
    ∃ r ∈ registry.requests directive, ∃ expr, r.plan? = some (.temporary path expr)

variable {registry : Registry} {directive : String}

theorem mem_requests_of_mem_plannedFields (h : ¬registry.FallsBack (some directive))
    {f : PlannedField} (hf : f ∈ registry.plannedFields directive) :
    f.toRequest ∈ registry.requests directive :=
  map_toRequest_plannedFields h ▸ List.mem_map_of_mem hf

theorem exists_mem_plannedFields (h : ¬registry.FallsBack (some directive)) {r : Request}
    (hr : r ∈ registry.requests directive) :
    ∃ f ∈ registry.plannedFields directive, f.toRequest = r :=
  List.mem_map.1 (map_toRequest_plannedFields h ▸ hr)

theorem clashes_of_mem (h : ¬registry.FallsBack (some directive)) {f g : PlannedField}
    (hf : f ∈ registry.plannedFields directive) (hg : g ∈ registry.plannedFields directive)
    {path : String} {expr : Expr} (hdirect : f.plan = .direct path)
    (htemporary : g.plan = .temporary path expr) : registry.Clashes directive path :=
  ⟨⟨f.toRequest, mem_requests_of_mem_plannedFields h hf, hdirect ▸ f.plan?_eq⟩,
    ⟨g.toRequest, mem_requests_of_mem_plannedFields h hg, expr, htemporary ▸ g.plan?_eq⟩⟩

/-- Every requested field has its sort path among the keys. A path sorted as it is stored is not
written to. A temporary is written once, as the first field of its stored path and strategy has
it, and two fields differ on that only in the replacements of dates. -/
theorem sortKeys_honour_requests (registry : Registry) (directive : String)
    (options : CompileOptions) (h : ¬registry.FallsBack (some directive)) {t : Token}
    (ht : t ∈ Directive.tokens directive) {spec : FieldSpec}
    (hspec : registry.get? t.name = some spec) :
    let compiled := registry.compile (some directive) options
    let assignments := compiled.assignments?.getD []
    ∃ plan keys, FieldPlan.ofSpec? t.name spec = some plan ∧ compiled.sortKeys? = some keys ∧
      keys.contains plan.sortPath ∧
      (¬registry.Clashes directive plan.sortPath →
        (∀ path, plan = .direct path → path ∉ Entries.names assignments) ∧
        ∀ name expr, plan = .temporary name expr →
          ∃ first firstExpr,
            (registry.requests directive).find? (·.SharesTemporary ⟨t, spec⟩) = some first ∧
            first.plan? = some (.temporary name firstExpr) ∧
            assignments.filter (·.1 = name) = [(name, firstExpr)] ∧
            (firstExpr = expr ↔ (spec.kind = .date →
              first.spec.replacementKey? = spec.replacementKey? ∧
                first.spec.replacementValue? = spec.replacementValue?))) := by
  obtain ⟨f, hf, hrequest⟩ :=
    exists_mem_plannedFields h (r := ⟨t, spec⟩) (mem_requests.2 ⟨ht, hspec⟩)
  obtain ⟨rfl, rfl⟩ : f.token = t ∧ f.spec = spec := Request.mk.inj hrequest
  intro compiled assignments
  have hkeys : compiled.sortKeys? =
      some (PlannedField.sortKeys (registry.plannedFields directive)) := by
    rw [← PlannedField.sortKeys?_draft _ options.projectPending, ← compile_of_not_fallsBack h]
  have hassignments : assignments =
      PlannedField.temporaries (registry.plannedFields directive) := by
    rw [← PlannedField.assignments?_draft _ options.projectPending, ← compile_of_not_fallsBack h]
  have hpath : f.sortPath ∈ PlannedField.sortPaths (registry.plannedFields directive) :=
    PlannedField.mem_sortPaths.2 ⟨f, hf, rfl⟩
  refine ⟨f.plan, _, f.plan?_eq, hkeys, PlannedField.contains_sortKeys.2 hpath, fun hclash => ?_⟩
  constructor
  · intro path hplan hwritten
    obtain ⟨⟨name, expr⟩, hassigned, rfl⟩ := List.mem_map.1 (hassignments ▸ hwritten)
    obtain ⟨g, hfirst, hgplan⟩ := PlannedField.mem_temporaries.1 hassigned
    rw [hplan] at hclash
    exact hclash (clashes_of_mem h hf (List.mem_of_find?_eq_some hfirst) hplan hgplan)
  · intro name expr hplan
    have hdirect : ∀ g ∈ registry.plannedFields directive, g.plan ≠ .direct name := by
      rw [hplan] at hclash
      exact fun g hg hdirect => hclash (clashes_of_mem h hg hf hdirect hplan)
    obtain ⟨g, firstExpr, hfirst, hgplan, hshares⟩ :=
      PlannedField.exists_first_temporary hf hplan hdirect
    refine ⟨g.toRequest, firstExpr, ?_, hgplan ▸ g.plan?_eq, ?_,
      PlannedField.expr_eq_iff_of_sharesTemporary hshares hplan hgplan⟩
    · rw [PlannedField.first?_eq_find?_sharesTemporary hplan hdirect] at hfirst
      rw [← map_toRequest_plannedFields h, List.find?_map]
      exact congrArg (Option.map (·.toRequest)) hfirst
    · rw [hassignments]
      exact Entries.filter_eq_singleton (PlannedField.nodup_temporaries _)
        (PlannedField.mem_temporaries.2 ⟨g, hfirst, hgplan⟩)

def twoReplacements : Registry where
  fields :=
    [("created", ⟨.date, some "at", some "x", none⟩),
      ("updated", ⟨.date, some "at", some "y", none⟩)]
  sorted := by decide

theorem twoReplacements_honours_first :
    ¬twoReplacements.FallsBack (some "created,updated") ∧
      ¬twoReplacements.Clashes "created,updated" "at__sort_coalesce" ∧
      ((twoReplacements.compile (some "created,updated") {}).assignments?.getD []).filter
        (·.1 = "at__sort_coalesce") =
          [("at__sort_coalesce", .coalesce [.field "at", .field "x"])] := by
  have hfalls : ¬twoReplacements.FallsBack (some "created,updated") := by decide
  have hrequests : twoReplacements.requests "created,updated" =
      [⟨⟨"created", false⟩, ⟨.date, some "at", some "x", none⟩⟩,
        ⟨⟨"updated", false⟩, ⟨.date, some "at", some "y", none⟩⟩] := rfl
  have hclash : ¬twoReplacements.Clashes "created,updated" "at__sort_coalesce" := by
    rintro ⟨⟨r, hr, hdirect⟩, -⟩
    simp only [hrequests, List.mem_cons, List.not_mem_nil, or_false] at hr
    rcases hr with rfl | rfl <;> cases hdirect
  obtain ⟨plan, keys, hplan, -, -, hhonoured⟩ :=
    sortKeys_honour_requests twoReplacements "created,updated" {} hfalls
      (show Token.mk "updated" false ∈ Directive.tokens "created,updated" by decide)
      (show twoReplacements.get? "updated" = some ⟨.date, some "at", some "y", none⟩ from rfl)
  cases hplan
  obtain ⟨first, firstExpr, hfirst, hplan, hset, -⟩ := (hhonoured hclash).2 _ _ rfl
  cases hfirst
  cases hplan
  exact ⟨hfalls, hclash, hset⟩

theorem not_every_expr_assigned :
    ¬∀ (registry : Registry) (directive : String) (options : CompileOptions),
      ¬registry.FallsBack (some directive) →
      ∀ t ∈ Directive.tokens directive, ∀ spec, registry.get? t.name = some spec →
      ∀ name expr, FieldPlan.ofSpec? t.name spec = some (.temporary name expr) →
        (name, expr) ∈ (registry.compile (some directive) options).assignments?.getD [] := by
  intro h
  have hset : (twoReplacements.compile (some "created,updated") {}).assignments?.getD [] =
      [("at__sort_coalesce", .coalesce [.field "at", .field "x"])] := rfl
  have hassigned := h twoReplacements "created,updated" {} (by decide) ⟨"updated", false⟩
    (by decide) ⟨.date, some "at", some "y", none⟩ rfl "at__sort_coalesce"
    (.coalesce [.field "at", .field "y"]) rfl
  rw [hset] at hassigned
  simp at hassigned

end Registry

end SortPipeline
