import SortPipeline.Proofs.DocumentByDocument
import SortPipeline.Proofs.OriginalValues
import SortPipeline.Proofs.Sorting

namespace SortPipeline

def Value.FreeOf (names : List String) (v : Value) : Prop :=
  ∃ members, v = .object members ∧ ∀ n ∈ names, n ∉ Entries.names members

theorem Value.FreeOf.mono {names more : List String} {v : Value} (h : v.FreeOf more)
    (hsub : names ⊆ more) : v.FreeOf names := by
  obtain ⟨members, rfl, hfree⟩ := h
  exact ⟨members, rfl, fun n hn => hfree n (hsub hn)⟩

theorem Draft.run_toPipeline (d : Draft) (projectPending : Bool) (documents : List Value) :
    (d.toPipeline projectPending).run documents =
      (documents.mapM (Stage.assign d.temporaries)).map fun decorated =>
        let sorted := StableSort.sort (fun a b => d.keys.compare a b == .lt) decorated
        if projectPending then sorted
        else sorted.map (Stage.drop (Entries.names d.temporaries)) := by
  unfold toPipeline
  split
  · next hempty =>
    have hkept : documents.mapM (Stage.assign []) = .ok documents :=
      mapM_eq_ok_iff.2 (List.forall₂_same.2 fun _ _ => rfl)
    have hdrop : Stage.drop [] = id := rfl
    simp only [List.isEmpty_iff.1 hempty, hkept, Entries.names_nil, hdrop, List.map_id, ite_self]
    rfl
  · have hdrop : ∀ ds, Stage.run ds (.unset (Entries.names d.temporaries)) =
        .ok (ds.map (Stage.drop (Entries.names d.temporaries))) := fun ds => List.mapM_pure
    have hset : Stage.run documents (.set d.temporaries) =
        documents.mapM (Stage.assign d.temporaries) := rfl
    simp only [Pipeline.run, List.cons_append, List.nil_append, List.foldlM_cons, hset]
    cases projectPending with
    | true => cases documents.mapM (Stage.assign d.temporaries) <;> rfl
    | false =>
      simp only [Bool.false_eq_true, if_false, List.foldlM_cons, List.foldlM_nil, hdrop]
      cases documents.mapM (Stage.assign d.temporaries) <;> rfl

theorem Draft.Planned.undotted {d : Draft} (h : d.Planned) {name : String}
    (hname : name ∈ Entries.names d.temporaries) : Path.Undotted name := by
  obtain ⟨a, ha, rfl⟩ := List.mem_map.1 hname
  obtain ⟨f, hplan⟩ := h.exists_plan a ha
  obtain ⟨s, -, hname, -⟩ := PlannedField.plan_eq_temporary_iff.1 hplan
  exact hname ▸ Temporary.dot_not_mem_name f.storagePath s

namespace PlannedField

theorem get?_temporaries {fields : List PlannedField} {f : PlannedField} {name : String}
    {expr : Expr} (hfirst : first? name fields = some f) (hplan : f.plan = .temporary name expr) :
    Entries.get? name (temporaries fields) = some expr :=
  Entries.get?_of_mem (nodup_temporaries fields) (mem_temporaries.2 ⟨f, hfirst, hplan⟩)

theorem undotted_of_mem_temporaries {fields : List PlannedField} {name : String}
    (h : name ∈ Entries.names (temporaries fields)) : Path.Undotted name :=
  (planned_draft fields).undotted h

/-- No path that is sorted by as it is stored leads through one of the members. -/
def Avoids (names : List String) (fields : List PlannedField) : Prop :=
  ∀ path f, first? path fields = some f → f.plan = .direct path →
    ∀ s ∈ (Path.segments path).head?, s ∉ names

variable {fields : List PlannedField} {a b decorated decorated' : Value}

theorem getPath?_decorated (hpaths : Avoids (Entries.names (temporaries fields)) fields)
    (h : Stage.Decorates (temporaries fields) a decorated) {path : String}
    (hpath : path ∈ sortPaths fields) :
    decorated.getPath? path = sortValueAt fields path a := by
  obtain ⟨f, hfirst⟩ := Option.isSome_iff_exists.1 (isSome_first?_iff.2 hpath)
  have hsort := sortPath_of_first? hfirst
  rw [sortValueAt, hfirst, Option.bind_some]
  cases hplan : f.plan with
  | direct stored =>
    obtain rfl : stored = path := by simpa [sortPath, hplan] using hsort
    have hhead := hpaths stored f hfirst hplan
    rw [h.getPath?_eq hhead, getPath?_eq_sortValue hplan]
  | temporary name expr =>
    obtain rfl : name = path := by simpa [sortPath, hplan] using hsort
    exact evaluate_eq_sortValue hplan (h.evaluate_eq (get?_temporaries hfirst hplan))

theorem compare_decorated (hpaths : Avoids (Entries.names (temporaries fields)) fields)
    (ha : Stage.Decorates (temporaries fields) a decorated)
    (hb : Stage.Decorates (temporaries fields) b decorated') :
    (sortKeys fields).compare decorated decorated' = compareOriginals fields a b := by
  have hall : ∀ paths ⊆ sortPaths fields,
      Value.compareBy (paths.map fun path => (path, lastDirection path fields)) decorated
          decorated' =
        paths.foldr (fun path rest =>
          ((lastDirection path fields).apply
            (Value.compare? (sortValueAt fields path a) (sortValueAt fields path b))).then rest)
          .eq := by
    intro paths hsub
    induction paths with
    | nil => rfl
    | cons path rest ih =>
      obtain ⟨hpath, hrest⟩ := List.cons_subset.1 hsub
      rw [List.map_cons, Value.compareBy, List.foldr_cons, getPath?_decorated hpaths ha hpath,
        getPath?_decorated hpaths hb hpath, ih hrest]
  exact hall _ (List.Subset.refl _)

theorem decorates_of_freeOf {d decorated : Value}
    (hd : d.FreeOf (Entries.names (temporaries fields)))
    (h : Stage.assign (temporaries fields) d = .ok decorated) :
    Stage.Decorates (temporaries fields) d decorated := by
  obtain ⟨members, rfl, hfree⟩ := hd
  exact Stage.decorates_of_assign (nodup_temporaries fields)
    (fun n hn => ⟨undotted_of_mem_temporaries hn, hfree n hn⟩) h

theorem forall₂_decorates {documents decorated : List Value}
    (hdocuments : ∀ d ∈ documents, d.FreeOf (Entries.names (temporaries fields)))
    (h : List.Forall₂ (fun d d' => Stage.assign (temporaries fields) d = .ok d')
      documents decorated) :
    List.Forall₂ (Stage.Decorates (temporaries fields)) documents decorated :=
  ((List.forall₂_and_left _ _).2 ⟨hdocuments, h⟩).imp fun _ _ hd => decorates_of_freeOf hd.1 hd.2

def Computable (fields : List PlannedField) (document : Value) : Prop :=
  ∀ a ∈ temporaries fields, ∃ value, a.2.evaluate a.1 document = .ok value

theorem exists_assign_iff {d : Value} (hd : d.FreeOf (Entries.names (temporaries fields))) :
    (∃ decorated, Stage.assign (temporaries fields) d = .ok decorated) ↔ Computable fields d := by
  obtain ⟨members, rfl, -⟩ := hd
  exact Stage.exists_assign_iff fun n => undotted_of_mem_temporaries

theorem map_drop_sort {documents decorated : List Value}
    (hpaths : Avoids (Entries.names (temporaries fields)) fields)
    (h : List.Forall₂ (Stage.Decorates (temporaries fields)) documents decorated) :
    (StableSort.sort (fun a b => (sortKeys fields).compare a b == .lt) decorated).map
        (Stage.drop (Entries.names (temporaries fields))) =
      StableSort.sortBy (compareOriginals fields) documents := by
  apply StableSort.map_sort_eq _ h
  · exact fun _ _ hd => hd.drop_eq
  · intro a a' b b' ha hb
    rw [compare_decorated hpaths ha hb]

theorem run_draft_eq_ok_iff {documents out : List Value}
    (hdocuments : ∀ d ∈ documents, d.FreeOf (Entries.names (temporaries fields)))
    (hpaths : Avoids (Entries.names (temporaries fields)) fields) :
    ((draft fields).toPipeline false).run documents = .ok out ↔
      (∀ d ∈ documents, Computable fields d) ∧
        StableSort.sortBy (compareOriginals fields) documents = out := by
  have hassigned : (∃ decorated, documents.mapM (Stage.assign (temporaries fields)) =
      .ok decorated) ↔ ∀ d ∈ documents, Computable fields d :=
    exists_mapM_eq_ok_iff.trans (forall₂_congr fun d hd => exists_assign_iff (hdocuments d hd))
  rw [← hassigned, Draft.run_toPipeline, draft]
  cases hmap : documents.mapM (Stage.assign (temporaries fields)) with
  | error fault => simp [Except.map]
  | ok decorated =>
    have hdecorates := forall₂_decorates hdocuments (mapM_eq_ok_iff.1 hmap)
    simp [Except.map, map_drop_sort hpaths hdecorates]

end PlannedField

def Pipeline.assignedNames (p : Pipeline) : List String := Entries.names (p.assignments?.getD [])

theorem Registry.assignedNames_of_not_fallsBack {registry : Registry} {directive : String}
    (h : ¬registry.FallsBack (some directive)) (options : CompileOptions) :
    (registry.compile (some directive) options).assignedNames =
      Entries.names (PlannedField.temporaries (registry.plannedFields directive)) := by
  rw [Pipeline.assignedNames, compile_of_not_fallsBack h, PlannedField.assignments?_draft]

theorem Registry.avoids_plannedFields {registry : Registry} {directive : String}
    {names : List String} (h : ¬registry.FallsBack (some directive))
    (hpaths : ∀ r ∈ registry.requests directive, ∀ path, r.plan? = some (.direct path) →
      ∀ s ∈ (Path.segments path).head?, s ∉ names) :
    PlannedField.Avoids names (registry.plannedFields directive) := by
  intro path f hfirst hplan
  have hr := mem_requests_of_mem_plannedFields h (List.mem_of_find?_eq_some hfirst)
  exact hpaths _ hr path (hplan ▸ f.plan?_eq)

/-- The temporaries are neither seen by the sort of anything else nor left in the documents: a run
sorts the documents as they are, by the values they have as they are. Where these are totally
preordered, the documents ascend by them and those that tie keep the order of their places. -/
theorem Registry.run_eq_sort_originals (registry : Registry) (directive : String)
    (options : CompileOptions) (hpending : options.projectPending = false)
    (h : ¬registry.FallsBack (some directive)) {documents out : List Value}
    (hdocuments : ∀ d ∈ documents,
      d.FreeOf (registry.compile (some directive) options).assignedNames)
    (hpaths : PlannedField.Avoids (registry.compile (some directive) options).assignedNames
      (registry.plannedFields directive))
    (hrun : (registry.compile (some directive) options).run documents = .ok out) :
    let fields := registry.plannedFields directive
    let cmp := PlannedField.compareOriginals fields
    out = StableSort.sort (fun a b => cmp a b == .lt) documents ∧
    out.Perm documents ∧
    ((∀ d ∈ documents, PlannedField.Comparable fields d) →
      Std.TransCmp fun a b : { d // d ∈ documents } => cmp a.1 b.1) ∧
    ((Std.TransCmp fun a b : { d // d ∈ documents } => cmp a.1 b.1) →
      (out.Pairwise fun a b => cmp a b ≠ .gt) ∧
      ∃ placed : List (Value × Nat), placed.map (·.1) = out ∧ placed.Perm documents.zipIdx ∧
        placed.Pairwise fun x y => cmp x.1 y.1 = .eq → x.2 < y.2) := by
  intro fields cmp
  rw [assignedNames_of_not_fallsBack h] at hdocuments hpaths
  rw [compile_of_not_fallsBack h, hpending] at hrun
  obtain ⟨-, rfl⟩ := (PlannedField.run_draft_eq_ok_iff hdocuments hpaths).1 hrun
  refine ⟨rfl, StableSort.sort_perm _ _, ?_, ?_⟩
  · exact fun hcomparable => PlannedField.transCmp_compareOriginals hcomparable
  · exact fun hlawful => StableSort.stable_sortBy hlawful fun _ hd => hd

def shelf : Registry where
  fields := [("title", ⟨.string, none, none, none⟩), ("year", ⟨.number, none, none, none⟩)]
  sorted := by decide

def shelved : List Value :=
  [.object [("title", .string "Emma"), ("year", .number (.int 1815))],
    .object [("year", .number (.int 1871))],
    .object [("title", .string "emma"), ("year", .number (.int 1816))],
    .object [("year", .number (.int 1816)), ("title", .string "EMMA")]]

theorem shelf_run_eq_sort :
    let cmp := PlannedField.compareOriginals (shelf.plannedFields "title,-year")
    ∃ out, (shelf.compile (some "title,-year") {}).run shelved = .ok out ∧
      out = [.object [("year", .number (.int 1871))],
        .object [("title", .string "emma"), ("year", .number (.int 1816))],
        .object [("year", .number (.int 1816)), ("title", .string "EMMA")],
        .object [("title", .string "Emma"), ("year", .number (.int 1815))]] ∧
      out = StableSort.sort (fun a b => cmp a b == .lt) shelved ∧
      out.Perm shelved ∧
      (out.Pairwise fun a b => cmp a b ≠ .gt) ∧
      ∃ placed : List (Value × Nat), placed.map (·.1) = out ∧ placed.Perm shelved.zipIdx ∧
        placed.Pairwise fun x y => cmp x.1 y.1 = .eq → x.2 < y.2 := by
  intro cmp
  have hfalls : ¬shelf.FallsBack (some "title,-year") := by decide
  have hnames : (shelf.compile (some "title,-year") {}).assignedNames = ["title__sort_lower"] := rfl
  have hrequests : shelf.requests "title,-year" =
      [⟨⟨"title", false⟩, ⟨.string, none, none, none⟩⟩,
        ⟨⟨"year", true⟩, ⟨.number, none, none, none⟩⟩] := rfl
  have hdocuments : ∀ d ∈ shelved,
      d.FreeOf (shelf.compile (some "title,-year") {}).assignedNames := by
    rw [hnames]
    intro d hd
    simp only [shelved, List.mem_cons, List.not_mem_nil, or_false] at hd
    rcases hd with rfl | rfl | rfl | rfl <;> exact ⟨_, rfl, by decide⟩
  have hpaths : PlannedField.Avoids (shelf.compile (some "title,-year") {}).assignedNames
      (shelf.plannedFields "title,-year") := by
    apply Registry.avoids_plannedFields hfalls
    intro r hr path hplan
    simp only [hrequests, List.mem_cons, List.not_mem_nil, or_false] at hr
    rcases hr with rfl | rfl <;> cases hplan
    decide
  have hcomparable : ∀ d ∈ shelved,
      PlannedField.Comparable (shelf.plannedFields "title,-year") d := by
    have hintegral : ∀ d ∈ shelved, d.Integral := by decide
    have hkept : ∀ r ∈ shelf.requests "title,-year",
        r.spec.replacementValue? = none ∧ r.spec.kind ≠ .array := by
      rw [hrequests]
      decide
    intro d hd
    apply Registry.comparable_plannedFields hfalls (hintegral d hd)
    · intro r hr v hv
      cases (hkept r hr).1.symm.trans hv
    · exact fun r hr hkind => absurd hkind (hkept r hr).2
  have hplaces : StableSort.placesBy cmp shelved = [1, 2, 3, 0] := by decide +kernel
  have hok : ((shelf.compile (some "title,-year") {}).run shelved).isOk := by decide +kernel
  obtain ⟨out, hrun⟩ := exists_eq_ok_of_isOk hok
  obtain ⟨hsort, hperm, hlawful, hstable⟩ := Registry.run_eq_sort_originals shelf "title,-year" {}
    rfl hfalls hdocuments hpaths hrun
  refine ⟨out, hrun, ?_, hsort, hperm, hstable (hlawful hcomparable)⟩
  apply List.map_injective_iff.2 fun _ _ => Option.some.inj
  calc
    out.map some = (StableSort.placesBy cmp shelved).map (shelved[·]?) := by
      rw [hsort]
      exact (StableSort.map_getElem?_placesBy cmp shelved).symm
    _ = _ := by rw [hplaces]; rfl

end SortPipeline
