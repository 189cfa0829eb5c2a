import SortPipeline.Proofs.OriginalOrder

namespace SortPipeline

namespace Stage

variable {names : List String} (hdots : ∀ n ∈ names, Path.Undotted n)

include hdots

theorem drop_object {members : List (String × Value)} (hnodup : (Entries.names members).Nodup) :
    ∃ rest, drop names (.object members) = .object rest ∧
      rest.Perm (Entries.without names members) :=
  exists_drop_append [] (fun n hn => ⟨hdots n hn, List.not_mem_nil⟩) hnodup

theorem writeAll_keeps {members : List (String × Value)} {writes : List (String × Option Value)}
    {result : Value} (hwrites : Entries.names writes ⊆ names)
    (h : writeAll (.object members) writes = .ok result) :
    ∃ written, result = .object written ∧
      ((Entries.names members).Nodup → (Entries.names written).Nodup) ∧
      Entries.without names written = Entries.without names members := by
  induction writes generalizing members with
  | nil =>
    cases h
    exact ⟨members, rfl, id, rfl⟩
  | cons w rest ih =>
    obtain ⟨n, value⟩ := w
    obtain ⟨hmem, hrest⟩ := List.cons_subset.1 hwrites
    cases value with
    | none => exact ih hrest h
    | some v =>
      rw [writeAll, Value.setPath?_object (hdots n hmem)] at h
      obtain ⟨written, hresult, hunique, hkept⟩ := ih hrest h
      exact ⟨written, hresult, fun hnodup => hunique (Entries.nodup_names_set n v hnodup),
        hkept.trans (Entries.without_set hmem v members)⟩

end Stage

namespace Value

def IsDocument (v : Value) : Prop :=
  ∃ members, v = .object members ∧ (Entries.names members).Nodup

def SameMembers (document result : Value) : Prop :=
  ∃ members rest, document = .object members ∧ result = .object rest ∧ rest.Perm members

/-- The members of other names are all that is left. Where they were all there was, even their
order is. -/
def LosesOnly (names : List String) (document result : Value) : Prop :=
  ∃ members rest, document = .object members ∧ result = .object rest ∧
    rest.Perm (Entries.without names members) ∧
    ((∀ n ∈ names, n ∉ Entries.names members) → rest = members)

end Value

theorem Stage.losesOnly_of_assign {assignments : List (String × Expr)} {document decorated : Value}
    (hdots : ∀ n ∈ Entries.names assignments, Path.Undotted n)
    (hnodup : (Entries.names assignments).Nodup) (hdocument : document.IsDocument)
    (h : assign assignments document = .ok decorated) :
    document.LosesOnly (Entries.names assignments)
      (drop (Entries.names assignments) decorated) := by
  obtain ⟨members, rfl, hmembers⟩ := hdocument
  obtain ⟨writes, hwrites, hwritten⟩ := assign_eq_ok_iff.1 h
  obtain ⟨written, rfl, hunique, hkept⟩ :=
    writeAll_keeps hdots (fun _ hn => names_of_evaluateAll hwrites ▸ hn) hwritten
  obtain ⟨rest, hdrop, hrest⟩ := drop_object hdots (hunique hmembers)
  refine ⟨members, rest, rfl, hdrop, hkept ▸ hrest, fun hfresh => ?_⟩
  have hback := (decorates_of_assign hnodup (fun n hn => ⟨hdots n hn, hfresh n hn⟩) h).drop_eq
  exact Value.object.inj (hdrop.symm.trans hback)

def Draft.finish (d : Draft) (projectPending : Bool) (decorated : Value) : Value :=
  if projectPending then decorated else Stage.drop (Entries.names d.temporaries) decorated

theorem Draft.applyTo_toPipeline (d : Draft) (projectPending : Bool) (document : Value) :
    (d.toPipeline projectPending).applyTo document =
      (Stage.assign d.temporaries document).map (d.finish projectPending) := by
  unfold Draft.toPipeline
  split
  · next hempty =>
    unfold finish
    rw [List.isEmpty_iff.1 hempty]
    cases projectPending <;> rfl
  · cases hassign : Stage.assign d.temporaries document with
    | error fault => simp [Pipeline.applyTo, Stage.applyTo, hassign, bind, Except.bind, Except.map]
    | ok decorated =>
      cases projectPending <;>
        simp [Pipeline.applyTo, Stage.applyTo, hassign, bind, Except.bind, Except.map, pure,
          Except.pure, finish]

namespace Registry

theorem losesOnly_of_applyTo {registry : Registry} {directive : Option String}
    {options : CompileOptions} (hpending : options.projectPending = false)
    {document result : Value} (hdocument : document.IsDocument)
    (h : (registry.compile directive options).applyTo document = .ok result) :
    document.LosesOnly (registry.compile directive options).assignedNames result := by
  obtain ⟨d, hplanned, hcompile⟩ := registry.exists_compile_eq_toPipeline directive options
  rw [hcompile, hpending, Draft.applyTo_toPipeline] at h
  rw [Pipeline.assignedNames, hcompile, Draft.assignments?_toPipeline]
  cases hassign : Stage.assign d.temporaries document with
  | error fault => simp [hassign, Except.map] at h
  | ok decorated =>
    simp only [hassign, Except.map, Draft.finish, Bool.false_eq_true, if_false] at h
    cases h
    exact Stage.losesOnly_of_assign (fun n => hplanned.undotted) hplanned.nodup hdocument hassign

/-- A run gives back every document once, without what it had under names of temporaries and
otherwise as it was. -/
theorem run_loses_only_assigned (registry : Registry) (directive : Option String)
    (options : CompileOptions) (hpending : options.projectPending = false)
    {documents out : List Value} (hdocuments : ∀ d ∈ documents, d.IsDocument)
    (hrun : (registry.compile directive options).run documents = .ok out) :
    ∃ sorted, sorted.Perm documents ∧
      List.Forall₂ (Value.LosesOnly (registry.compile directive options).assignedNames)
        sorted out := by
  obtain ⟨results, hresults, hperm⟩ := Pipeline.run_perm hrun
  have hloses : List.Forall₂
      (Value.LosesOnly (registry.compile directive options).assignedNames) documents results := by
    refine List.Forall₂.imp ?_ ((List.forall₂_and_left _ _).2 ⟨hdocuments, hresults⟩)
    rintro d r ⟨hd, hr⟩
    exact losesOnly_of_applyTo hpending hd hr
  have hcomp : Relation.Comp List.Perm (List.Forall₂ (Value.LosesOnly
      (registry.compile directive options).assignedNames)) documents out := by
    rw [← List.forall₂_comp_perm_eq_perm_comp_forall₂]
    exact ⟨results, hloses, hperm⟩
  obtain ⟨sorted, hsorted, hout⟩ := hcomp
  exact ⟨sorted, hsorted.symm, hout⟩

def tagged : Registry where
  fields := [("tags", ⟨.array, none, none, none⟩)]
  sorted := by decide

def taggedDocuments : List Value :=
  [.object [("tags__sort_size", .null), ("tags", .array [.null]), ("id", .string "a")],
    .object [("tags", .array []), ("id", .string "b")]]

theorem tagged_run_loses_only_assigned : ∃ out,
    (tagged.compile (some "tags") {}).run taggedDocuments = .ok out ∧
    ∃ sorted, sorted.Perm taggedDocuments ∧
      List.Forall₂ (Value.LosesOnly ["tags__sort_size"]) sorted out := by
  have hdocuments : ∀ d ∈ taggedDocuments, d.IsDocument := by
    intro d hd
    simp only [taggedDocuments, List.mem_cons, List.not_mem_nil, or_false] at hd
    rcases hd with rfl | rfl <;> exact ⟨_, rfl, by decide⟩
  have hok : ((tagged.compile (some "tags") {}).run taggedDocuments).isOk := by decide +kernel
  obtain ⟨out, hrun⟩ := exists_eq_ok_of_isOk hok
  exact ⟨out, hrun, run_loses_only_assigned tagged (some "tags") {} rfl hdocuments hrun⟩

theorem not_every_member_kept :
    ¬∀ (registry : Registry) (directive : Option String) (options : CompileOptions),
      options.projectPending = false → ∀ documents out : List Value,
      (∀ d ∈ documents, d.IsDocument) →
      (registry.compile directive options).run documents = .ok out →
      ∃ sorted, sorted.Perm documents ∧ List.Forall₂ Value.SameMembers sorted out := by
  intro h
  obtain ⟨sorted, hsorted, hsame⟩ := h tagged (some "tags") {} rfl
    [.object [("tags__sort_size", .null), ("tags", .array [])]] [.object [("tags", .array [])]]
    (List.forall_mem_singleton.2 ⟨_, rfl, by decide⟩) rfl
  obtain rfl := List.perm_singleton.1 hsorted
  cases hsame with
  | cons hmembers _ =>
    obtain ⟨members, rest, hdocument, hresult, hperm⟩ := hmembers
    cases hdocument
    cases hresult
    exact absurd hperm.length_eq (by decide)

end Registry

end SortPipeline
