import SortPipeline.Proofs.KeptMembers
import SortPipeline.Proofs.LetterCase
import SortPipeline.Proofs.SuccessiveSorts
import SortPipeline.Proofs.Writing

/-! Batches between which a directive sees no difference. Where each of its plans comes to the same
in a document as in the one that stands for it, both batches run through or neither does, and their
documents come out in the same order. Among the differences that no plan sees is the case of ASCII
letters in a text, if nothing but the lower case of the text is read. -/

namespace SortPipeline

namespace Expr

mutual

def reads : Expr → List String
  | .field path => [path]
  | .literal _ => []
  | .lower inner | .size inner => inner.reads
  | .coalesce candidates => readsAll candidates

def readsAll : List Expr → List String
  | [] => []
  | e :: es => e.reads ++ readsAll es

end

section

variable {target : String} {document other : Value}

mutual

theorem evaluate_congr {e : Expr}
    (h : ∀ path ∈ e.reads, document.getPath? path = other.getPath? path) :
    e.evaluate target document = e.evaluate target other := by
  match e with
  | .field path => rw [evaluate, evaluate, h path (List.mem_singleton.2 rfl)]
  | .literal value => rfl
  | .lower inner => rw [evaluate, evaluate, evaluate_congr (e := inner) h]
  | .size inner => rw [evaluate, evaluate, evaluate_congr (e := inner) h]
  | .coalesce candidates => rw [evaluate, evaluate, evaluateFirst_congr h]

theorem evaluateFirst_congr {es : List Expr}
    (h : ∀ path ∈ readsAll es, document.getPath? path = other.getPath? path) :
    evaluateFirst target document es = evaluateFirst target other es := by
  match es with
  | [] => rfl
  | e :: rest =>
    rw [readsAll, List.forall_mem_append] at h
    rw [evaluateFirst, evaluateFirst, evaluate_congr h.1, evaluateFirst_congr h.2]

end

end

end Expr

namespace FieldPlan

def reads : FieldPlan → List String
  | .direct path => [path]
  | .temporary _ expr => expr.reads

def FindsSame (document other : Value) : FieldPlan → Prop
  | .direct path => document.getPath? path = other.getPath? path
  | .temporary name expr => expr.evaluate name document = expr.evaluate name other

theorem findsSame_of_reads {plan : FieldPlan} {document other : Value}
    (h : ∀ path ∈ plan.reads, document.getPath? path = other.getPath? path) :
    plan.FindsSame document other := by
  cases plan with
  | direct path => exact h path (List.mem_singleton.2 rfl)
  | temporary name expr => exact Expr.evaluate_congr h

end FieldPlan

def Pipeline.Arranges (p : Pipeline) (places : List Nat) (documents out : List Value) : Prop :=
  places.Perm (List.range documents.length) ∧
    ∃ results, documents.mapM p.applyTo = .ok results ∧ out.map some = places.map (results[·]?)

theorem Draft.run_eq_map_finish (d : Draft) (projectPending : Bool) (documents : List Value) :
    (d.toPipeline projectPending).run documents =
      (documents.mapM (Stage.assign d.temporaries)).map fun decorated =>
        (StableSort.sortBy d.keys.compare decorated).map (d.finish projectPending) := by
  rw [run_toPipeline]
  unfold finish
  cases projectPending <;> simp [StableSort.sortBy]

theorem Draft.exists_arranges {d : Draft} {projectPending : Bool} {documents out : List Value}
    (h : (d.toPipeline projectPending).run documents = .ok out) :
    ∃ decorated, List.Forall₂ (fun v v' => Stage.assign d.temporaries v = .ok v')
        documents decorated ∧
      (d.toPipeline projectPending).Arranges (StableSort.placesBy d.keys.compare decorated)
        documents out := by
  rw [run_eq_map_finish] at h
  cases hassign : documents.mapM (Stage.assign d.temporaries) with
  | error fault => simp [hassign, Except.map] at h
  | ok decorated =>
    have hdecorated := mapM_eq_ok_iff.1 hassign
    rw [hassign] at h
    cases h
    refine ⟨decorated, hdecorated, ?_, decorated.map (d.finish projectPending), ?_, ?_⟩
    · rw [hdecorated.length_eq]
      exact StableSort.placesBy_perm _ _
    · rw [mapM_eq_ok_iff, List.forall₂_map_right_iff]
      refine hdecorated.imp fun v v' hv => ?_
      rw [applyTo_toPipeline, hv]
      rfl
    · calc
        ((StableSort.sortBy d.keys.compare decorated).map (d.finish projectPending)).map some =
            ((StableSort.sortBy d.keys.compare decorated).map some).map
              (Option.map (d.finish projectPending)) := by
          rw [List.map_map, List.map_map]
          rfl
        _ = (StableSort.placesBy d.keys.compare decorated).map
              ((decorated.map (d.finish projectPending))[·]?) := by
          rw [← StableSort.map_getElem?_placesBy, List.map_map]
          exact List.map_congr_left fun i _ => List.getElem?_map.symm

namespace PlannedField

variable {fields : List PlannedField}

theorem sortValue_congr {f : PlannedField} {document other : Value}
    (h : f.plan.FindsSame document other)
    (hcomputed : ∀ a ∈ f.assignment?, ∃ value, a.2.evaluate a.1 document = .ok value) :
    f.sortValue document = f.sortValue other := by
  cases hplan : f.plan with
  | direct path =>
    rw [hplan] at h
    rw [← getPath?_eq_sortValue hplan, ← getPath?_eq_sortValue hplan, h]
  | temporary name expr =>
    rw [hplan] at h
    obtain ⟨value, hvalue⟩ := hcomputed (name, expr) (assignment?_eq_some_iff.2 hplan)
    rw [← evaluate_eq_sortValue hplan hvalue, ← evaluate_eq_sortValue hplan (h.symm.trans hvalue)]

theorem sortValueAt_congr {document other : Value}
    (h : ∀ f ∈ fields, f.plan.FindsSame document other) (hcomputed : Computable fields document)
    (path : String) : sortValueAt fields path document = sortValueAt fields path other := by
  rw [sortValueAt, sortValueAt]
  cases hfirst : first? path fields with
  | none => rfl
  | some f =>
    have hwritten : ∀ a ∈ f.assignment?, a ∈ temporaries fields := fun a ha =>
      List.mem_filterMap.2 ⟨path, isSome_first?_iff.1 (by simp [hfirst]), by rwa [hfirst]⟩
    exact sortValue_congr (h f (List.mem_of_find?_eq_some hfirst)) fun a ha =>
      hcomputed a (hwritten a ha)

theorem compareOriginals_congr {a a' b b' : Value}
    (ha : ∀ path, sortValueAt fields path a = sortValueAt fields path a')
    (hb : ∀ path, sortValueAt fields path b = sortValueAt fields path b') :
    compareOriginals fields a b = compareOriginals fields a' b' := by
  simp only [compareOriginals, ha, hb]

theorem computable_congr {document other : Value}
    (h : ∀ f ∈ fields, f.plan.FindsSame document other) :
    Computable fields document ↔ Computable fields other := by
  refine forall₂_congr fun a ha => ?_
  obtain ⟨f, hfirst, hplan⟩ := mem_temporaries.1 ha
  have hsame := h f (List.mem_of_find?_eq_some hfirst)
  rw [hplan] at hsame
  rw [show a.2.evaluate a.1 document = a.2.evaluate a.1 other from hsame]

variable {documents others : List Value}

theorem forall_computable_congr
    (h : List.Forall₂ (fun d o => ∀ f ∈ fields, f.plan.FindsSame d o) documents others) :
    (∀ d ∈ documents, Computable fields d) ↔ ∀ o ∈ others, Computable fields o := by
  induction h with
  | nil => simp
  | cons hd _ ih => rw [List.forall_mem_cons, List.forall_mem_cons, computable_congr hd, ih]

theorem placesBy_compareOriginals_congr
    (h : List.Forall₂ (fun d o => ∀ f ∈ fields, f.plan.FindsSame d o) documents others)
    (hcomputed : ∀ d ∈ documents, Computable fields d) :
    StableSort.placesBy (compareOriginals fields) documents =
      StableSort.placesBy (compareOriginals fields) others := by
  have hvalues : List.Forall₂ (fun d o => ∀ path, sortValueAt fields path d =
      sortValueAt fields path o) documents others :=
    ((List.forall₂_and_left _ _).2 ⟨hcomputed, h⟩).imp fun d o hd => sortValueAt_congr hd.2 hd.1
  refine StableSort.placesBy_congr ?_ hvalues
  intro a a' b b' ha hb
  exact compareOriginals_congr ha hb

variable {projectPending : Bool}

theorem exists_run_draft_iff
    (hdocuments : ∀ d ∈ documents, d.FreeOf (Entries.names (temporaries fields))) :
    (∃ out, ((draft fields).toPipeline projectPending).run documents = .ok out) ↔
      ∀ d ∈ documents, Computable fields d := by
  rw [Pipeline.exists_run_eq_ok_iff]
  refine forall₂_congr fun d hd => ?_
  rw [← exists_assign_iff (hdocuments d hd), Draft.applyTo_toPipeline, draft]
  cases Stage.assign (temporaries fields) d <;> simp [Except.map]

theorem arranges_of_run_draft
    (hdocuments : ∀ d ∈ documents, d.FreeOf (Entries.names (temporaries fields)))
    (hpaths : Avoids (Entries.names (temporaries fields)) fields) {out : List Value}
    (h : ((draft fields).toPipeline projectPending).run documents = .ok out) :
    ((draft fields).toPipeline projectPending).Arranges
      (StableSort.placesBy (compareOriginals fields) documents) documents out := by
  obtain ⟨decorated, hdecorated, harranges⟩ := Draft.exists_arranges h
  have hplaces : StableSort.placesBy (compareOriginals fields) documents =
      StableSort.placesBy (sortKeys fields).compare decorated := by
    refine StableSort.placesBy_congr ?_ (forall₂_decorates hdocuments hdecorated)
    intro a a' b b' ha hb
    exact (compare_decorated hpaths ha hb).symm
  rw [hplaces]
  exact harranges

end PlannedField

def Path.Apart (path other : String) : Prop :=
  ¬segments path <+: segments other ∧ ¬segments other <+: segments path

instance (path other : String) : Decidable (Path.Apart path other) :=
  inferInstanceAs (Decidable (¬_ ∧ ¬_))

namespace Value

/-- The document itself, or the document with a text at the path that has other cases of ASCII
letters than the one that was there. -/
inductive Recased (path : String) (document : Value) : Value → Prop
  | kept : Recased path document document
  | written {s t : String} {recased : Value}
      (hstored : document.getPath? path = some (.string s)) (hletters : Text.SameLetters s t)
      (hwritten : document.setPath? path (.string t) = some recased) :
      Recased path document recased

variable {path : String} {document recased : Value}

theorem Recased.getPath?_of_apart (h : document.Recased path recased) {other : String}
    (hapart : Path.Apart other path) : document.getPath? other = recased.getPath? other := by
  cases h with
  | kept => rfl
  | written _ _ hwritten =>
    exact (getSegments?_setSegments?_of_apart hwritten hapart.2 hapart.1).symm

theorem Recased.freeOf (h : document.Recased path recased) {names : List String}
    (hdocument : document.FreeOf names) : recased.FreeOf names := by
  cases h with
  | kept => exact hdocument
  | written hstored _ hwritten =>
    obtain ⟨members, rfl, hfree⟩ := hdocument
    cases hsegments : Path.segments path with
    | nil => exact absurd hsegments (Path.segments_ne_nil path)
    | cons name rest =>
      rw [getPath?, hsegments, getSegments?_object_cons, Option.bind_eq_some_iff] at hstored
      obtain ⟨stored, hget, -⟩ := hstored
      rw [setPath?, hsegments, setSegments?, Option.map_eq_some_iff] at hwritten
      obtain ⟨v, -, rfl⟩ := hwritten
      -- The text was there before, so no member is new.
      have hmem : name ∈ Entries.names members := List.mem_map_of_mem (Entries.mem_of_get? hget)
      exact ⟨_, rfl, Entries.names_set_of_mem hmem ▸ hfree⟩

end Value

namespace Expr

theorem evaluate_lower_of_text {path s : String} {document : Value}
    (h : document.getPath? path = some (.string s)) (target : String) :
    (lower (.field path)).evaluate target document = .ok (some (.string (Text.lowercase s))) := by
  rw [evaluate, evaluate, h]
  rfl

theorem evaluate_lower_of_recased {path : String} {document recased : Value}
    (h : document.Recased path recased) (target : String) :
    (lower (.field path)).evaluate target document =
      (lower (.field path)).evaluate target recased := by
  cases h with
  | kept => rfl
  | written hstored hletters hwritten =>
    rw [evaluate_lower_of_text hstored,
      evaluate_lower_of_text (Value.getSegments?_of_setSegments? hwritten),
      Text.lowercase_eq_of_sameLetters hletters]

end Expr

theorem Request.plan?_of_string {r : Request} (h : r.spec.kind = .string) :
    r.plan? = some (.derived r.storagePath .lower (.lower (.field r.storagePath))) := by
  rw [plan?, FieldPlan.ofSpec?, h]
  rfl

namespace Registry

theorem findsSame_of_recased {registry : Registry} {directive : String}
    (h : ¬registry.FallsBack (some directive)) {r : Request} (hkind : r.spec.kind = .string)
    (hothers : ∀ other ∈ registry.requests directive, other.plan? ≠ r.plan? →
      ∀ plan ∈ other.plan?, ∀ path ∈ plan.reads, Path.Apart path r.storagePath)
    {document recased : Value} (hrecased : document.Recased r.storagePath recased) :
    ∀ f ∈ registry.plannedFields directive, f.plan.FindsSame document recased := by
  intro f hf
  by_cases hsame : f.toRequest.plan? = r.plan?
  · have hplan := f.plan?_eq.symm.trans (hsame.trans (Request.plan?_of_string hkind))
    rw [Option.some.inj hplan]
    exact Expr.evaluate_lower_of_recased hrecased _
  · have hrequest := mem_requests_of_mem_plannedFields h hf
    exact FieldPlan.findsSame_of_reads fun path hpath =>
      hrecased.getPath?_of_apart (hothers _ hrequest hsame _ f.plan?_eq path hpath)

/-- Texts are lowered alike whatever the case of their ASCII letters. So a directive that asks for a
field of texts, and reads these texts for no other field, runs on a batch in which some of them have
other cases exactly if it runs on the batch itself, and the documents come out in the same order. -/
theorem run_ignores_letter_case :
    (∀ (path target : String) (document other : Value) (s t : String),
      document.getPath? path = some (.string s) → other.getPath? path = some (.string t) →
      Text.SameLetters s t →
      ∃ text, (Expr.lower (.field path)).evaluate target document = .ok (some (.string text)) ∧
        (Expr.lower (.field path)).evaluate target other = .ok (some (.string text))) ∧
    ∀ (registry : Registry) (directive : String) (options : CompileOptions) (r : Request)
      (documents recased : List Value), ¬registry.FallsBack (some directive) →
      r ∈ registry.requests directive → r.spec.kind = .string →
      let compiled := registry.compile (some directive) options
      (∀ d ∈ documents, d.FreeOf compiled.assignedNames) →
      (∀ other ∈ registry.requests directive, ∀ path, other.plan? = some (.direct path) →
        ∀ s ∈ (Path.segments path).head?, s ∉ compiled.assignedNames) →
      (∀ other ∈ registry.requests directive, other.plan? ≠ r.plan? →
        ∀ plan ∈ other.plan?, ∀ path ∈ plan.reads, Path.Apart path r.storagePath) →
      List.Forall₂ (Value.Recased r.storagePath) documents recased →
      ((∃ out, compiled.run documents = .ok out) ↔ ∃ out, compiled.run recased = .ok out) ∧
      let places := StableSort.placesBy
        (PlannedField.compareOriginals (registry.plannedFields directive)) documents
      ∀ out out', compiled.run documents = .ok out → compiled.run recased = .ok out' →
        compiled.Arranges places documents out ∧ compiled.Arranges places recased out' := by
  constructor
  · intro path target document other s t hs ht hletters
    refine ⟨Text.lowercase s, Expr.evaluate_lower_of_text hs target, ?_⟩
    rw [Expr.evaluate_lower_of_text ht target, Text.lowercase_eq_of_sameLetters hletters]
  · intro registry directive options r documents recased hfalls hr hkind compiled hdocuments
      hpaths hothers hrecased
    have hnames : compiled.assignedNames = Entries.names (PlannedField.temporaries
      (registry.plannedFields directive)) := assignedNames_of_not_fallsBack hfalls options
    have hcompiled : compiled = _ := compile_of_not_fallsBack hfalls options
    have hsame := hrecased.imp fun d d' hd => findsSame_of_recased hfalls hkind hothers hd
    have havoids := avoids_plannedFields hfalls hpaths
    have hfree : ∀ d' ∈ recased, d'.FreeOf compiled.assignedNames := by
      intro d' hd'
      obtain ⟨d, hd, hdd'⟩ := exists_of_forall₂ hrecased hd'
      exact hdd'.freeOf (hdocuments d hd)
    rw [hnames] at hdocuments hfree havoids
    rw [hcompiled]
    refine ⟨?_, fun out out' hout hout' => ⟨?_, ?_⟩⟩
    · rw [PlannedField.exists_run_draft_iff hdocuments, PlannedField.exists_run_draft_iff hfree,
        PlannedField.forall_computable_congr hsame]
    · exact PlannedField.arranges_of_run_draft hdocuments havoids hout
    · have hcomputed := (PlannedField.exists_run_draft_iff hdocuments).1 ⟨out, hout⟩
      rw [PlannedField.placesBy_compareOriginals_congr hsame hcomputed]
      exact PlannedField.arranges_of_run_draft hfree havoids hout'

def authors : Registry where
  fields :=
    [("author", ⟨.string, some "by.name", none, none⟩), ("year", ⟨.number, none, none, none⟩)]
  sorted := by decide

def books : List Value :=
  [.object [("year", .number (.int 3)), ("by", .object [("name", .string "zo\u03A3")])],
    .object [("by", .object [("name", .string "Ann")]), ("year", .number (.int 2))],
    .object [("year", .number (.int 1))]]

def recasedBooks : List Value :=
  [.object [("year", .number (.int 3)), ("by", .object [("name", .string "ZO\u03A3")])],
    .object [("by", .object [("name", .string "aNN")]), ("year", .number (.int 2))],
    .object [("year", .number (.int 1))]]

theorem authors_run_ignores_letter_case :
    List.Forall₂ (Value.Recased "by.name") books recasedBooks ∧
    ∃ out out', (authors.compile (some "author,-year") {}).run books = .ok out ∧
      (authors.compile (some "author,-year") {}).run recasedBooks = .ok out' ∧
      (authors.compile (some "author,-year") {}).Arranges [2, 1, 0] books out ∧
      (authors.compile (some "author,-year") {}).Arranges [2, 1, 0] recasedBooks out' := by
  have hrecased : List.Forall₂ (Value.Recased "by.name") books recasedBooks :=
    .cons (.written rfl (by decide) rfl) (.cons (.written rfl (by decide) rfl) (.cons .kept .nil))
  have hrequests : authors.requests "author,-year" =
      [⟨⟨"author", false⟩, ⟨.string, some "by.name", none, none⟩⟩,
        ⟨⟨"year", true⟩, ⟨.number, none, none, none⟩⟩] := rfl
  have hnames : (authors.compile (some "author,-year") {}).assignedNames =
      ["by--name__sort_lower"] := rfl
  have hdocuments : ∀ d ∈ books,
      d.FreeOf (authors.compile (some "author,-year") {}).assignedNames := by
    rw [hnames]
    intro d hd
    simp only [books, List.mem_cons, List.not_mem_nil, or_false] at hd
    rcases hd with rfl | rfl | rfl <;> exact ⟨_, rfl, by decide⟩
  have hpaths : ∀ other ∈ authors.requests "author,-year", ∀ path,
      other.plan? = some (.direct path) → ∀ s ∈ (Path.segments path).head?,
        s ∉ (authors.compile (some "author,-year") {}).assignedNames := by
    rw [hnames, hrequests]
    intro other hother path hplan
    simp only [List.mem_cons, List.not_mem_nil, or_false] at hother
    rcases hother with rfl | rfl <;> cases hplan
    decide
  have hothers : ∀ other ∈ authors.requests "author,-year",
      other.plan? ≠ Request.plan? ⟨⟨"author", false⟩, ⟨.string, some "by.name", none, none⟩⟩ →
      ∀ plan ∈ other.plan?, ∀ path ∈ plan.reads, Path.Apart path "by.name" := by
    rw [hrequests]
    intro other hother hne plan hplan
    simp only [List.mem_cons, List.not_mem_nil, or_false] at hother
    rcases hother with rfl | rfl
    · exact absurd rfl hne
    · cases hplan
      decide
  have hok : ((authors.compile (some "author,-year") {}).run books).isOk := by decide +kernel
  obtain ⟨out, hout⟩ := exists_eq_ok_of_isOk hok
  obtain ⟨hsucceeds, harranges⟩ := run_ignores_letter_case.2 authors "author,-year" {} _ books
    recasedBooks (by decide) (hrequests ▸ .head _) rfl hdocuments hpaths hothers hrecased
  obtain ⟨out', hout'⟩ := hsucceeds.1 ⟨out, hout⟩
  have hplaces : StableSort.placesBy
      (PlannedField.compareOriginals (authors.plannedFields "author,-year")) books = [2, 1, 0] := by
    decide +kernel
  exact ⟨hrecased, out, out', hout, hout', hplaces ▸ harranges out out' hout hout'⟩

end Registry

end SortPipeline
