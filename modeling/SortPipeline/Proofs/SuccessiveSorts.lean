import SortPipeline.Proofs.OriginalOrder

/-! Two directives in a row. Sorting by the second and then by the first comes to the same as
sorting by both in one directive, wherever values are totally preordered. -/

namespace SortPipeline

theorem Directive.tokens_append (first second : String) :
    tokens (first ++ "," ++ second) = tokens first ++ tokens second := by
  have hchars : (first ++ "," ++ second).toList = first.toList ++ ',' :: second.toList := by
    simp
  rw [tokens, hchars, Text.cut_append, List.map_append, tokens, tokens]

namespace Registry

variable {registry : Registry} {first second : String}

theorem plannedFields_append :
    registry.plannedFields (first ++ "," ++ second) =
      registry.plannedFields first ++ registry.plannedFields second := by
  simp only [plannedFields, requests, Directive.tokens_append, List.filterMap_append]

theorem not_fallsBack_append (h : ¬registry.FallsBack (some first))
    (h' : ¬registry.FallsBack (some second)) :
    ¬registry.FallsBack (some (first ++ "," ++ second)) := by
  rintro (hempty | hnone | ⟨t, ht, hspec⟩)
  · simp at hempty
  · rw [Directive.tokens_append] at hnone
    exact h (.inr (.inl fun t ht => hnone t (List.mem_append_left _ ht)))
  · rw [Directive.tokens_append] at ht
    rcases List.mem_append.1 ht with ht | ht
    · exact h (.inr (.inr ⟨t, ht, hspec⟩))
    · exact h' (.inr (.inr ⟨t, ht, hspec⟩))

end Registry

namespace PlannedField

section Append

variable {fields others : List PlannedField}

theorem first?_append (path : String) (fields others : List PlannedField) :
    first? path (fields ++ others) = (first? path fields).or (first? path others) :=
  List.find?_append

theorem first?_append_left {path : String} (h : path ∈ sortPaths fields) :
    first? path (fields ++ others) = first? path fields := by
  rw [first?_append, Option.or_of_isSome (isSome_first?_iff.2 h)]

theorem first?_append_right {path : String} (h : path ∉ sortPaths fields) :
    first? path (fields ++ others) = first? path others := by
  have hnone : first? path fields = none := by simpa using isSome_first?_iff.not.2 h
  rw [first?_append, hnone, Option.none_or]

theorem lastDirection_append (path : String) (fields others : List PlannedField) :
    lastDirection path (fields ++ others) =
      if path ∈ sortPaths others then lastDirection path others
      else lastDirection path fields := by
  induction others using List.reverseRecOn with
  | nil => simp [sortPaths]
  | append_singleton others f ih =>
    rw [← List.append_assoc, lastDirection_concat, lastDirection_concat, sortPaths_concat, ih]
    by_cases hf : f.sortPath = path
    · subst hf
      by_cases hmem : f.sortPath ∈ sortPaths others <;> simp [hmem]
    · by_cases hmem : f.sortPath ∈ sortPaths others <;> simp [hf, hmem, Ne.symm hf]

variable (hdisjoint : (sortPaths fields).Disjoint (sortPaths others))

include hdisjoint

theorem sortPaths_append : sortPaths (fields ++ others) = sortPaths fields ++ sortPaths others := by
  have hkept : (others.map sortPath).removeAll (fields.map sortPath) = others.map sortPath := by
    apply List.filter_eq_self.2
    intro path hpath
    simpa using fun f hf hsame => hdisjoint (mem_sortPaths.2 ⟨f, hf, hsame⟩)
      (List.mem_eraseDups.2 hpath)
  rw [sortPaths, List.map_append, List.eraseDups_append, hkept, sortPaths, sortPaths]

theorem temporaries_append :
    temporaries (fields ++ others) = temporaries fields ++ temporaries others := by
  rw [temporaries, sortPaths_append hdisjoint, List.filterMap_append]
  congr 1
  · exact List.filterMap_congr fun path hpath => by rw [first?_append_left hpath]
  · exact List.filterMap_congr fun path hpath => by
      rw [first?_append_right fun h => hdisjoint h hpath]

theorem compareAt_append_left {path : String} (h : path ∈ sortPaths fields) :
    compareAt (fields ++ others) path = compareAt fields path := by
  funext a b
  simp only [compareAt, lastDirection_append, if_neg (hdisjoint h), sortValueAt,
    first?_append_left h]

theorem compareAt_append_right {path : String} (h : path ∈ sortPaths others) :
    compareAt (fields ++ others) path = compareAt others path := by
  funext a b
  simp only [compareAt, lastDirection_append, if_pos h, sortValueAt,
    first?_append_right fun h' => hdisjoint h' h]

theorem compareOriginals_append :
    compareOriginals (fields ++ others) =
      compareLex (compareOriginals fields) (compareOriginals others) := by
  rw [compareOriginals_eq, sortPaths_append hdisjoint, lexicographic_append,
    lexicographic_congr fun path hpath => compareAt_append_left hdisjoint hpath,
    lexicographic_congr fun path hpath => compareAt_append_right hdisjoint hpath]
  rfl

end Append

variable {fields others : List PlannedField}

theorem Avoids.mono {names more : List String} (h : Avoids more fields) (hsub : names ⊆ more) :
    Avoids names fields :=
  fun path f hfirst hplan s hs hmem => h path f hfirst hplan s hs (hsub hmem)

theorem Avoids.append {names : List String} (h : Avoids names fields)
    (h' : Avoids names others) : Avoids names (fields ++ others) := by
  intro path f hfirst hplan
  rw [first?_append, Option.or_eq_some_iff] at hfirst
  rcases hfirst with hfirst | ⟨-, hfirst⟩
  · exact h path f hfirst hplan
  · exact h' path f hfirst hplan

theorem run_draft_append (hdisjoint : (sortPaths fields).Disjoint (sortPaths others))
    {documents middle out : List Value}
    (hdocuments : ∀ d ∈ documents, d.FreeOf (Entries.names (temporaries (fields ++ others))))
    (hpaths : Avoids (Entries.names (temporaries (fields ++ others))) fields)
    (hpaths' : Avoids (Entries.names (temporaries (fields ++ others))) others)
    (hcomparable : ∀ d ∈ documents, Comparable fields d ∧ Comparable others d)
    (hmiddle : ((draft others).toPipeline false).run documents = .ok middle)
    (hout : ((draft fields).toPipeline false).run middle = .ok out) :
    ((draft (fields ++ others)).toPipeline false).run documents = .ok out := by
  have htemporaries := temporaries_append hdisjoint
  have hsub : Entries.names (temporaries fields) ⊆
      Entries.names (temporaries (fields ++ others)) := by
    simp [htemporaries]
  have hsub' : Entries.names (temporaries others) ⊆
      Entries.names (temporaries (fields ++ others)) := by
    simp [htemporaries]
  obtain ⟨hcomputed', rfl⟩ := (run_draft_eq_ok_iff
    (fun d hd => (hdocuments d hd).mono hsub') (hpaths'.mono hsub')).1 hmiddle
  -- What is known of the documents is known of them in any order.
  have hmem : ∀ d, d ∈ StableSort.sortBy (compareOriginals others) documents ↔ d ∈ documents :=
    fun d => (StableSort.sort_perm _ documents).mem_iff
  obtain ⟨hcomputed, rfl⟩ := (run_draft_eq_ok_iff
    (fun d hd => (hdocuments d ((hmem d).1 hd)).mono hsub) (hpaths.mono hsub)).1 hout
  refine (run_draft_eq_ok_iff hdocuments (hpaths.append hpaths')).2 ⟨?_, ?_⟩
  · intro d hd a ha
    rw [htemporaries] at ha
    rcases List.mem_append.1 ha with ha | ha
    · exact hcomputed d ((hmem d).2 hd) a ha
    · exact hcomputed' d hd a ha
  · rw [compareOriginals_append hdisjoint]
    exact (StableSort.sortBy_sortBy_of_forall (transCmp_compareOriginals fun d h => h.1)
      (transCmp_compareOriginals fun d h => h.2) hcomparable).symm

end PlannedField

namespace Registry

/-- A directive made of two sorts by the second and then by the first: the first decides, and what
it cannot tell apart stays as the second left it. -/
theorem run_append_eq_ok (registry : Registry) (first second : String)
    (options : CompileOptions) (hpending : options.projectPending = false)
    (hfirst : ¬registry.FallsBack (some first)) (hsecond : ¬registry.FallsBack (some second))
    (hdisjoint : (PlannedField.sortPaths (registry.plannedFields first)).Disjoint
      (PlannedField.sortPaths (registry.plannedFields second)))
    {names : List String}
    (hnames : names = (registry.compile (some first) options).assignedNames ++
      (registry.compile (some second) options).assignedNames)
    (hpaths : ∀ r ∈ registry.requests first ++ registry.requests second,
      ∀ path, r.plan? = some (.direct path) → ∀ s ∈ (Path.segments path).head?, s ∉ names)
    (hliterals : ∀ r ∈ registry.requests first ++ registry.requests second,
      ∀ v ∈ r.spec.replacementValue?, v.Integral)
    {documents middle out : List Value}
    (hdocuments : ∀ d ∈ documents, d.FreeOf names ∧ d.Integral ∧
      ∀ r ∈ registry.requests first ++ registry.requests second, r.Countable d)
    (hmiddle : (registry.compile (some second) options).run documents = .ok middle)
    (hout : (registry.compile (some first) options).run middle = .ok out) :
    (registry.compile (some (first ++ "," ++ second)) options).run documents = .ok out := by
  rw [assignedNames_of_not_fallsBack hfirst, assignedNames_of_not_fallsBack hsecond,
    ← Entries.names_append, ← PlannedField.temporaries_append hdisjoint] at hnames
  rw [compile_of_not_fallsBack hsecond, hpending] at hmiddle
  rw [compile_of_not_fallsBack hfirst, hpending] at hout
  rw [compile_of_not_fallsBack (not_fallsBack_append hfirst hsecond), hpending,
    plannedFields_append]
  subst hnames
  rw [List.forall_mem_append] at hpaths hliterals
  apply PlannedField.run_draft_append hdisjoint (fun d hd => (hdocuments d hd).1)
    (avoids_plannedFields hfirst hpaths.1) (avoids_plannedFields hsecond hpaths.2) _ hmiddle hout
  intro d hd
  obtain ⟨-, hintegral, hcounts⟩ := hdocuments d hd
  rw [List.forall_mem_append] at hcounts
  exact ⟨comparable_plannedFields hfirst hintegral hliterals.1 hcounts.1,
    comparable_plannedFields hsecond hintegral hliterals.2 hcounts.2⟩

def archive : Registry where
  fields :=
    [("created", ⟨.date, none, none, some (.number (.int 0))⟩),
      ("rank", ⟨.number, none, none, none⟩), ("tags", ⟨.array, none, none, none⟩)]
  sorted := by decide

def archived : List Value :=
  [.object [("tags", .array [.null]), ("created", .number (.int 5)), ("rank", .number (.int 2))],
    .object [("tags", .array []), ("rank", .number (.int 1))],
    .object [("tags", .array [.null]), ("rank", .number (.int 1)), ("created", .number (.int 5))]]

theorem archive_run_append : ∃ middle out,
    (archive.compile (some "-created,rank") {}).run archived = .ok middle ∧
    (archive.compile (some "tags") {}).run middle = .ok out ∧
    (archive.compile (some ("tags" ++ "," ++ "-created,rank")) {}).run archived = .ok out := by
  have hfirst : ¬archive.FallsBack (some "tags") := by decide
  have hsecond : ¬archive.FallsBack (some "-created,rank") := by decide
  have hdisjoint : (PlannedField.sortPaths (archive.plannedFields "tags")).Disjoint
      (PlannedField.sortPaths (archive.plannedFields "-created,rank")) := by
    show ["tags__sort_size"].Disjoint ["created__sort_coalesce", "rank"]
    simp
  have hrequests : archive.requests "tags" ++ archive.requests "-created,rank" =
      [⟨⟨"tags", false⟩, ⟨.array, none, none, none⟩⟩,
        ⟨⟨"created", true⟩, ⟨.date, none, none, some (.number (.int 0))⟩⟩,
        ⟨⟨"rank", false⟩, ⟨.number, none, none, none⟩⟩] := rfl
  have hpaths : ∀ r ∈ archive.requests "tags" ++ archive.requests "-created,rank",
      ∀ path, r.plan? = some (.direct path) → ∀ s ∈ (Path.segments path).head?,
        s ∉ ["tags__sort_size", "created__sort_coalesce"] := by
    intro r hr path hplan
    simp only [hrequests, List.mem_cons, List.not_mem_nil, or_false] at hr
    rcases hr with rfl | rfl | rfl <;> cases hplan
    decide
  have hliterals : ∀ r ∈ archive.requests "tags" ++ archive.requests "-created,rank",
      ∀ v ∈ r.spec.replacementValue?, v.Integral := by
    intro r hr v hv
    simp only [hrequests, List.mem_cons, List.not_mem_nil, or_false] at hr
    rcases hr with rfl | rfl | rfl <;> cases hv
    decide
  have hdocuments : ∀ d ∈ archived,
      d.FreeOf ["tags__sort_size", "created__sort_coalesce"] ∧ d.Integral ∧
        ∀ r ∈ archive.requests "tags" ++ archive.requests "-created,rank", r.Countable d := by
    intro d hd
    have hintegral : ∀ d ∈ archived, d.Integral := by decide
    simp only [hrequests, archived, List.mem_cons, List.not_mem_nil, or_false] at hd ⊢
    refine ⟨?_, hintegral d (by simpa [archived] using hd), ?_⟩
    · rcases hd with rfl | rfl | rfl <;> exact ⟨_, rfl, by decide⟩
    · intro r hr hkind items hitems
      rcases hr with rfl | rfl | rfl <;> cases hkind
      rcases hd with rfl | rfl | rfl <;> cases hitems <;> decide
  have hok : ((archive.compile (some "-created,rank") {}).run archived >>= fun middle =>
      (archive.compile (some "tags") {}).run middle).isOk := by
    decide +kernel
  obtain ⟨out, hboth⟩ := exists_eq_ok_of_isOk hok
  cases hmiddle : (archive.compile (some "-created,rank") {}).run archived with
  | error fault => simp [hmiddle, bind, Except.bind] at hboth
  | ok middle =>
    rw [hmiddle] at hboth
    exact ⟨middle, out, rfl, hboth, run_append_eq_ok archive "tags" "-created,rank" {} rfl hfirst
      hsecond hdisjoint rfl hpaths hliterals hdocuments hmiddle hboth⟩

end Registry

end SortPipeline
