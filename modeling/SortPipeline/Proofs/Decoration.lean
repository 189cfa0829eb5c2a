import SortPipeline.Document.Execution
import SortPipeline.Proofs.Entries

namespace SortPipeline

namespace Path

def Undotted (name : String) : Prop := '.' ∉ name.toList

theorem segments_of_undotted {name : String} (h : Undotted name) : segments name = [name] := by
  rw [segments, Text.segments, Text.cut_of_not_mem h, List.map_singleton, String.ofList_toList]

theorem segments_ne_nil (path : String) : segments path ≠ [] := by
  simp [segments, Text.segments, Text.cut_ne_nil]

theorem segments_inj {path other : String} (h : segments path = segments other) :
    path = other := by
  have hjoin (p : String) : Text.join '.' ((segments p).map String.toList) = p.toList := by
    simp [segments, Text.segments, Function.comp_def]
  rw [← String.toList_inj, ← hjoin path, h, hjoin other]

end Path

namespace Value

variable {name : String} (h : Path.Undotted name) (members : List (String × Value))

include h

theorem getPath?_object : (object members).getPath? name = Entries.get? name members := by
  rw [getPath?, Path.segments_of_undotted h]
  cases hget : Entries.get? name members <;> simp [getSegments?, member?, hget]

theorem setPath?_object (value : Value) :
    (object members).setPath? name value = some (object (Entries.set name value members)) := by
  rw [setPath?, Path.segments_of_undotted h]
  rfl

theorem erasePath_object :
    (object members).erasePath name = object (Entries.erase name members) := by
  rw [erasePath, takePath?, Path.segments_of_undotted h]
  cases hget : Entries.get? name members with
  | none =>
    rw [Entries.erase_of_not_mem ((Entries.get?_eq_none_iff _ _).1 hget)]
    simp [takeSegments?, hget]
  | some v => simp [takeSegments?, hget]

omit h

theorem getPath?_append {path : String} {extras : List (String × Value)}
    (h : ∀ s ∈ (Path.segments path).head?, s ∉ Entries.names extras) :
    (object (members ++ extras)).getPath? path = (object members).getPath? path := by
  rw [getPath?, getPath?]
  cases hsegments : Path.segments path with
  | nil => exact absurd hsegments (Path.segments_ne_nil path)
  | cons s rest =>
    have hnone : Entries.get? s extras = none :=
      (Entries.get?_eq_none_iff _ _).2 (h s (by simp [hsegments]))
    simp [getSegments?, member?, Entries.get?_append, hnone]

theorem getSegments?_append (segments beyond : List String) (v : Value) :
    v.getSegments? (segments ++ beyond) = (v.getSegments? segments).bind (getSegments? beyond) := by
  induction segments generalizing v with
  | nil => rfl
  | cons s rest ih =>
    rw [List.cons_append, getSegments?, getSegments?, Option.bind_assoc]
    exact congrArg _ (funext ih)

@[simp] theorem getSegments?_object_cons (name : String) (rest : List String)
    (members : List (String × Value)) :
    (object members).getSegments? (name :: rest) =
      (Entries.get? name members).bind (getSegments? rest) := rfl

theorem getSegments?_cons_eq_some_iff {name : String} {rest : List String} {document v : Value} :
    document.getSegments? (name :: rest) = some v ↔
      ∃ members stored, document = .object members ∧ Entries.get? name members = some stored ∧
        stored.getSegments? rest = some v := by
  cases document with
  | object members => simp [Option.bind_eq_some_iff]
  | _ => simp [getSegments?, member?]

theorem getSegments?_of_members?_none {v : Value} (hv : v.members? = none)
    {segments : List String} (hne : segments ≠ []) : v.getSegments? segments = none := by
  cases segments with
  | nil => exact absurd rfl hne
  | cons s rest =>
    cases v with
    | object members => cases hv
    | _ => rfl

end Value

namespace Stage

theorem evaluateAll_cons {document : Value} {name : String} {e : Expr}
    {rest : List (String × Expr)} {writes : List (String × Option Value)}
    (h : evaluateAll document ((name, e) :: rest) = .ok writes) :
    ∃ value others, e.evaluate name document = .ok value ∧
      evaluateAll document rest = .ok others ∧ writes = (name, value) :: others := by
  rw [evaluateAll] at h
  split at h
  · cases h
  · next value hvalue =>
    cases hrest : evaluateAll document rest with
    | error fault => simp [hrest, Except.map] at h
    | ok others =>
      rw [hrest] at h
      cases h
      exact ⟨value, others, hvalue, rfl, rfl⟩

theorem evaluateAll_eq_ok_iff {document : Value} {assignments : List (String × Expr)} :
    (∃ writes, evaluateAll document assignments = .ok writes) ↔
      ∀ a ∈ assignments, ∃ value, a.2.evaluate a.1 document = .ok value := by
  induction assignments with
  | nil => simp [evaluateAll]
  | cons a rest ih =>
    obtain ⟨name, e⟩ := a
    rw [List.forall_mem_cons, ← ih, evaluateAll]
    cases e.evaluate name document <;> cases evaluateAll document rest <;> simp [Except.map]

theorem assign_eq_ok_iff {assignments : List (String × Expr)} {document decorated : Value} :
    assign assignments document = .ok decorated ↔
      ∃ writes, evaluateAll document assignments = .ok writes ∧
        writeAll document writes = .ok decorated := by
  unfold assign
  cases evaluateAll document assignments <;> simp [Except.bind]

theorem names_of_evaluateAll {document : Value} {assignments : List (String × Expr)}
    {writes : List (String × Option Value)} (h : evaluateAll document assignments = .ok writes) :
    Entries.names writes = Entries.names assignments := by
  induction assignments generalizing writes with
  | nil => cases h; rfl
  | cons a rest ih =>
    obtain ⟨value, others, -, hrest, rfl⟩ := evaluateAll_cons h
    rw [Entries.names_cons, Entries.names_cons, ih hrest]

theorem get?_of_evaluateAll {document : Value} {assignments : List (String × Expr)}
    {writes : List (String × Option Value)} (h : evaluateAll document assignments = .ok writes)
    {name : String} {expr : Expr} (hget : Entries.get? name assignments = some expr) :
    ∃ value, expr.evaluate name document = .ok value ∧ Entries.get? name writes = some value := by
  induction assignments generalizing writes with
  | nil => cases hget
  | cons a rest ih =>
    obtain ⟨n, e⟩ := a
    obtain ⟨value, others, hvalue, hrest, rfl⟩ := evaluateAll_cons h
    by_cases hn : n = name
    · subst hn
      obtain rfl : e = expr := by simpa [Entries.get?] using hget
      exact ⟨value, hvalue, by simp [Entries.get?]⟩
    · rw [Entries.get?, if_neg hn] at hget ⊢
      exact ih hrest hget

theorem writeAll_object {members : List (String × Value)} {writes : List (String × Option Value)}
    (hnodup : (Entries.names writes).Nodup)
    (hfresh : ∀ n ∈ Entries.names writes, Path.Undotted n ∧ n ∉ Entries.names members) :
    writeAll (.object members) writes = .ok (.object (members ++ Entries.present writes)) := by
  induction writes generalizing members with
  | nil => simp [writeAll, Entries.present]
  | cons w rest ih =>
    obtain ⟨n, value⟩ := w
    obtain ⟨hhead, hrest⟩ := List.nodup_cons.1 hnodup
    obtain ⟨⟨hdot, hnew⟩, htail⟩ := List.forall_mem_cons.1 hfresh
    cases value with
    | none => exact ih hrest htail
    | some v =>
      -- The name just written is not among the names still to come.
      have hlater : ∀ m ∈ Entries.names rest,
          Path.Undotted m ∧ m ∉ Entries.names (members ++ [(n, v)]) := by
        intro m hm
        have hne : m ≠ n := fun heq => hhead (heq ▸ hm)
        exact ⟨(htail m hm).1, by simp [(htail m hm).2, hne]⟩
      rw [writeAll, Value.setPath?_object hdot, Entries.set_of_not_mem hnew]
      simpa [Entries.present] using ih hrest hlater

theorem exists_writeAll {writes : List (String × Option Value)}
    (hdots : ∀ n ∈ Entries.names writes, Path.Undotted n) (members : List (String × Value)) :
    ∃ written, writeAll (.object members) writes = .ok written := by
  induction writes generalizing members with
  | nil => exact ⟨_, rfl⟩
  | cons w rest ih =>
    obtain ⟨name, value⟩ := w
    obtain ⟨hname, hrest⟩ := List.forall_mem_cons.1 hdots
    cases value with
    | none => exact ih hrest members
    | some v =>
      rw [writeAll, Value.setPath?_object hname]
      exact ih hrest _

theorem exists_assign_iff {assignments : List (String × Expr)}
    (hdots : ∀ n ∈ Entries.names assignments, Path.Undotted n) {members : List (String × Value)} :
    (∃ after, assign assignments (.object members) = .ok after) ↔
      ∀ a ∈ assignments, ∃ value, a.2.evaluate a.1 (.object members) = .ok value := by
  simp only [← evaluateAll_eq_ok_iff, assign_eq_ok_iff]
  constructor
  · rintro ⟨_, writes, hwrites, -⟩
    exact ⟨writes, hwrites⟩
  · rintro ⟨writes, hwrites⟩
    rw [← names_of_evaluateAll hwrites] at hdots
    obtain ⟨written, hwritten⟩ := exists_writeAll hdots members
    exact ⟨written, writes, hwrites, hwritten⟩

/-- New names that are dropped leave the members in front as they are, whatever becomes of the order
of the entries behind them. -/
theorem exists_drop_append {names : List String} (members : List (String × Value))
    {extras : List (String × Value)}
    (hfresh : ∀ n ∈ names, Path.Undotted n ∧ n ∉ Entries.names members)
    (hnodup : (Entries.names extras).Nodup) :
    ∃ left, drop names (.object (members ++ extras)) = .object (members ++ left) ∧
      left.Perm (Entries.without names extras) := by
  induction names generalizing extras with
  | nil => exact ⟨extras, rfl, by simp [Entries.without]⟩
  | cons n names ih =>
    obtain ⟨⟨hdot, hnew⟩, hrest⟩ := List.forall_mem_cons.1 hfresh
    obtain ⟨left, hdrop, hleft⟩ := ih hrest (Entries.nodup_names_erase n hnodup)
    refine ⟨left, ?_, ?_⟩
    · rw [drop, List.foldl_cons, Value.erasePath_object hdot,
        Entries.erase_append_of_not_mem hnew]
      exact hdrop
    · rw [Entries.without_cons]
      exact hleft.trans ((Entries.erase_perm_without n hnodup).filter _)

theorem drop_append {names : List String} {members extras : List (String × Value)}
    (hfresh : ∀ n ∈ names, Path.Undotted n ∧ n ∉ Entries.names members)
    (hnodup : (Entries.names extras).Nodup) (hsub : Entries.names extras ⊆ names) :
    drop names (.object (members ++ extras)) = .object members := by
  obtain ⟨left, hdrop, hleft⟩ := exists_drop_append members hfresh hnodup
  rw [Entries.without_eq_nil hsub] at hleft
  rw [hdrop, hleft.eq_nil, List.append_nil]

structure Decorates (assignments : List (String × Expr)) (document decorated : Value) :
    Prop where
  evaluate_eq : ∀ {name expr}, Entries.get? name assignments = some expr →
    expr.evaluate name document = .ok (decorated.getPath? name)
  getPath?_eq : ∀ {path}, (∀ s ∈ (Path.segments path).head?, s ∉ Entries.names assignments) →
    decorated.getPath? path = document.getPath? path
  drop_eq : drop (Entries.names assignments) decorated = document

theorem decorates_of_assign {assignments : List (String × Expr)}
    {members : List (String × Value)} {decorated : Value}
    (hnodup : (Entries.names assignments).Nodup)
    (hfresh : ∀ n ∈ Entries.names assignments, Path.Undotted n ∧ n ∉ Entries.names members)
    (h : assign assignments (.object members) = .ok decorated) :
    Decorates assignments (.object members) decorated := by
  obtain ⟨writes, hwrites, hwritten⟩ := assign_eq_ok_iff.1 h
  have hnames := names_of_evaluateAll hwrites
  rw [writeAll_object (hnames ▸ hnodup) (hnames ▸ hfresh)] at hwritten
  cases hwritten
  have hsublist : (Entries.names (Entries.present writes)).Sublist (Entries.names assignments) :=
    hnames ▸ Entries.names_present_sublist writes
  constructor
  · intro name expr hget
    obtain ⟨value, hvalue, hwrite⟩ := get?_of_evaluateAll hwrites hget
    have hmem : name ∈ Entries.names assignments := by
      by_contra hnot
      simp [(Entries.get?_eq_none_iff _ _).2 hnot] at hget
    obtain ⟨hdot, hnew⟩ := hfresh name hmem
    have hget : Entries.get? name (members ++ Entries.present writes) = value := by
      rw [Entries.get?_append, (Entries.get?_eq_none_iff _ _).2 hnew,
        Entries.get?_present name (hnames ▸ hnodup), hwrite]
      rfl
    rw [Value.getPath?_object hdot, hget, hvalue]
  · intro path hpath
    exact Value.getPath?_append members fun s hs hmem => hpath s hs (hsublist.subset hmem)
  · exact drop_append hfresh (hnodup.sublist hsublist) hsublist.subset

end Stage

end SortPipeline
