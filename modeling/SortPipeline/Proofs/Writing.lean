import SortPipeline.Document.InPlace
import SortPipeline.Proofs.Decoration

namespace SortPipeline

namespace Value

variable {document after value : Value}

theorem getSegments?_getD (found : Option Value) {segments : List String} (h : segments ≠ []) :
    (found.getD (.object [])).getSegments? segments = found.bind (getSegments? segments) := by
  cases segments with
  | nil => contradiction
  | cons name rest => cases found <;> rfl

theorem exists_setSegments?_new (value : Value) (segments : List String) :
    ∃ after, setSegments? value segments (.object []) = some after := by
  induction segments with
  | nil => exact ⟨value, rfl⟩
  | cons name rest ih =>
    obtain ⟨after, h⟩ := ih
    exact ⟨.object [(name, after)], by simp [setSegments?, Entries.get?, h, Entries.set]⟩

theorem setSegments?_cons_eq_some_iff {name : String} {rest : List String} :
    setSegments? value (name :: rest) document = some after ↔
      ∃ members v, document = .object members ∧
        setSegments? value rest ((Entries.get? name members).getD (.object [])) = some v ∧
        after = .object (Entries.set name v members) := by
  cases document with
  | object members =>
    rw [setSegments?, Option.map_eq_some_iff]
    simp [@eq_comm _ after]
  | _ => simp [setSegments?]

theorem writeSegments_eq (path : String) {segments : List String} (h : segments ≠ []) :
    writeSegments path value segments document =
      match setSegments? value segments document with
      | some after => .done after
      | none => .refused (.parentNotObject path) document := by
  induction segments generalizing document with
  | nil => contradiction
  | cons name rest ih =>
    cases document with
    | object members =>
      cases rest with
      | nil => rfl
      | cons next rest =>
        rw [writeSegments, ih (List.cons_ne_nil next rest), setSegments?]
        cases hset : setSegments? value (next :: rest)
            ((Entries.get? name members).getD (.object [])) with
        | some v => rfl
        | none =>
          -- A new object would have taken the value, so the member was there before.
          cases hget : Entries.get? name members with
          | none =>
            obtain ⟨after, hafter⟩ := exists_setSegments?_new value (next :: rest)
            simp [hget, hafter] at hset
          | some v => simp [Outcome.map, Entries.set_of_get? hget]
    | _ => cases rest <;> rfl

theorem write_eq (document : Value) (path : String) (value : Value) :
    document.write path value =
      match document.setPath? path value with
      | some after => .done after
      | none => .refused (.parentNotObject path) document :=
  writeSegments_eq path (Path.segments_ne_nil path)

theorem setSegments?_eq_none_iff (value : Value) {segments : List String} :
    setSegments? value segments document = none ↔
      ∃ before name rest, segments = before ++ name :: rest ∧
        ∃ v, document.getSegments? before = some v ∧ v.members? = none := by
  induction segments generalizing document with
  | nil => simp [setSegments?]
  | cons first rest ih =>
    cases document with
    | object members =>
      rw [setSegments?, Option.map_eq_none_iff, ih]
      constructor
      · rintro ⟨before, name, after, rfl, v, hv, hnone⟩
        refine ⟨first :: before, name, after, rfl, v, ?_, hnone⟩
        cases before with
        | nil =>
          cases hget : Entries.get? first members with
          | none => simp [← Option.some.inj hv, hget, members?] at hnone
          | some stored => simpa [hget] using hv
        | cons second before => rwa [getSegments?_getD _ (List.cons_ne_nil _ _)] at hv
      · rintro ⟨before, name, after, hsplit, v, hv, hnone⟩
        cases before with
        | nil => simp [← Option.some.inj hv, members?] at hnone
        | cons second before =>
          obtain ⟨rfl, rfl⟩ := List.cons.inj hsplit
          rw [getSegments?_object_cons, Option.bind_eq_some_iff] at hv
          obtain ⟨stored, hget, hv⟩ := hv
          exact ⟨before, name, after, rfl, v, by simpa [hget] using hv, hnone⟩
    | _ => exact iff_of_true rfl ⟨[], first, rest, rfl, _, rfl, rfl⟩

theorem getSegments?_of_setSegments? {segments : List String}
    (h : setSegments? value segments document = some after) :
    after.getSegments? segments = some value := by
  induction segments generalizing document after with
  | nil => exact h.symm
  | cons name rest ih =>
    obtain ⟨members, v, rfl, hv, rfl⟩ := setSegments?_cons_eq_some_iff.1 h
    simp [ih hv]

theorem getSegments?_setSegments?_of_apart {segments other : List String}
    (h : setSegments? value segments document = some after)
    (hextends : ¬segments <+: other) (hleads : ¬other <+: segments) :
    after.getSegments? other = document.getSegments? other := by
  induction segments generalizing document after other with
  | nil => exact absurd other.nil_prefix hextends
  | cons name rest ih =>
    obtain ⟨members, v, rfl, hv, rfl⟩ := setSegments?_cons_eq_some_iff.1 h
    cases other with
    | nil => exact absurd (List.nil_prefix) hleads
    | cons first others =>
      by_cases hname : name = first
      · subst hname
        rw [List.cons_prefix_cons] at hextends hleads
        have hothers : others ≠ [] := by
          rintro rfl
          exact hleads ⟨rfl, rest.nil_prefix⟩
        simp only [getSegments?_object_cons, Entries.get?_set, if_pos, Option.bind_some]
        rw [ih hv (by tauto) (by tauto), getSegments?_getD _ hothers]
      · simp [hname]

def namesAt (segments : List String) (document : Value) : List String :=
  Entries.names (((document.getSegments? segments).bind members?).getD [])

theorem namesAt_object_cons (name : String) (rest : List String)
    (members : List (String × Value)) :
    (object members).namesAt (name :: rest) =
      ((Entries.get? name members).getD (.object [])).namesAt rest := by
  cases hget : Entries.get? name members with
  | none => cases rest <;> simp [namesAt, hget, getSegments?, members?, member?, Entries.get?]
  | some v => simp [namesAt, hget]

theorem exists_members_of_setSegments? {before rest : List String} {name : String}
    (h : setSegments? value (before ++ name :: rest) document = some after) :
    ∃ members, after.getSegments? before = some (.object members) ∧
      Entries.names members =
        if name ∈ document.namesAt before then document.namesAt before
        else document.namesAt before ++ [name] := by
  induction before generalizing document after with
  | nil =>
    obtain ⟨members, v, rfl, -, rfl⟩ := setSegments?_cons_eq_some_iff.1 h
    exact ⟨_, rfl, Entries.names_set name v members⟩
  | cons first before ih =>
    obtain ⟨members, v, rfl, hv, rfl⟩ := setSegments?_cons_eq_some_iff.1 h
    simpa [namesAt_object_cons] using ih hv

/-- A write is done as a whole or not at all. It is refused exactly if the document itself, or what
stands at a part of the way, is no object. Places are lists of names here, so that members with
dots in their names are among them. -/
theorem write_whole_or_refused (path : String) (value document : Value) :
    ((∃ fault after, document.write path value = .refused fault after) ↔
      ∃ before name rest, Path.segments path = before ++ name :: rest ∧
        ∃ v, document.getSegments? before = some v ∧ v.members? = none) ∧
    (∀ fault after, document.write path value = .refused fault after →
      fault = .parentNotObject path ∧ after = document) ∧
    ∀ after, document.write path value = .done after →
      after.getPath? path = some value ∧
      (∀ place, ¬Path.segments path <+: place → ¬place <+: Path.segments path →
        after.getSegments? place = document.getSegments? place) ∧
      ∀ before name rest, Path.segments path = before ++ name :: rest →
        ∃ members, after.getSegments? before = some (.object members) ∧
          Entries.names members =
            if name ∈ document.namesAt before then document.namesAt before
            else document.namesAt before ++ [name] := by
  rw [write_eq, ← setSegments?_eq_none_iff value, setPath?]
  cases hset : setSegments? value (Path.segments path) document with
  | none => simp [eq_comm]
  | some written =>
    refine ⟨by simp, by simp, ?_⟩
    rintro after hafter
    cases hafter
    refine ⟨getSegments?_of_setSegments? hset, fun place hextends hleads => ?_, ?_⟩
    · exact getSegments?_setSegments?_of_apart hset hextends hleads
    · intro before name rest hsplit
      exact exists_members_of_setSegments? (hsplit ▸ hset)

example : (object []).write "" .null = .done (.object [("", .null)]) := rfl

end Value

end SortPipeline
