import SortPipeline.Proofs.Writing

namespace SortPipeline

namespace Value

mutual

def objects : Value → List (List (String × Value))
  | .object members => members :: objectsInMembers members
  | .array items => objectsInItems items
  | .null | .bool _ | .number _ | .string _ => []

def objectsInItems : List Value → List (List (String × Value))
  | [] => []
  | v :: vs => v.objects ++ objectsInItems vs

def objectsInMembers : List (String × Value) → List (List (String × Value))
  | [] => []
  | (_, v) :: rest => v.objects ++ objectsInMembers rest

end

def Unambiguous (v : Value) : Prop := ∀ members ∈ v.objects, (Entries.names members).Nodup

instance (v : Value) : Decidable v.Unambiguous :=
  inferInstanceAs (Decidable (∀ members ∈ v.objects, (Entries.names members).Nodup))

theorem objects_subset_of_get? {name : String} {v : Value} {members : List (String × Value)}
    (h : Entries.get? name members = some v) : v.objects ⊆ objectsInMembers members := by
  induction members with
  | nil => cases h
  | cons e rest ih =>
    obtain ⟨n, w⟩ := e
    rw [objectsInMembers]
    by_cases hn : n = name
    · rw [Entries.get?, if_pos hn] at h
      cases h
      exact List.subset_append_left _ _
    · rw [Entries.get?, if_neg hn] at h
      exact List.subset_append_of_subset_right _ (ih h)

theorem objects_subset_of_getSegments? {segments : List String} {document v : Value}
    (h : document.getSegments? segments = some v) : v.objects ⊆ document.objects := by
  induction segments generalizing document with
  | nil =>
    cases h
    exact List.Subset.refl _
  | cons name rest ih =>
    obtain ⟨members, stored, rfl, hget, hrest⟩ := getSegments?_cons_eq_some_iff.1 h
    exact List.Subset.trans (ih hrest) (List.subset_cons_of_subset _ (objects_subset_of_get? hget))

theorem Unambiguous.nodup {document : Value} (h : document.Unambiguous) {segments : List String}
    {members : List (String × Value)}
    (hmembers : document.getSegments? segments = some (.object members)) :
    (Entries.names members).Nodup :=
  h members (objects_subset_of_getSegments? hmembers (.head _))

variable {document : Value} {before : List String} {name : String}

theorem removeAt_of_object (name : String) {members : List (String × Value)}
    (h : document.getSegments? before = some (.object members)) :
    ∃ after, removeAt name before document = (Entries.get? name members, after) ∧
      setSegments? (.object (Entries.erase name members)) before document = some after := by
  induction before generalizing document with
  | nil =>
    cases h
    exact ⟨_, rfl, rfl⟩
  | cons first before ih =>
    obtain ⟨outer, stored, rfl, hget, hrest⟩ := getSegments?_cons_eq_some_iff.1 h
    obtain ⟨after, hremove, hset⟩ := ih hrest
    exact ⟨.object (Entries.set first after outer), by simp [removeAt, hget, hremove],
      by simp [setSegments?, hget, hset]⟩

theorem removeAt_of_not_object
    (h : ∀ members, document.getSegments? before ≠ some (.object members)) :
    removeAt name before document = (none, document) := by
  induction before generalizing document with
  | nil =>
    cases document with
    | object members => exact absurd rfl (h members)
    | _ => rfl
  | cons first before ih =>
    cases document with
    | object members =>
      rw [removeAt]
      cases hget : Entries.get? first members with
      | none => rfl
      | some stored =>
        have hrest : ∀ inner, stored.getSegments? before ≠ some (.object inner) := by
          simpa [hget] using h
        simp [ih hrest, Entries.set_of_get? hget]
    | _ => rfl

theorem setSegments?_self {segments : List String} {v : Value}
    (h : document.getSegments? segments = some v) :
    setSegments? v segments document = some document := by
  induction segments generalizing document with
  | nil => exact h.symm
  | cons first rest ih =>
    obtain ⟨members, stored, rfl, hget, hrest⟩ := getSegments?_cons_eq_some_iff.1 h
    simp [setSegments?, hget, ih hrest, Entries.set_of_get? hget]

theorem getSegments?_concat_of_not_object
    (h : ∀ members, document.getSegments? before ≠ some (.object members)) :
    document.getSegments? (before ++ [name]) = none := by
  rw [getSegments?_append, Option.bind_eq_none_iff]
  intro v hv
  refine getSegments?_of_members?_none ?_ (List.cons_ne_nil name [])
  cases v with
  | object members => exact absurd hv (h members)
  | _ => rfl

theorem getSegments?_concat_of_object {members : List (String × Value)}
    (h : document.getSegments? before = some (.object members)) :
    document.getSegments? (before ++ [name]) = Entries.get? name members := by
  rw [getSegments?_append, h]
  simp [getSegments?, member?]

theorem remove_eq_removeAt (document : Value) (path : String) :
    ∃ before name, Path.segments path = before ++ [name] ∧
      document.remove path = removeAt name before document := by
  rw [remove]
  split
  · next parent name hcut =>
    obtain ⟨hsplit, hname⟩ := Text.eq_append_of_cutLast? hcut
    refine ⟨Path.segments (String.ofList parent), String.ofList name, ?_, rfl⟩
    rw [Path.segments, Text.segments, hsplit, Text.cut_append, Text.cut_of_not_mem hname]
    simp [Path.segments, Text.segments]
  · next hcut =>
    exact ⟨[], path, Path.segments_of_undotted (Text.not_mem_of_cutLast?_eq_none hcut), rfl⟩

theorem takeSegments?_cons {first : String} {rest : List String} (h : rest ≠ [])
    (members : List (String × Value)) :
    takeSegments? (first :: rest) (.object members) =
      ((Entries.get? first members).bind (takeSegments? rest)).map fun (taken, v) =>
        (taken, .object (Entries.set first v members)) := by
  cases rest with
  | nil => contradiction
  | cons second rest => rfl

theorem removeAt_eq_takeSegments? :
    removeAt name before document =
      match takeSegments? (before ++ [name]) document with
      | some (taken, after) => (some taken, after)
      | none => (none, document) := by
  induction before generalizing document with
  | nil =>
    cases document with
    | object members =>
      cases hget : Entries.get? name members with
      | none =>
        have hnot := (Entries.get?_eq_none_iff name members).1 hget
        simp [removeAt, takeSegments?, hget, Entries.erase_of_not_mem hnot]
      | some v => simp [removeAt, takeSegments?, hget]
    | _ => rfl
  | cons first before ih =>
    cases document with
    | object members =>
      rw [List.cons_append, takeSegments?_cons (by simp), removeAt]
      cases hget : Entries.get? first members with
      | none => rfl
      | some stored =>
        rw [Option.bind_some]
        simp only [ih]
        cases takeSegments? (before ++ [name]) stored with
        | none => simp [Entries.set_of_get? hget]
        | some found => rfl
    | _ => cases before <;> rfl

theorem snd_remove (document : Value) (path : String) :
    (document.remove path).2 = document.erasePath path := by
  obtain ⟨before, name, hsegments, hremove⟩ := remove_eq_removeAt document path
  rw [hremove, erasePath, takePath?, hsegments, removeAt_eq_takeSegments?]
  cases takeSegments? (before ++ [name]) document <;> rfl

section Erased

variable {members : List (String × Value)} {after : Value}
  (hmembers : document.getSegments? before = some (.object members))
  (hnodup : (Entries.names members).Nodup)
  (hset : setSegments? (.object (Entries.erase name members)) before document = some after)

include hnodup hset

theorem getSegments?_erased_of_extends {place : List String} (h : before ++ [name] <+: place) :
    after.getSegments? place = none := by
  obtain ⟨beyond, rfl⟩ := h
  rw [List.append_assoc, getSegments?_append, getSegments?_of_setSegments? hset]
  simp [Entries.get?_erase hnodup]

include hmembers

theorem getSegments?_erased_of_apart {place : List String}
    (hextends : ¬before ++ [name] <+: place) (hleads : ¬place <+: before ++ [name]) :
    after.getSegments? place = document.getSegments? place := by
  by_cases hbefore : before <+: place
  · -- The place lies in the object that has lost the member.
    obtain ⟨rest, rfl⟩ := hbefore
    cases rest with
    | nil => exact absurd (by simp) hleads
    | cons other rest =>
      have hne : name ≠ other := by
        rintro rfl
        exact hextends ⟨rest, by simp⟩
      rw [getSegments?_append, getSegments?_append, getSegments?_of_setSegments? hset, hmembers]
      simp [Entries.get?_erase hnodup, hne]
  · have hplace : ¬place <+: before := fun hplace =>
      hleads (hplace.trans (List.prefix_append _ _))
    exact getSegments?_setSegments?_of_apart hset hbefore hplace

end Erased

/-- What is removed is what could be read, and of the rest only the object that held it is changed.
Places are lists of names here, so that members with dots in their names are among them. A pipeline
that drops the path leaves the same document. -/
theorem remove_takes_what_is_read {path : String} {document after : Value} {taken : Option Value}
    (h : document.Unambiguous) (hremove : document.remove path = (taken, after)) :
    taken = document.getPath? path ∧ after = document.erasePath path ∧
    (taken = none → after = document) ∧
    ∀ v, taken = some v →
      (∀ place, Path.segments path <+: place → after.getSegments? place = none) ∧
      (∀ place, ¬Path.segments path <+: place → ¬place <+: Path.segments path →
        after.getSegments? place = document.getSegments? place) ∧
      ∃ before name members left, Path.segments path = before ++ [name] ∧
        document.getSegments? before = some (.object members) ∧
        after.getSegments? before = some (.object left) ∧
        Entries.Vacated (name, v) members left := by
  have herase := snd_remove document path
  obtain ⟨before, name, hsegments, hat⟩ := remove_eq_removeAt document path
  rw [hremove] at herase
  rw [hat] at hremove
  rw [getPath?, hsegments, ← herase]
  by_cases hobject : ∃ members, document.getSegments? before = some (.object members)
  · obtain ⟨members, hmembers⟩ := hobject
    have hnodup := h.nodup hmembers
    obtain ⟨written, hwritten, hset⟩ := removeAt_of_object name hmembers
    obtain ⟨rfl, rfl⟩ := Prod.mk.inj (hwritten.symm.trans hremove)
    refine ⟨(getSegments?_concat_of_object hmembers).symm, rfl, fun hnone => ?_, fun v hv => ?_⟩
    · rw [Entries.erase_of_not_mem ((Entries.get?_eq_none_iff name members).1 hnone),
        setSegments?_self hmembers] at hset
      exact (Option.some.inj hset).symm
    · exact ⟨fun place => getSegments?_erased_of_extends hnodup hset,
        fun place => getSegments?_erased_of_apart hmembers hnodup hset,
        before, name, members, _, rfl, hmembers, getSegments?_of_setSegments? hset,
        Entries.vacated_erase hv⟩
  · have hnot := not_exists.1 hobject
    rw [removeAt_of_not_object hnot] at hremove
    cases hremove
    refine ⟨(getSegments?_concat_of_not_object hnot).symm, rfl, fun _ => rfl, fun v hv => ?_⟩
    cases hv

def filed : Value :=
  .object [("a", .object [("b", .bool true), ("c", .null), ("d", .array [])]), ("a.b", .string "x")]

theorem filed_remove :
    filed.Unambiguous ∧
    filed.remove "a.b" = (some (.bool true),
      .object [("a", .object [("d", .array []), ("c", .null)]), ("a.b", .string "x")]) ∧
    ∃ before name members left, Path.segments "a.b" = before ++ [name] ∧
      filed.getSegments? before = some (.object members) ∧
      (filed.remove "a.b").2.getSegments? before = some (.object left) ∧
      Entries.Vacated (name, .bool true) members left := by
  have hunambiguous : filed.Unambiguous := by decide
  have hremove : filed.remove "a.b" = (some (.bool true),
      .object [("a", .object [("d", .array []), ("c", .null)]), ("a.b", .string "x")]) := rfl
  refine ⟨hunambiguous, hremove, ?_⟩
  exact ((remove_takes_what_is_read hunambiguous hremove).2.2.2 _ rfl).2.2

end Value

end SortPipeline
