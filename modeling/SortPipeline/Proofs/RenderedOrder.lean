import SortPipeline.Document.Execution
import SortPipeline.Proofs.Rendering
import SortPipeline.Proofs.SortStage

/-! Sorting by rendered keys. A rendering merges what stands for one path: the place of the first
entry, the direction of the last. The keys themselves go by the first entry alone. So both order
documents in one way unless a repeated path changes its direction and comes to decide something. -/

namespace SortPipeline

theorem Direction.apply_eq_eq_iff {d : Direction} {o : Ordering} : d.apply o = .eq ↔ o = .eq := by
  cases d <;> cases o <;> decide

namespace Value

def differ (a b : Value) (path : String) : Bool :=
  compare? (a.getPath? path) (b.getPath? path) != .eq

theorem compareBy_of_find?_none {a b : Value} {keys : List (String × Direction)}
    (h : (Entries.names keys).find? (differ a b) = none) : compareBy keys a b = .eq := by
  induction keys with
  | nil => rfl
  | cons key rest ih =>
    obtain ⟨hkey, hrest⟩ := List.forall_mem_cons.1 (List.find?_eq_none.1 h)
    have htie : compare? (a.getPath? key.1) (b.getPath? key.1) = .eq := by
      simpa [differ] using hkey
    rw [compareBy, Direction.apply_eq_eq_iff.2 htie]
    exact ih (List.find?_eq_none.2 hrest)

theorem compareBy_of_find?_some {a b : Value} {keys : List (String × Direction)} {path : String}
    {d : Direction} (h : (Entries.names keys).find? (differ a b) = some path)
    (hd : Entries.get? path keys = some d) :
    compareBy keys a b = d.apply (compare? (a.getPath? path) (b.getPath? path)) := by
  induction keys with
  | nil => cases h
  | cons key rest ih =>
    obtain ⟨first, direction⟩ := key
    by_cases htie : compare? (a.getPath? first) (b.getPath? first) = .eq
    · have hrest : (Entries.names rest).find? (differ a b) = some path := by
        simpa [differ, htie] using h
      have hne : first ≠ path := by
        rintro rfl
        simpa [differ, htie] using List.find?_some h
      rw [Entries.get?, if_neg hne] at hd
      rw [compareBy, Direction.apply_eq_eq_iff.2 htie]
      exact ih hrest hd
    · obtain rfl : first = path := by simpa [differ, htie] using h
      obtain rfl : direction = d := by simpa [Entries.get?] using hd
      rw [compareBy]
      cases hc : direction.apply (compare? (a.getPath? first) (b.getPath? first)) with
      | eq => exact absurd (Direction.apply_eq_eq_iff.1 hc) htie
      | lt | gt => rfl

theorem exists_of_dateMillis? {members : List (String × Value)} (h : (dateMillis? members).isSome) :
    ∃ v, members = [("$date", v)] ∧ v.members? = none := by
  unfold dateMillis? at h
  split at h
  · exact ⟨_, rfl, rfl⟩
  · exact ⟨_, rfl, rfl⟩
  · cases h

theorem getSegments?_of_dateMillis? {members : List (String × Value)} {segments : List String}
    (h : (dateMillis? members).isSome) (hne : segments ≠ [])
    (hlast : segments.getLast? ≠ some "$date") : (object members).getSegments? segments = none := by
  obtain ⟨v, rfl, hv⟩ := exists_of_dateMillis? h
  cases segments with
  | nil => exact absurd rfl hne
  | cons s rest =>
    rw [getSegments?, member?, Entries.get?]
    split
    · next hs =>
      have hrest : rest ≠ [] := fun hrest => hlast (by simp [hrest, ← hs])
      exact getSegments?_of_members?_none hv hrest
    · rfl

theorem compare?_get? {as bs : List (String × Value)} (h : compareMembers as bs = .eq)
    (name : String) : compare? (Entries.get? name as) (Entries.get? name bs) = .eq := by
  match as, bs with
  | [], [] => rfl
  | [], _ :: _ | _ :: _, [] => cases h
  | (m, a) :: as, (n, b) :: bs =>
    simp only [compareMembers, Ordering.then_eq_eq] at h
    obtain ⟨⟨hvalue, hname⟩, hrest⟩ := h
    obtain rfl : m = n := Std.LawfulEqOrd.eq_of_compare hname
    by_cases hm : m = name
    · rw [Entries.get?, Entries.get?, if_pos hm, if_pos hm]
      exact hvalue
    · rw [Entries.get?, Entries.get?, if_neg hm, if_neg hm]
      exact compare?_get? hrest name

/-- What ties at a path ties beyond it, except that dates of one instant may be written in two
ways. -/
theorem compare?_bind_getSegments? {x y : Option Value} {segments : List String}
    (h : compare? x y = .eq) (hlast : segments.getLast? ≠ some "$date") :
    compare? (x.bind (getSegments? segments)) (y.bind (getSegments? segments)) = .eq := by
  induction segments generalizing x y with
  | nil => simpa [getSegments?] using h
  | cons s rest ih =>
    have hrest : rest.getLast? ≠ some "$date" := by
      intro hdate
      rw [List.getLast?_cons, hdate] at hlast
      exact hlast rfl
    have hbind (z : Option Value) : z.bind (getSegments? (s :: rest)) =
        (z.getD .null).getSegments? (s :: rest) := by
      cases z <;> rfl
    rw [compare?] at h
    rw [hbind, hbind]
    generalize x.getD .null = v at h ⊢
    generalize y.getD .null = w at h ⊢
    cases alike_of_rank_eq (rank_eq_of_compare_eq h) with
    | null | bool | number | string | array => rfl
    | date has hbs =>
      rw [getSegments?_of_dateMillis? (Option.isSome_of_eq_some has) (List.cons_ne_nil _ _) hlast,
        getSegments?_of_dateMillis? (Option.isSome_of_eq_some hbs) (List.cons_ne_nil _ _) hlast]
      rfl
    | object has hbs =>
      simp only [compare, has, hbs] at h
      exact ih (compare?_get? h s) hrest

theorem differ_eq_false_of_leads {a b : Value} {path other : String}
    (hleads : Path.segments other <+: Path.segments path)
    (hlast : (Path.segments path).getLast? ≠ some "$date") (h : differ a b other = false) :
    differ a b path = false := by
  obtain ⟨beyond, hbeyond⟩ := hleads
  have hdate : beyond.getLast? ≠ some "$date" := by
    intro hdate
    rw [← hbeyond, List.getLast?_append, hdate] at hlast
    exact hlast rfl
  simp only [differ, bne_eq_false_iff_eq] at h ⊢
  rw [getPath?, getPath?, ← hbeyond, getSegments?_append, getSegments?_append]
  exact compare?_bind_getSegments? h hdate

def nest : List String → Value → Value
  | [], v => v
  | s :: rest, v => .object [(s, nest rest v)]

theorem getSegments?_nest (segments beyond : List String) (v : Value) :
    (nest (segments ++ beyond) v).getSegments? segments = some (nest beyond v) := by
  induction segments with
  | nil => rfl
  | cons s rest ih => simpa [nest, getSegments?, member?, Entries.get?] using ih

theorem getPath?_nest (path : String) (v : Value) :
    (nest (Path.segments path) v).getPath? path = some v := by
  have h := getSegments?_nest (Path.segments path) [] v
  rwa [List.append_nil] at h

theorem getSegments?_nest_eq_none {path other : List String} {v : Value}
    (hv : v.members? = none) (h : ¬other <+: path) : (nest path v).getSegments? other = none := by
  induction other generalizing path with
  | nil => exact absurd List.nil_prefix h
  | cons s rest ih =>
    cases path with
    | nil => exact getSegments?_of_members?_none hv (List.cons_ne_nil s rest)
    | cons t path =>
      by_cases hts : t = s
      · have hrest : ¬rest <+: path := fun hrest => h (hts ▸ List.cons_prefix_cons.2 ⟨rfl, hrest⟩)
        simpa [nest, getSegments?, member?, Entries.get?, hts] using ih hrest
      · simp [nest, getSegments?, member?, Entries.get?, hts]

def epochMillis : Value := .number (.int 0)

def epochText : Value := .string "1970-01-01T00:00:00Z"

theorem compare?_nest_epoch (path : String) :
    compare? ((nest (Path.segments path) epochMillis).getPath? path)
      ((nest (Path.segments path) epochText).getPath? path) = .lt := by
  rw [getPath?_nest, getPath?_nest]
  rfl

theorem compare_nest_epoch {segments : List String} (hlast : segments.getLast? = some "$date") :
    (nest segments epochMillis).compare (nest segments epochText) = .eq := by
  match segments with
  | [] => cases hlast
  | [s] =>
    obtain rfl : s = "$date" := Option.some.inj hlast
    decide +kernel
  | s :: t :: rest =>
    have hrest : (t :: rest).getLast? = some "$date" := by simpa using hlast
    have ih := compare_nest_epoch hrest
    have hnone (members : List (String × Value)) : dateMillis? [(s, .object members)] = none := by
      unfold dateMillis?
      split <;> simp_all
    have hmembers : (nest (s :: t :: rest) epochMillis).compare (nest (s :: t :: rest) epochText) =
        compareMembers [(s, nest (t :: rest) epochMillis)] [(s, nest (t :: rest) epochText)] := by
      simp only [nest, compare, hnone]
    simp [hmembers, compareMembers, ih]

end Value

namespace SortKeys

def last? (path : String) (keys : SortKeys) : Option Direction :=
  Entries.get? path keys.entries.reverse

/-- A path that leads to this one comes before it, so whatever ties there ties here. Only the
instant of a date can be written in two ways. -/
def Shadowed (path : String) (keys : SortKeys) : Prop :=
  (Path.segments path).getLast? ≠ some "$date" ∧
    ∃ other ∈ (Entries.names keys.entries).takeWhile (· ≠ path),
      Path.segments other <+: Path.segments path

/-- A path that can come to decide is given last the direction that it was given first. -/
def Steady (keys : SortKeys) : Prop :=
  ∀ path, keys.get? path = keys.last? path ∨ keys.Shadowed path

theorem not_shadowed_of_find? {keys : SortKeys} {a b : Value} {path : String}
    (h : (Entries.names keys.entries).find? (Value.differ a b) = some path) :
    ¬keys.Shadowed path := by
  rintro ⟨hlast, other, hother, hleads⟩
  obtain ⟨-, hdiffer, hbefore⟩ := find?_eq_some_iff_takeWhile.1 h
  have htie : Value.differ a b other = false := Bool.eq_false_iff.2 (hbefore other hother)
  rw [Value.differ_eq_false_of_leads hleads hlast htie] at hdiffer
  cases hdiffer

theorem Steady.compare_ofList {keys : SortKeys} (h : keys.Steady) (a b : Value) :
    (SortKeys.ofList keys.entries).compare a b = keys.compare a b := by
  have hfind := Entries.find?_names_ofList (Value.differ a b) keys.entries
  cases hfirst : (Entries.names keys.entries).find? (Value.differ a b) with
  | none =>
    rw [SortKeys.compare, SortKeys.compare, Value.compareBy_of_find?_none hfirst]
    exact Value.compareBy_of_find?_none (hfind.trans hfirst)
  | some path =>
    have hmem : path ∈ Entries.names keys.entries := List.mem_of_find?_eq_some hfirst
    obtain ⟨d, hd⟩ := Entries.exists_get? hmem
    have hsame : keys.get? path = keys.last? path :=
      (h path).resolve_right (not_shadowed_of_find? hfirst)
    have hmerged : Entries.get? path (Entries.ofList keys.entries) = some d := by
      rw [Entries.get?_ofList]
      exact hsame.symm.trans hd
    rw [SortKeys.compare, SortKeys.compare, Value.compareBy_of_find?_some hfirst hd]
    exact Value.compareBy_of_find?_some (hfind.trans hfirst) hmerged

theorem find?_differ_nest {keys : SortKeys} {path : String}
    (hmem : path ∈ Entries.names keys.entries) (hshadow : ¬keys.Shadowed path) :
    (Entries.names keys.entries).find? (Value.differ
      (Value.nest (Path.segments path) Value.epochMillis)
      (Value.nest (Path.segments path) Value.epochText)) = some path := by
  refine find?_eq_some_iff_takeWhile.2 ⟨hmem, ?_, fun other hother => ?_⟩
  · rw [Value.differ, Value.compare?_nest_epoch]
    rfl
  · simp only [Value.differ, bne_iff_ne, ne_eq, not_not]
    by_cases hleads : Path.segments other <+: Path.segments path
    · have hlast : (Path.segments path).getLast? = some "$date" := by
        by_contra hlast
        exact hshadow ⟨hlast, other, hother, hleads⟩
      obtain ⟨beyond, hbeyond⟩ := hleads
      have hne : beyond ≠ [] := by
        rintro rfl
        have hsame : other = path := Path.segments_inj (by simpa using hbeyond)
        simpa [hsame] using List.all_eq_true.1 List.all_takeWhile other hother
      rw [← hbeyond, List.getLast?_append_of_ne_nil _ hne] at hlast
      rw [Value.getPath?, Value.getPath?, ← hbeyond, Value.getSegments?_nest,
        Value.getSegments?_nest]
      exact Value.compare_nest_epoch hlast
    · rw [Value.getPath?, Value.getPath?, Value.getSegments?_nest_eq_none rfl hleads,
        Value.getSegments?_nest_eq_none rfl hleads]
      rfl

theorem steady_of_compare_ofList {keys : SortKeys}
    (h : ∀ a b, (SortKeys.ofList keys.entries).compare a b = keys.compare a b) : keys.Steady := by
  intro path
  by_contra hnot
  obtain ⟨hturned, hshadow⟩ := not_or.1 hnot
  have hreverse :
      path ∈ Entries.names keys.entries.reverse ↔ path ∈ Entries.names keys.entries := by
    simp [Entries.names]
  by_cases hmem : path ∈ Entries.names keys.entries
  · obtain ⟨d, hd⟩ := Entries.exists_get? hmem
    obtain ⟨d', hd'⟩ := Entries.exists_get? (hreverse.2 hmem)
    have hfind := find?_differ_nest hmem hshadow
    have hkeys := Value.compareBy_of_find?_some hfind hd
    have hmerged := Value.compareBy_of_find?_some
      ((Entries.find?_names_ofList _ _).trans hfind) ((Entries.get?_ofList _ _).trans hd')
    rw [Value.compare?_nest_epoch] at hkeys hmerged
    have hsame : d'.apply .lt = d.apply .lt := hmerged.symm.trans ((h _ _).trans hkeys)
    refine hturned (hd.trans (Eq.trans ?_ hd'.symm))
    cases d <;> cases d' <;> first | rfl | cases hsame
  · apply hturned
    rw [get?, last?, (Entries.get?_eq_none_iff _ _).2 hmem,
      (Entries.get?_eq_none_iff _ _).2 (hreverse.not.2 hmem)]

theorem steady_of_built {keys : SortKeys} (h : keys.Built) : keys.Steady := by
  intro path
  have hmerged := Entries.get?_ofList path keys.entries
  rw [Entries.ofList_eq_self h.nodup] at hmerged
  exact .inl hmerged

theorem ofRendered?_render_sort (keys : SortKeys) :
    Stage.ofRendered? (Stage.sort keys).render = some (.sort (.ofList keys.entries)) := by
  have hrender : keys.render = .object ((Entries.ofList keys.entries).map fun e =>
      (e.1, .number (.int e.2.sign))) :=
    congrArg Value.object
      (Entries.ofList_map (fun d : Direction => Value.number (.int d.sign)) keys.entries)
  rw [Stage.render, hrender, Stage.ofRendered?, mapM_map_eq_some]
  · rfl
  · rintro ⟨path, d⟩ -
    cases d <;> rfl

/-- Keys that were set one by one or collected order documents as their rendering does. Stored keys
need not: they do exactly if they are steady. -/
theorem compare_rendered (keys : SortKeys) :
    ∃ read, Stage.ofRendered? (Stage.sort keys).render = some (.sort read) ∧
      (keys.Built → ∀ a b, read.compare a b = keys.compare a b) ∧
      ((∀ a b, read.compare a b = keys.compare a b) ↔ keys.Steady) :=
  ⟨.ofList keys.entries, ofRendered?_render_sort keys,
    fun h => (steady_of_built h).compare_ofList,
    ⟨steady_of_compare_ofList, Steady.compare_ofList⟩⟩

theorem not_every_rendering_agrees :
    ∃ keys read, SortKeys.ofValue? (.array [.array [.string "v", .string "ascending"],
        .array [.string "v", .string "descending"]]) = some keys ∧
      Stage.ofRendered? (Stage.sort keys).render = some (.sort read) ∧
      ∃ a b, read.compare a b = .gt ∧ keys.compare a b = .lt :=
  ⟨⟨[("v", .ascending), ("v", .descending)]⟩, ⟨[("v", .descending)]⟩, rfl, rfl,
    .object [("v", .number (.int 1))], .object [("v", .number (.int 2))], by decide +kernel⟩

end SortKeys

end SortPipeline
