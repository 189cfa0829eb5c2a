import Mathlib.Data.List.Induction
import Mathlib.Data.List.Nodup
import SortPipeline.Entries
import SortPipeline.Proofs.ListLaws

universe u v

namespace SortPipeline.Entries

variable {α : Type u} {β : Type v}

@[simp] theorem names_nil : names ([] : List (String × α)) = [] := rfl

@[simp] theorem names_cons (e : String × α) (es : List (String × α)) :
    names (e :: es) = e.1 :: names es := rfl

@[simp] theorem names_append (es fs : List (String × α)) :
    names (es ++ fs) = names es ++ names fs := List.map_append

theorem get?_eq_none_iff (name : String) (es : List (String × α)) :
    get? name es = none ↔ name ∉ names es := by
  induction es with
  | nil => simp [get?]
  | cons e rest ih =>
    by_cases h : e.1 = name
    · simp [get?, h]
    · simp [get?, h, ih, Ne.symm h]

theorem exists_get? {name : String} {es : List (String × α)} (h : name ∈ names es) :
    ∃ value, get? name es = some value := by
  rw [← Option.ne_none_iff_exists']
  exact (get?_eq_none_iff name es).not_left.2 h

theorem get?_eq_find? (name : String) (es : List (String × α)) :
    get? name es = (es.find? (·.1 = name)).map (·.2) := by
  induction es with
  | nil => rfl
  | cons e rest ih => by_cases h : e.1 = name <;> simp [get?, h, ih]

theorem get?_of_mem {e : String × α} {es : List (String × α)} (hes : (names es).Nodup)
    (h : e ∈ es) : get? e.1 es = some e.2 := by
  induction es with
  | nil => simp at h
  | cons f rest ih =>
    obtain ⟨hfresh, hrest⟩ : f.1 ∉ names rest ∧ (names rest).Nodup := List.nodup_cons.1 hes
    rcases List.mem_cons.1 h with rfl | h
    · simp [get?]
    · have hmem : e.1 ∈ names rest := List.mem_map_of_mem h
      have hne : f.1 ≠ e.1 := fun heq => hfresh (heq ▸ hmem)
      simp [get?, hne, ih hrest h]

theorem filter_eq_singleton {e : String × α} {es : List (String × α)} (hes : (names es).Nodup)
    (h : e ∈ es) : es.filter (·.1 = e.1) = [e] := by
  induction es with
  | nil => cases h
  | cons f rest ih =>
    obtain ⟨hfresh, hrest⟩ : f.1 ∉ names rest ∧ (names rest).Nodup := List.nodup_cons.1 hes
    rcases List.mem_cons.1 h with rfl | h
    · have hnone : rest.filter (·.1 = e.1) = [] := by
        refine List.filter_eq_nil_iff.2 fun f hf hsame => hfresh ?_
        exact of_decide_eq_true hsame ▸ List.mem_map_of_mem hf
      simp [hnone]
    · have hmem : e.1 ∈ names rest := List.mem_map_of_mem h
      have hne : f.1 ≠ e.1 := fun heq => hfresh (heq ▸ hmem)
      simp [hne, ih hrest h]

theorem mem_of_get? {name : String} {value : α} {es : List (String × α)}
    (h : get? name es = some value) : (name, value) ∈ es := by
  induction es with
  | nil => cases h
  | cons e rest ih =>
    by_cases hn : e.1 = name
    · rw [get?, if_pos hn] at h
      simp [← hn, ← Option.some.inj h]
    · rw [get?, if_neg hn] at h
      exact .tail e (ih h)

theorem get?_append (name : String) (es fs : List (String × α)) :
    get? name (es ++ fs) = (get? name es).or (get? name fs) := by
  induction es with
  | nil => rfl
  | cons e rest ih => by_cases h : e.1 = name <;> simp [get?, h, ih]

theorem get?_map (name : String) (keys : List String) (f : String → α) :
    get? name (keys.map fun k => (k, f k)) = if name ∈ keys then some (f name) else none := by
  induction keys with
  | nil => rfl
  | cons k rest ih =>
    by_cases h : k = name
    · simp [get?, h]
    · simp [get?, h, ih, Ne.symm h]

theorem set_of_not_mem {name : String} {value : α} {es : List (String × α)}
    (h : name ∉ names es) : set name value es = es ++ [(name, value)] := by
  induction es with
  | nil => rfl
  | cons e rest ih =>
    obtain ⟨hne, hrest⟩ := not_or.1 (List.mem_cons.not.1 h)
    simp [set, Ne.symm hne, ih hrest]

theorem names_set_of_mem {name : String} {value : α} {es : List (String × α)}
    (h : name ∈ names es) : names (set name value es) = names es := by
  induction es with
  | nil => simp at h
  | cons e rest ih =>
    by_cases hn : e.1 = name
    · simp [set, hn]
    · have hrest : name ∈ names rest := by simpa [Ne.symm hn] using h
      simp [set, hn, ih hrest]

theorem names_set (name : String) (value : α) (es : List (String × α)) :
    names (set name value es) = if name ∈ names es then names es else names es ++ [name] := by
  split
  · next h => exact names_set_of_mem h
  · next h => rw [set_of_not_mem h, names_append, names_cons, names_nil]

theorem insert_eq (name : String) (value : α) (es : List (String × α)) :
    insert name value es = (set name value es, decide (name ∉ names es)) := by
  induction es with
  | nil => rfl
  | cons e rest ih =>
    by_cases hn : e.1 = name
    · simp [insert, set, hn]
    · simp [insert, set, hn, ih, Ne.symm hn]

theorem set_of_get? {name : String} {value : α} {es : List (String × α)}
    (h : get? name es = some value) : set name value es = es := by
  induction es with
  | nil => cases h
  | cons e rest ih =>
    by_cases hn : e.1 = name
    · rw [get?, if_pos hn] at h
      rw [set, if_pos hn, ← Option.some.inj h]
    · rw [get?, if_neg hn] at h
      rw [set, if_neg hn, ih h]

theorem nodup_names_set (name : String) (value : α) {es : List (String × α)}
    (h : (names es).Nodup) : (names (set name value es)).Nodup := by
  by_cases hmem : name ∈ names es
  · rw [names_set_of_mem hmem]
    exact h
  · rw [set_of_not_mem hmem, names_append]
    exact h.append (List.nodup_singleton name) (List.disjoint_singleton.2 hmem)

theorem nodup_names_ofList (es : List (String × α)) : (names (ofList es)).Nodup :=
  List.foldlRecOn (motive := fun built => (names built).Nodup) es _ .nil
    fun _ h e _ => nodup_names_set e.1 e.2 h

theorem ofList_eq_self {es : List (String × α)} (h : (names es).Nodup) : ofList es = es := by
  have hset : ∀ built : List (String × α), (names (built ++ es)).Nodup →
      es.foldl (fun es e => set e.1 e.2 es) built = built ++ es := by
    clear h
    induction es with
    | nil => simp
    | cons e es ih =>
      intro built hnames
      have hnew : e.1 ∉ names built := by
        rw [names_append, names_cons] at hnames
        exact fun hmem => List.disjoint_of_nodup_append hnames hmem (.head _)
      rw [List.foldl_cons, set_of_not_mem hnew, ih _ (by simpa using hnames), List.append_assoc]
      rfl
  exact hset [] h

theorem ofList_concat (es : List (String × α)) (e : String × α) :
    ofList (es ++ [e]) = set e.1 e.2 (ofList es) :=
  List.foldl_concat _ _ _ _

theorem names_ofList (es : List (String × α)) : names (ofList es) = (names es).eraseDups := by
  induction es using List.reverseRecOn with
  | nil => rfl
  | append_singleton es e ih =>
    rw [ofList_concat, names_set, ih, names_append, names_cons, names_nil, eraseDups_concat]
    simp only [List.mem_eraseDups]

theorem mem_names_ofList {name : String} {es : List (String × α)} :
    name ∈ names (ofList es) ↔ name ∈ names es := by
  rw [names_ofList, List.mem_eraseDups]

theorem get?_ofList (name : String) (es : List (String × α)) :
    get? name (ofList es) = get? name es.reverse := by
  induction es using List.reverseRecOn with
  | nil => rfl
  | append_singleton es e ih =>
    rw [ofList_concat, get?_set, List.reverse_append, ih]
    rfl

theorem find?_names_set (p : String → Bool) (name : String) (value : α) (es : List (String × α)) :
    (names (set name value es)).find? p = (names es ++ [name]).find? p := by
  by_cases h : name ∈ names es
  · rw [names_set_of_mem h, List.find?_append]
    cases hfind : (names es).find? p with
    | none =>
      have hp : ¬p name := List.find?_eq_none.1 hfind name h
      simp [hp]
    | some first => rfl
  · rw [set_of_not_mem h, names_append]
    rfl

theorem find?_names_ofList (p : String → Bool) (es : List (String × α)) :
    (names (ofList es)).find? p = (names es).find? p := by
  induction es using List.reverseRecOn with
  | nil => rfl
  | append_singleton es e ih =>
    rw [ofList_concat, find?_names_set, List.find?_append, ih, ← List.find?_append, names_append]
    rfl

theorem get?_map_snd (f : α → β) (name : String) (es : List (String × α)) :
    get? name (es.map fun e => (e.1, f e.2)) = (get? name es).map f := by
  induction es with
  | nil => rfl
  | cons e rest ih => by_cases h : e.1 = name <;> simp [get?, h, ih]

theorem set_map (f : α → β) (name : String) (value : α) (es : List (String × α)) :
    set name (f value) (es.map fun e => (e.1, f e.2)) =
      (set name value es).map fun e => (e.1, f e.2) := by
  induction es with
  | nil => rfl
  | cons e rest ih => by_cases h : e.1 = name <;> simp [set, h, ih]

theorem ofList_map (f : α → β) (es : List (String × α)) :
    ofList (es.map fun e => (e.1, f e.2)) = (ofList es).map fun e => (e.1, f e.2) := by
  induction es using List.reverseRecOn with
  | nil => rfl
  | append_singleton es e ih =>
    rw [List.map_append, List.map_singleton, ofList_concat, ofList_concat, ih]
    exact set_map f e.1 e.2 (ofList es)

theorem erase_append_of_not_mem {name : String} {es : List (String × α)} (h : name ∉ names es)
    (fs : List (String × α)) : erase name (es ++ fs) = es ++ erase name fs := by
  induction es with
  | nil => rfl
  | cons e rest ih =>
    obtain ⟨hne, hrest⟩ := not_or.1 (List.mem_cons.not.1 h)
    simp [erase, Ne.symm hne, ih hrest]

theorem erase_of_not_mem {name : String} {es : List (String × α)} (h : name ∉ names es) :
    erase name es = es := by
  simpa [erase] using erase_append_of_not_mem h []

theorem cons_erase_perm {name : String} {value : α} {es : List (String × α)}
    (h : get? name es = some value) : ((name, value) :: erase name es).Perm es := by
  induction es with
  | nil => cases h
  | cons e rest ih =>
    obtain ⟨n, v⟩ := e
    by_cases hn : n = name
    · obtain rfl : v = value := by simpa [get?, hn] using h
      rw [erase, if_pos hn, ← hn]
      -- The last entry comes to the front.
      cases hlast : rest.getLast? with
      | none => simp [List.getLast?_eq_none_iff.1 hlast]
      | some last =>
        obtain ⟨init, rfl⟩ := List.getLast?_eq_some_iff.1 hlast
        simp [List.perm_append_singleton, List.Perm.symm]
    · rw [get?, if_neg hn] at h
      rw [erase, if_neg hn]
      exact (List.Perm.swap (n, v) (name, value) _).trans ((ih h).cons (n, v))

theorem names_erase_perm (name : String) (es : List (String × α)) :
    (names (erase name es)).Perm ((names es).erase name) := by
  cases hget : get? name es with
  | none =>
    have hnot : name ∉ names es := (get?_eq_none_iff name es).1 hget
    rw [erase_of_not_mem hnot, List.erase_of_not_mem hnot]
  | some value =>
    have hperm := cons_erase_perm hget
    have hmem : name ∈ names es := List.mem_map_of_mem (hperm.mem_iff.1 (.head _))
    exact ((hperm.map (·.1)).trans (List.perm_cons_erase hmem)).cons_inv

theorem not_mem_names_erase (name : String) {es : List (String × α)} (h : (names es).Nodup) :
    name ∉ names (erase name es) :=
  fun hmem => h.not_mem_erase ((names_erase_perm name es).mem_iff.1 hmem)

theorem nodup_names_erase (name : String) {es : List (String × α)} (h : (names es).Nodup) :
    (names (erase name es)).Nodup :=
  (names_erase_perm name es).nodup_iff.2 (h.erase name)

theorem eq_of_names_eq {es fs : List (String × α)} (hes : (names es).Nodup)
    (hnames : names es = names fs) (hget : ∀ name, get? name es = get? name fs) : es = fs := by
  induction es generalizing fs with
  | nil => cases fs <;> simp_all
  | cons e rest ih =>
    cases fs with
    | nil => simp at hnames
    | cons f fs =>
      obtain ⟨hhead, htail⟩ : e.1 = f.1 ∧ names rest = names fs := List.cons.inj hnames
      obtain ⟨hfresh, hrest⟩ := List.nodup_cons.1 hes
      have hvalue : e.2 = f.2 := by
        simpa [get?, ← hhead] using hget e.1
      have htails : ∀ name, get? name rest = get? name fs := by
        intro name
        by_cases hn : e.1 = name
        · subst hn
          rw [(get?_eq_none_iff _ _).2 hfresh, (get?_eq_none_iff _ _).2 (htail ▸ hfresh)]
        · have hf : f.1 ≠ name := fun hf => hn (hhead.trans hf)
          simpa [get?, hn, hf] using hget name
      rw [ih hrest htail htails, show e = f from Prod.ext hhead hvalue]

theorem get?_eq_some_iff_mem {name : String} {value : α} {es : List (String × α)}
    (hes : (names es).Nodup) : get? name es = some value ↔ (name, value) ∈ es :=
  ⟨mem_of_get?, get?_of_mem hes⟩

theorem get?_of_perm {es fs : List (String × α)} (hes : (names es).Nodup) (h : es.Perm fs)
    (name : String) : get? name es = get? name fs := by
  have hfs : (names fs).Nodup := (h.map Prod.fst).nodup hes
  ext value
  rw [get?_eq_some_iff_mem hes, get?_eq_some_iff_mem hfs, h.mem_iff]

theorem get?_erase {name : String} {es : List (String × α)} (hes : (names es).Nodup)
    (other : String) :
    get? other (erase name es) = if name = other then none else get? other es := by
  split
  · next h =>
    rw [get?_eq_none_iff, ← h]
    exact not_mem_names_erase name hes
  · next h =>
    cases hget : get? name es with
    | none => rw [erase_of_not_mem ((get?_eq_none_iff name es).1 hget)]
    | some value =>
      rw [get?_of_perm hes (cons_erase_perm hget).symm other, get?, if_neg h]

/-- The entry is gone, and the last one stands in its place, unless it was the last one itself. -/
inductive Vacated (e : String × α) : List (String × α) → List (String × α) → Prop
  | last (before : List (String × α)) : Vacated e (before ++ [e]) before
  | filled (before between : List (String × α)) (last : String × α) :
      Vacated e (before ++ e :: (between ++ [last])) (before ++ last :: between)

theorem vacated_erase {name : String} {value : α} {es : List (String × α)}
    (h : get? name es = some value) : Vacated (name, value) es (erase name es) := by
  induction es with
  | nil => cases h
  | cons e rest ih =>
    obtain ⟨n, v⟩ := e
    by_cases hn : n = name
    · obtain rfl : v = value := by simpa [get?, hn] using h
      rw [erase, if_pos hn, ← hn]
      cases hlast : rest.getLast? with
      | none =>
        rw [List.getLast?_eq_none_iff.1 hlast]
        exact .last []
      | some last =>
        obtain ⟨between, rfl⟩ := List.getLast?_eq_some_iff.1 hlast
        simpa using Vacated.filled (e := (n, v)) [] between last
    · rw [get?, if_neg hn] at h
      rw [erase, if_neg hn]
      have hrest := ih h
      generalize erase name rest = left at hrest ⊢
      cases hrest with
      | last => exact .last ((n, v) :: left)
      | filled before between last => exact .filled ((n, v) :: before) between last

def without (keys : List String) (es : List (String × α)) : List (String × α) :=
  es.filter fun e => e.1 ∉ keys

theorem without_eq_self {keys : List String} {es : List (String × α)}
    (h : ∀ k ∈ keys, k ∉ names es) : without keys es = es :=
  List.filter_eq_self.2 fun _ he => decide_eq_true fun hkey => h _ hkey (List.mem_map_of_mem he)

theorem without_eq_nil {keys : List String} {es : List (String × α)} (h : names es ⊆ keys) :
    without keys es = [] :=
  List.filter_eq_nil_iff.2 fun _ he => by simpa using h (List.mem_map_of_mem he)

theorem without_cons (key : String) (keys : List String) (es : List (String × α)) :
    without (key :: keys) es = without keys (without [key] es) := by
  simp [without, List.filter_filter, Bool.and_comm]

theorem get?_without {keys : List String} {name : String} (h : name ∉ keys)
    (es : List (String × α)) : get? name (without keys es) = get? name es := by
  unfold without
  induction es with
  | nil => rfl
  | cons e rest ih =>
    by_cases hn : e.1 = name
    · rw [List.filter_cons_of_pos (by simpa [hn] using h), get?, get?, if_pos hn, if_pos hn]
    · by_cases hkey : e.1 ∈ keys
      · rw [List.filter_cons_of_neg (by simpa using hkey), get?, if_neg hn, ih]
      · rw [List.filter_cons_of_pos (by simpa using hkey), get?, get?, if_neg hn, if_neg hn, ih]

theorem without_set {keys : List String} {name : String} (h : name ∈ keys) (value : α)
    (es : List (String × α)) : without keys (set name value es) = without keys es := by
  unfold without
  induction es with
  | nil => simp [set, h]
  | cons e rest ih =>
    by_cases hn : e.1 = name
    · simp [set, hn, h]
    · simp only [set, hn, if_false, List.filter_cons, ih]

theorem erase_perm_without (name : String) {es : List (String × α)} (h : (names es).Nodup) :
    (erase name es).Perm (without [name] es) := by
  rw [← without_eq_self (List.forall_mem_singleton.2 (not_mem_names_erase name h))]
  cases hget : get? name es with
  | none => rw [erase_of_not_mem ((get?_eq_none_iff name es).1 hget)]
  | some value =>
    have hperm := (cons_erase_perm hget).filter fun e => e.1 ∉ [name]
    rwa [List.filter_cons_of_neg (by simp)] at hperm

def present (es : List (String × Option α)) : List (String × α) :=
  es.filterMap fun e => e.2.map (e.1, ·)

theorem names_present_sublist (es : List (String × Option α)) :
    (names (present es)).Sublist (names es) := by
  induction es with
  | nil => exact .slnil
  | cons e rest ih =>
    obtain ⟨n, v⟩ := e
    cases v with
    | none => exact ih.cons n
    | some v => exact ih.cons_cons n

theorem get?_present (name : String) {es : List (String × Option α)} (hes : (names es).Nodup) :
    get? name (present es) = (get? name es).join := by
  induction es with
  | nil => rfl
  | cons e rest ih =>
    obtain ⟨n, v⟩ := e
    obtain ⟨hfresh, hrest⟩ := List.nodup_cons.1 hes
    by_cases h : n = name
    · subst h
      have hnone : get? n (present rest) = none :=
        (get?_eq_none_iff _ _).2 fun hmem => hfresh ((names_present_sublist rest).subset hmem)
      cases v <;> simp_all [present, get?]
    · cases v <;> simp_all [present, get?]

end SortPipeline.Entries
