import Mathlib.Data.Finset.Card
import SortPipeline.Proofs.Merging

namespace SortPipeline

namespace SortKeys

inductive Change
  | insert (path : String) (direction : Direction)
  | set (path : String) (direction : Direction)

def Change.entry : Change → String × Direction
  | insert path direction | set path direction => (path, direction)

def step (keys : SortKeys) : Change → SortKeys × Option Bool
  | .insert path direction =>
    let (keys, isNew) := keys.insert path direction
    (keys, some isNew)
  | .set path direction => (keys.set path direction, none)

def steps (keys : SortKeys) : List Change → SortKeys × List (Option Bool)
  | [] => (keys, [])
  | change :: rest =>
    let (keys, answer) := keys.step change
    let (keys, answers) := keys.steps rest
    (keys, answer :: answers)

theorem insert_eq (path : String) (direction : Direction) (keys : SortKeys) :
    keys.insert path direction =
      (keys.set path direction, decide (path ∉ Entries.names keys.entries)) := by
  rw [insert, Entries.insert_eq]
  rfl

theorem fst_step (keys : SortKeys) (change : Change) :
    (keys.step change).1 = keys.set change.entry.1 change.entry.2 := by
  cases change with
  | insert path direction => rw [step, insert_eq]; rfl
  | set path direction => rfl

theorem steps_append (keys : SortKeys) (before after : List Change) :
    keys.steps (before ++ after) =
      (((keys.steps before).1.steps after).1,
        (keys.steps before).2 ++ ((keys.steps before).1.steps after).2) := by
  induction before generalizing keys with
  | nil => rfl
  | cons change rest ih => simp only [List.cons_append, steps, ih]

theorem length_snd_steps (keys : SortKeys) (changes : List Change) :
    (keys.steps changes).2.length = changes.length := by
  induction changes generalizing keys with
  | nil => rfl
  | cons change rest ih => simp only [steps, List.length_cons, ih]

theorem getElem?_snd_steps (keys : SortKeys) (before : List Change) (path : String)
    (direction : Direction) (after : List Change) :
    (keys.steps (before ++ .insert path direction :: after)).2[before.length]? =
      some (some (decide (path ∉ Entries.names (keys.steps before).1.entries))) := by
  have hlength := length_snd_steps keys before
  rw [steps_append, List.getElem?_append_right hlength.le, hlength, Nat.sub_self, steps, step,
    insert_eq]
  exact List.getElem?_cons_zero

theorem fst_steps_empty (changes : List Change) :
    (empty.steps changes).1 = ofList (changes.map Change.entry) := by
  induction changes using List.reverseRecOn with
  | nil => rfl
  | append_singleton changes change ih =>
    rw [steps_append, List.map_append, List.map_singleton, ofList, Entries.ofList_concat, ih]
    exact fst_step _ change

theorem size_ofList (entries : List (String × Direction)) :
    (ofList entries).size = (Entries.names entries).toFinset.card := by
  have hsame : (Entries.names (ofList entries).entries).toFinset =
      (Entries.names entries).toFinset := by
    ext path
    rw [List.mem_toFinset, List.mem_toFinset]
    exact Entries.mem_names_ofList
  calc
    (ofList entries).size = (Entries.names (ofList entries).entries).length :=
      (List.length_map _).symm
    _ = (Entries.names (ofList entries).entries).toFinset.card :=
      (List.toFinset_card_of_nodup (Entries.nodup_names_ofList entries)).symm
    _ = (Entries.names entries).toFinset.card := by rw [hsame]

/-- What entries come to: each path once, where it comes first, with the direction it has last. -/
structure InsertionOrdered (entries : List (String × Direction)) (keys : SortKeys) : Prop where
  nodup : (Entries.names keys.entries).Nodup
  names_eq : Entries.names keys.entries = (Entries.names entries).eraseDups
  get?_eq : ∀ path, keys.get? path = (entries.findRev? (·.1 = path)).map (·.2)
  get?_eq_none_iff : ∀ path, keys.get? path = none ↔ path ∉ Entries.names entries
  size_eq : keys.size = (Entries.names entries).toFinset.card

theorem insertionOrdered_ofList (entries : List (String × Direction)) :
    InsertionOrdered entries (ofList entries) where
  nodup := Entries.nodup_names_ofList entries
  names_eq := Entries.names_ofList entries
  get?_eq path := by
    rw [List.findRev?_eq_find?_reverse, ← Entries.get?_eq_find?]
    exact Entries.get?_ofList path entries
  get?_eq_none_iff path :=
    (Entries.get?_eq_none_iff path _).trans (not_congr Entries.mem_names_ofList)
  size_eq := size_ofList entries

/-- Each path has one place, that of the first call for it, and the direction of the last call. A
path is told to be new exactly if no earlier call was for it. -/
theorem insertion_ordered :
    (∀ changes, InsertionOrdered (changes.map Change.entry) (empty.steps changes).1) ∧
    (∀ before path direction after,
      (empty.steps (before ++ .insert path direction :: after)).2[before.length]? =
        some (some (decide (path ∉ Entries.names (before.map Change.entry))))) ∧
    ∀ entries, InsertionOrdered entries (ofList entries) := by
  refine ⟨fun changes => ?_, fun before path direction after => ?_, insertionOrdered_ofList⟩
  · rw [fst_steps_empty]
    exact insertionOrdered_ofList _
  · rw [getElem?_snd_steps, fst_steps_empty]
    simp only [ofList, Entries.mem_names_ofList]

example : empty.steps [.insert "name" .ascending, .insert "score" .descending,
    .insert "name" .descending] =
    (⟨[("name", .descending), ("score", .descending)]⟩, [some true, some true, some false]) := rfl

end SortKeys

theorem Draft.add_eq_insert (d : Draft) (plan : FieldPlan) (direction : Direction) :
    d.add plan direction =
      let (keys, isNew) := d.keys.insert plan.sortPath direction
      ⟨keys, if isNew then d.temporaries ++ plan.assignment?.toList else d.temporaries⟩ := by
  rw [SortKeys.insert_eq]
  by_cases h : plan.sortPath ∈ Entries.names d.keys.entries
  · simp [add, SortKeys.contains_iff, h]
  · cases plan <;> simp_all [add, SortKeys.contains_iff, FieldPlan.assignment?]

end SortPipeline
