import SortPipeline.Document.Execution
import SortPipeline.Proofs.Sorting
import SortPipeline.Proofs.TotalPreorder

namespace SortPipeline

namespace Value

def compareAt (key : String × Direction) (a b : Value) : Ordering :=
  key.2.apply (compare? (a.getPath? key.1) (b.getPath? key.1))

theorem compareBy_eq (keys : List (String × Direction)) :
    compareBy keys = lexicographic compareAt keys := by
  funext a b
  induction keys with
  | nil => rfl
  | cons key rest ih => exact congrArg _ ih

theorem compareAt_swap (key : String × Direction) (a b : Value) :
    (compareAt key a b).swap = compareAt key b a :=
  apply_compare?_swap key.2 _ _

theorem compareAt_flip (key : String × Direction) (a b : Value) :
    compareAt (key.1, key.2.flip) a b = (compareAt key a b).swap :=
  Direction.apply_flip key.2 _

theorem transCmp_compareAt (key : String × Direction) :
    Std.TransCmp fun a b : Subtype Integral => compareAt key a.1 b.1 :=
  transCmp_apply (fun d => integral_getD fun _ hv => integral_of_getPath? d.2 hv) key.2

end Value

theorem SortKeys.compare_eq (keys : SortKeys) :
    keys.compare = lexicographic Value.compareAt keys.entries :=
  Value.compareBy_eq keys.entries

theorem SortKeys.transCmp_compare (keys : SortKeys) :
    Std.TransCmp fun a b : Subtype Value.Integral => keys.compare a.1 b.1 := by
  simp only [compare_eq]
  exact transCmp_lexicographic fun key _ => Value.transCmp_compareAt key

namespace Stage

/-- A sort stage gives back the documents it is given, none before another that is less; documents
that tie keep the order of their places. -/
theorem run_sort_stable (keys : SortKeys) {documents : List Value}
    (h : ∀ d ∈ documents, d.Integral) :
    ∃ out, run documents (.sort keys) = .ok out ∧ out.Perm documents ∧
      (out.Pairwise fun a b => keys.compare a b ≠ .gt) ∧
      ∃ placed : List (Value × Nat), placed.map (·.1) = out ∧ placed.Perm documents.zipIdx ∧
        placed.Pairwise fun x y => keys.compare x.1 y.1 = .eq → x.2 < y.2 := by
  exact ⟨StableSort.sortBy keys.compare documents, rfl, StableSort.sort_perm _ _,
    StableSort.stable_sortBy (SortKeys.transCmp_compare keys) h⟩

def newestFirst : SortKeys := ⟨[("seen.at", .descending), ("rank", .ascending)]⟩

def sightings : List Value :=
  [.object [("id", .string "a"), ("rank", .null)],
    .object [("id", .string "b"),
      ("seen", .object [("at", .object [("$date", .number (.int 0))])])],
    .object [("id", .string "c"), ("seen", .array [.number (.int (-7)), .object []])],
    .object [("id", .string "d"), ("seen", .object [("at",
      .object [("$date", .string "1970-01-01T00:00:00Z")])]), ("rank", .null)]]

theorem run_sort_sightings :
    (∀ d ∈ sightings, d.Integral) ∧
    ∃ out, run sightings (.sort newestFirst) = .ok out ∧ out.Perm sightings ∧
      (out.Pairwise fun a b => newestFirst.compare a b ≠ .gt) ∧
      ∃ placed : List (Value × Nat), placed.map (·.1) = out ∧ placed.Perm sightings.zipIdx ∧
        placed.Pairwise fun x y => newestFirst.compare x.1 y.1 = .eq → x.2 < y.2 := by
  have hintegral : ∀ d ∈ sightings, d.Integral := by decide
  exact ⟨hintegral, run_sort_stable newestFirst hintegral⟩

end Stage

end SortPipeline
