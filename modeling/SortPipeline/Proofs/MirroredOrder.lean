import SortPipeline.Proofs.SortStage

namespace SortPipeline

namespace SortKeys

theorem compare_swap (keys : SortKeys) (a b : Value) :
    (keys.compare a b).swap = keys.compare b a := by
  rw [compare_eq]
  exact lexicographic_swap fun key _ => Value.compareAt_swap key a b

theorem compare_flip (keys : SortKeys) (a b : Value) :
    keys.flip.compare a b = (keys.compare a b).swap := by
  rw [compare_eq, compare_eq, lexicographic, flip, List.foldr_map]
  exact (lexicographic_swap fun key _ => (Value.compareAt_flip key a b).symm).symm

/-- Values and documents compare the reverse way when they change places, and documents also when
every direction is flipped. -/
theorem compare_antisymmetric :
    (∀ a b : Option Value, Value.compare? b a = (Value.compare? a b).swap) ∧
    ∀ (keys : SortKeys) (a b : Value),
      keys.compare b a = (keys.compare a b).swap ∧ keys.compare b a = keys.flip.compare a b := by
  constructor
  · intro a b
    exact (Value.compare?_swap a b).symm
  · intro keys a b
    rw [keys.compare_flip, keys.compare_swap]
    exact ⟨rfl, rfl⟩

end SortKeys

namespace Stage

/-- Sorting by flipped directions is sorting the reversed batch, and reversing the result: also
documents that tie stand in the reverse order. -/
theorem run_sort_flip (keys : SortKeys) {documents : List Value}
    (h : ∀ d ∈ documents, d.Integral) :
    ∃ out, run documents.reverse (.sort keys) = .ok out ∧
      run documents (.sort keys.flip) = .ok out.reverse := by
  refine ⟨StableSort.sortBy keys.compare documents.reverse, rfl, ?_⟩
  have hflip : keys.flip.compare = fun a b => keys.compare b a := by
    funext a b
    rw [keys.compare_flip, keys.compare_swap]
  calc
    run documents (.sort keys.flip) = .ok (StableSort.sortBy keys.flip.compare documents) := rfl
    _ = .ok (StableSort.sortBy keys.compare documents.reverse).reverse := by
      rw [hflip, StableSort.sortBy_opposite_of_forall keys.transCmp_compare h]

theorem run_sort_flip_sightings :
    (∀ d ∈ sightings, d.Integral) ∧
    ∃ out, run sightings.reverse (.sort newestFirst) = .ok out ∧
      run sightings (.sort newestFirst.flip) = .ok out.reverse := by
  have hintegral : ∀ d ∈ sightings, d.Integral := by decide
  exact ⟨hintegral, run_sort_flip newestFirst hintegral⟩

end Stage

end SortPipeline
