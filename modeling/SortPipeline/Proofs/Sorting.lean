import SortPipeline.Document.StableSort
import SortPipeline.Proofs.ListLaws

universe u v

namespace SortPipeline.StableSort

variable {α : Type u} {β : Type v}

section Correspondence

variable {R : α → β → Prop} {less : α → α → Bool} {other : β → β → Bool}
  (hless : ∀ x x' y y', R x x' → R y y' → less x y = other x' y')

include hless

theorem forall₂_insert {x : α} {x' : β} {ys : List α} {ys' : List β} (hx : R x x')
    (h : List.Forall₂ R ys ys') : List.Forall₂ R (insert less x ys) (insert other x' ys') := by
  induction h with
  | nil => exact .cons hx .nil
  | cons hy hrest ih =>
    rw [insert, insert, hless _ _ _ _ hx hy]
    split
    · exact .cons hy ih
    · exact .cons hx (.cons hy hrest)

theorem forall₂_insertAll {sorted xs : List α} {sorted' xs' : List β}
    (hsorted : List.Forall₂ R sorted sorted') (h : List.Forall₂ R xs xs') :
    List.Forall₂ R (insertAll less sorted xs) (insertAll other sorted' xs') := by
  induction h generalizing sorted sorted' with
  | nil => exact hsorted
  | cons hx _ ih => exact ih (forall₂_insert hless hx hsorted)

theorem forall₂_sort {xs : List α} {xs' : List β} (h : List.Forall₂ R xs xs') :
    List.Forall₂ R (sort less xs) (sort other xs') :=
  List.rel_reverse (forall₂_insertAll hless .nil h)

theorem map_sort_eq {xs : List α} {xs' : List β} {f : β → α} (h : List.Forall₂ R xs xs')
    (hf : ∀ x x', R x x' → f x' = x) : (sort other xs').map f = sort less xs := by
  have hsame : List.Forall₂ (· = ·) (sort less xs) ((sort other xs').map f) := by
    rw [List.forall₂_map_right_iff]
    exact (forall₂_sort hless h).imp fun x x' hx => (hf x x' hx).symm
  rw [List.forall₂_eq_eq_eq] at hsame
  exact hsame.symm

end Correspondence

theorem map_sort (f : β → α) (less : α → α → Bool) (xs : List β) :
    (sort (fun x y => less (f x) (f y)) xs).map f = sort less (xs.map f) := by
  apply map_sort_eq (R := fun y x => f x = y)
  · rintro _ x _ y rfl rfl
    rfl
  · rw [List.forall₂_map_left_iff, List.forall₂_same]
    exact fun _ _ => rfl
  · exact fun _ _ h => h

section Stability

variable {less : α → α → Bool} {p : α → Bool} (hp : ∀ x y, p x → p y → less x y = false)

include hp

theorem filter_insert (x : α) (ys : List α) :
    (insert less x ys).filter p = (x :: ys).filter p := by
  induction ys with
  | nil => rfl
  | cons y ys ih =>
    rw [insert]
    split
    · next hlt =>
      -- One of `x` and `y` is left out, so passing each other makes no difference.
      by_cases hx : p x
      · have hy : ¬p y := fun hy => by simp [hp x y hx hy] at hlt
        simp [hx, hy, ih]
      · simp [List.filter_cons, hx, ih]
    · rfl

theorem filter_insertAll (sorted xs : List α) :
    (insertAll less sorted xs).filter p = (xs.reverse ++ sorted).filter p := by
  induction xs generalizing sorted with
  | nil => rfl
  | cons x xs ih =>
    calc
      (insertAll less sorted (x :: xs)).filter p =
          (xs.reverse ++ insert less x sorted).filter p := ih (insert less x sorted)
      _ = ((x :: xs).reverse ++ sorted).filter p := by
        simp only [List.filter_append, filter_insert hp, List.reverse_cons, List.append_assoc,
          List.singleton_append]

theorem filter_sort (xs : List α) : (sort less xs).filter p = xs.filter p := by
  rw [sort, List.filter_reverse, filter_insertAll hp, List.append_nil, ← List.filter_reverse,
    List.reverse_reverse]

end Stability

def sortBy (cmp : α → α → Ordering) : List α → List α := sort fun a b => cmp a b == .lt

section Comparison

variable {cmp cmp' : α → α → Ordering} [Std.TransCmp cmp] [Std.TransCmp cmp']

theorem pairwise_insert (x : α) {ys : List α} (h : ys.Pairwise fun y z => (cmp z y).isLE) :
    (insert (fun a b => cmp a b == .lt) x ys).Pairwise fun y z => (cmp z y).isLE := by
  induction ys with
  | nil => simp [insert]
  | cons y ys ih =>
    obtain ⟨hy, hys⟩ := List.pairwise_cons.1 h
    rw [insert]
    split
    · next hlt =>
      refine List.pairwise_cons.2 ⟨fun z hz => ?_, ih hys⟩
      rcases List.mem_cons.1 ((insert_perm _ x ys).mem_iff.1 hz) with rfl | hz
      · exact Ordering.isLE_of_eq_lt (beq_iff_eq.1 hlt)
      · exact hy z hz
    · next hnot =>
      have hle : (cmp y x).isLE := by
        rw [← Std.OrientedCmp.isGE_iff_isLE, Ordering.isGE_iff_ne_lt]
        simpa using hnot
      refine List.pairwise_cons.2 ⟨fun z hz => ?_, h⟩
      rcases List.mem_cons.1 hz with rfl | hz
      · exact hle
      · exact Std.TransCmp.isLE_trans (hy z hz) hle

theorem pairwise_insertAll {sorted : List α} (xs : List α)
    (h : sorted.Pairwise fun y z => (cmp z y).isLE) :
    (insertAll (fun a b => cmp a b == .lt) sorted xs).Pairwise fun y z => (cmp z y).isLE := by
  induction xs generalizing sorted with
  | nil => exact h
  | cons x xs ih => exact ih (pairwise_insert x h)

theorem pairwise_sortBy (xs : List α) : (sortBy cmp xs).Pairwise fun a b => (cmp a b).isLE :=
  List.pairwise_reverse.2 (pairwise_insertAll xs .nil)

theorem filter_sortBy {p : α → Bool} (a : α) (hp : ∀ x, p x → cmp a x = .eq) (xs : List α) :
    (sortBy cmp xs).filter p = xs.filter p := by
  apply filter_sort
  intro x y hx hy
  rw [← Std.TransCmp.congr_left (hp x hx), hp y hy]
  rfl

theorem isLE_of_mem_cons {a x : α} {xs : List α}
    (h : (x :: xs).Pairwise fun a b => (cmp a b).isLE) (ha : a ∈ x :: xs) : (cmp x a).isLE := by
  rcases List.mem_cons.1 ha with rfl | ha
  · exact Ordering.isLE_of_eq_eq Std.ReflCmp.compare_self
  · exact (List.pairwise_cons.1 h).1 a ha

theorem mem_of_filter_eq {xs ys : List α} {a : α}
    (h : xs.filter (cmp a · == .eq) = ys.filter (cmp a · == .eq)) (ha : a ∈ xs) : a ∈ ys := by
  have hmem : a ∈ xs.filter (cmp a · == .eq) := by simp [ha, Std.ReflCmp.compare_self]
  rw [h] at hmem
  exact List.mem_of_mem_filter hmem

theorem eq_of_filter_eq {xs ys : List α} (hxs : xs.Pairwise fun a b => (cmp a b).isLE)
    (hys : ys.Pairwise fun a b => (cmp a b).isLE)
    (h : ∀ a, xs.filter (cmp a · == .eq) = ys.filter (cmp a · == .eq)) : xs = ys := by
  induction xs generalizing ys with
  | nil =>
    cases ys with
    | nil => rfl
    | cons y ys => simpa using mem_of_filter_eq (h y).symm (.head ys)
  | cons x xs ih =>
    cases ys with
    | nil => simpa using mem_of_filter_eq (h x) (.head xs)
    | cons y ys =>
      have hxy : cmp x y = .eq := Std.OrientedCmp.isLE_antisymm
        (isLE_of_mem_cons hxs (mem_of_filter_eq (h y).symm (.head ys)))
        (isLE_of_mem_cons hys (mem_of_filter_eq (h x) (.head xs)))
      -- Both heads are the first item of their class.
      have hclass := h x
      simp only [List.filter_cons, Std.ReflCmp.compare_self, hxy, beq_self_eq_true, if_true]
        at hclass
      obtain ⟨rfl, -⟩ := List.cons.inj hclass
      have htails : ∀ a, xs.filter (cmp a · == .eq) = ys.filter (cmp a · == .eq) := by
        intro a
        have ha := h a
        simp only [List.filter_cons] at ha
        split at ha
        · exact (List.cons.inj ha).2
        · exact ha
      rw [ih hxs.of_cons hys.of_cons htails]

/-- Ties stand as they stood, so what held of any two items in the order of the input still holds
of any two that tie. -/
theorem pairwise_sortBy_of_pairwise {r : α → α → Prop} {xs : List α} (h : xs.Pairwise r) :
    (sortBy cmp xs).Pairwise fun a b => (cmp a b).isLE ∧ (cmp a b = .eq → r a b) := by
  have hties : ∀ a, ((sortBy cmp xs).filter (cmp a · == .eq)).Pairwise r := by
    intro a
    rw [filter_sortBy a (by simp)]
    exact h.filter _
  refine List.pairwise_iff_forall_sublist.2 fun {a b} hab => ⟨?_, fun htie => ?_⟩
  · exact List.pairwise_iff_forall_sublist.1 (pairwise_sortBy xs) hab
  · apply List.pairwise_iff_forall_sublist.1 (List.pairwise_filter.1 (hties a)) hab
    · simp [Std.ReflCmp.compare_self]
    · simp [htie]

theorem pairwise_sortBy_sortBy (xs : List α) :
    (sortBy cmp (sortBy cmp' xs)).Pairwise fun a b => (compareLex cmp cmp' a b).isLE := by
  refine (pairwise_sortBy_of_pairwise (pairwise_sortBy xs)).imp fun {a b} ⟨hle, htie⟩ => ?_
  refine Ordering.isLE_then_iff_and.2 ?_
  cases hc : cmp a b with
  | lt => exact ⟨rfl, .inl rfl⟩
  | eq => exact ⟨rfl, .inr (htie hc)⟩
  | gt => simp [hc] at hle

theorem sortBy_sortBy (xs : List α) :
    sortBy cmp (sortBy cmp' xs) = sortBy (compareLex cmp cmp') xs := by
  apply eq_of_filter_eq (pairwise_sortBy_sortBy xs) (pairwise_sortBy xs)
  intro a
  have hclass : ∀ x, (compareLex cmp cmp' a x == .eq) → cmp a x = .eq ∧ cmp' a x = .eq :=
    fun x hx => Ordering.then_eq_eq.1 (beq_iff_eq.1 hx)
  rw [filter_sortBy a fun x hx => (hclass x hx).1, filter_sortBy a fun x hx => (hclass x hx).2,
    filter_sortBy a fun x hx => beq_iff_eq.1 hx]

theorem sortBy_opposite (xs : List α) :
    sortBy (fun a b => cmp b a) xs = (sortBy cmp xs.reverse).reverse := by
  have hopposite : Std.TransCmp fun a b => cmp b a := Std.TransCmp.opposite
  apply eq_of_filter_eq (pairwise_sortBy xs)
  · exact List.pairwise_reverse.2 (pairwise_sortBy xs.reverse)
  · -- Each class stands in the order of the list, which is turned round twice.
    intro a
    have hclass : ∀ x, (cmp x a == .eq) → cmp a x = .eq :=
      fun x hx => Std.OrientedCmp.eq_symm (beq_iff_eq.1 hx)
    rw [filter_sortBy a (by simp), List.filter_reverse, filter_sortBy a hclass,
      List.filter_reverse, List.reverse_reverse]

end Comparison

theorem sortBy_map (f : β → α) (cmp : α → α → Ordering) (xs : List β) :
    sortBy cmp (xs.map f) = (sortBy (fun x y => cmp (f x) (f y)) xs).map f :=
  (map_sort f (fun a b => cmp a b == .lt) xs).symm

theorem sortBy_sortBy_of_forall {P : α → Prop} {cmp cmp' : α → α → Ordering}
    (hcmp : Std.TransCmp fun a b : Subtype P => cmp a.1 b.1)
    (hcmp' : Std.TransCmp fun a b : Subtype P => cmp' a.1 b.1) {xs : List α}
    (h : ∀ x ∈ xs, P x) :
    sortBy cmp (sortBy cmp' xs) = sortBy (compareLex cmp cmp') xs := by
  rw [← List.attachWith_map_subtype_val h, sortBy_map, sortBy_map, sortBy_map, sortBy_sortBy]
  rfl

theorem sortBy_opposite_of_forall {P : α → Prop} {cmp : α → α → Ordering}
    (hcmp : Std.TransCmp fun a b : Subtype P => cmp a.1 b.1) {xs : List α} (h : ∀ x ∈ xs, P x) :
    sortBy (fun a b => cmp b a) xs = (sortBy cmp xs.reverse).reverse := by
  rw [← List.attachWith_map_subtype_val h, ← List.map_reverse, sortBy_map, sortBy_map,
    ← List.map_reverse, ← sortBy_opposite]

theorem transCmp_comap {cmp : α → α → Ordering} (h : Std.TransCmp cmp) (f : β → α) :
    Std.TransCmp fun x y => cmp (f x) (f y) where
  eq_swap := h.eq_swap
  isLE_trans := h.isLE_trans

theorem exists_placed {P : α → Prop} {cmp : α → α → Ordering}
    (hcmp : Std.TransCmp fun a b : Subtype P => cmp a.1 b.1) {xs : List α} (h : ∀ x ∈ xs, P x) :
    ∃ placed : List (α × Nat), placed.map (·.1) = sortBy cmp xs ∧ placed.Perm xs.zipIdx ∧
      placed.Pairwise fun x y => (cmp x.1 y.1).isLE ∧ (cmp x.1 y.1 = .eq → x.2 < y.2) := by
  refine ⟨sortBy (fun x y => cmp x.1 y.1) xs.zipIdx, ?_, sort_perm _ _, ?_⟩
  · rw [← sortBy_map Prod.fst cmp, List.zipIdx_map_fst]
  · have hzip : ∀ e ∈ xs.zipIdx, P e.1 := fun e he => h _ (List.fst_mem_of_mem_zipIdx he)
    have hplaced := transCmp_comap hcmp
      fun e : Subtype (fun e : α × Nat => P e.1) => ⟨e.1.1, e.2⟩
    rw [← List.attachWith_map_subtype_val hzip, sortBy_map]
    refine List.pairwise_map.2 (pairwise_sortBy_of_pairwise ?_)
    rw [← List.pairwise_map (R := fun x y : α × Nat => x.2 < y.2),
      List.attachWith_map_subtype_val]
    exact pairwise_zipIdx xs

theorem stable_sortBy {P : α → Prop} {cmp : α → α → Ordering}
    (hcmp : Std.TransCmp fun a b : Subtype P => cmp a.1 b.1) {xs : List α} (h : ∀ x ∈ xs, P x) :
    ((sortBy cmp xs).Pairwise fun a b => cmp a b ≠ .gt) ∧
      ∃ placed : List (α × Nat), placed.map (·.1) = sortBy cmp xs ∧ placed.Perm xs.zipIdx ∧
        placed.Pairwise fun x y => cmp x.1 y.1 = .eq → x.2 < y.2 := by
  obtain ⟨placed, hplaced, hperm, hpairs⟩ := exists_placed hcmp h
  refine ⟨?_, placed, hplaced, hperm, hpairs.imp fun hxy => hxy.2⟩
  rw [← hplaced, List.pairwise_map]
  exact hpairs.imp fun hxy => Ordering.isLE_iff_ne_gt.1 hxy.1

def placesBy (cmp : α → α → Ordering) (xs : List α) : List Nat :=
  (sortBy (fun x y => cmp x.1 y.1) xs.zipIdx).map (·.2)

theorem placesBy_perm (cmp : α → α → Ordering) (xs : List α) :
    (placesBy cmp xs).Perm (List.range xs.length) := by
  have hperm := (sort_perm (fun x y => cmp x.1 y.1 == .lt) xs.zipIdx).map (·.2)
  rwa [List.zipIdx_map_snd, ← List.range_eq_range'] at hperm

theorem map_getElem?_placesBy (cmp : α → α → Ordering) (xs : List α) :
    (placesBy cmp xs).map (xs[·]?) = (sortBy cmp xs).map some := by
  have hplaced : (sortBy (fun x y => cmp x.1 y.1) xs.zipIdx).map (·.1) = sortBy cmp xs := by
    rw [← sortBy_map Prod.fst cmp, List.zipIdx_map_fst]
  rw [placesBy, ← hplaced, List.map_map, List.map_map]
  apply List.map_congr_left
  intro e he
  exact List.mem_zipIdx_iff_getElem?.1 ((sort_perm _ _).mem_iff.1 he)

theorem placesBy_congr {R : α → β → Prop} {cmp : α → α → Ordering} {cmp' : β → β → Ordering}
    (hcmp : ∀ x x' y y', R x x' → R y y' → cmp x y = cmp' x' y') {xs : List α} {xs' : List β}
    (h : List.Forall₂ R xs xs') : placesBy cmp xs = placesBy cmp' xs' := by
  have hzip : ∀ n, List.Forall₂ (fun x x' : _ × Nat => R x.1 x'.1 ∧ x.2 = x'.2)
      (xs.zipIdx n) (xs'.zipIdx n) := by
    induction h with
    | nil => exact fun _ => .nil
    | cons hx _ ih => exact fun n => .cons ⟨hx, rfl⟩ (ih (n + 1))
  have hless : ∀ (x : α × Nat) (x' : β × Nat) (y : α × Nat) (y' : β × Nat),
      R x.1 x'.1 ∧ x.2 = x'.2 → R y.1 y'.1 ∧ y.2 = y'.2 →
      (cmp x.1 y.1 == .lt) = (cmp' x'.1 y'.1 == .lt) := by
    intro x x' y y' hx hy
    rw [hcmp _ _ _ _ hx.1 hy.1]
  rw [placesBy, placesBy, ← List.forall₂_eq_eq_eq, List.forall₂_map_left_iff,
    List.forall₂_map_right_iff]
  exact (forall₂_sort hless (hzip 0)).imp fun _ _ hx => hx.2

end SortPipeline.StableSort
