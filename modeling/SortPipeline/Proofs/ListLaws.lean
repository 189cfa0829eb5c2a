import Mathlib.Data.List.Forall2

universe u v w

namespace SortPipeline

section Correspondence

variable {α : Type u} {β : Type v}

theorem exists_of_forall₂ {R : α → β → Prop} {xs : List α} {ys : List β} (h : List.Forall₂ R xs ys)
    {y : β} (hy : y ∈ ys) : ∃ x ∈ xs, R x y := by
  induction h with
  | nil => cases hy
  | cons hxy _ ih =>
    rcases List.mem_cons.1 hy with rfl | hy
    · exact ⟨_, .head _, hxy⟩
    · obtain ⟨x, hx, hxy⟩ := ih hy
      exact ⟨x, .tail _ hx, hxy⟩

theorem forall₂_trans {γ : Type w} {R : α → β → Prop} {S : β → γ → Prop} {T : α → γ → Prop}
    (hT : ∀ x y z, R x y → S y z → T x z) {xs : List α} {ys : List β} {zs : List γ}
    (h : List.Forall₂ R xs ys) (h' : List.Forall₂ S ys zs) : List.Forall₂ T xs zs := by
  induction h generalizing zs with
  | nil => cases h'; exact .nil
  | cons hx _ ih =>
    cases h' with
    | cons hy hrest => exact .cons (hT _ _ _ hx hy) (ih hrest)

end Correspondence

section First

variable {α : Type u} {ε : Type w}

inductive First (R : α → ε → Prop) : List α → ε → Prop
  | head {x : α} {xs : List α} {e : ε} (h : R x e) : First R (x :: xs) e
  | tail {x : α} {xs : List α} {e : ε} (h : ∀ e, ¬R x e) (hrest : First R xs e) :
      First R (x :: xs) e

variable {R S : α → ε → Prop}

@[simp] theorem not_first_nil (e : ε) : ¬First R [] e := by
  intro h
  cases h

theorem first_cons {x : α} {xs : List α} {e : ε} :
    First R (x :: xs) e ↔ R x e ∨ (∀ e, ¬R x e) ∧ First R xs e := by
  constructor
  · intro h
    cases h with
    | head h => exact .inl h
    | tail h hrest => exact .inr ⟨h, hrest⟩
  · rintro (h | ⟨h, hrest⟩)
    · exact .head h
    · exact .tail h hrest

theorem exists_first_iff {xs : List α} : (∃ e, First R xs e) ↔ ∃ x ∈ xs, ∃ e, R x e := by
  induction xs with
  | nil => simp
  | cons x xs ih =>
    rw [List.exists_mem_cons_iff, ← ih]
    by_cases hx : ∃ e, R x e
    · obtain ⟨e, he⟩ := hx
      exact iff_of_true ⟨e, .head he⟩ (.inl ⟨e, he⟩)
    · simp [first_cons, not_exists.1 hx]

theorem First.exists_mem {xs : List α} {e : ε} (h : First R xs e) : ∃ x ∈ xs, R x e := by
  induction h with
  | head h => exact ⟨_, .head _, h⟩
  | tail _ _ ih =>
    obtain ⟨x, hx, h⟩ := ih
    exact ⟨x, .tail _ hx, h⟩

theorem first_congr {xs : List α} {e : ε} (h : ∀ x ∈ xs, ∀ e, R x e ↔ S x e) :
    First R xs e ↔ First S xs e := by
  induction xs with
  | nil => simp
  | cons x xs ih =>
    obtain ⟨hx, hxs⟩ := List.forall_mem_cons.1 h
    simp only [first_cons, hx, ih hxs]

end First

section Traversal

variable {α : Type u} {β : Type v} {ε : Type w}

theorem exists_eq_ok_of_isOk {r : Except ε α} (h : r.isOk) : ∃ a, r = .ok a := by
  cases r with
  | error fault => cases h
  | ok a => exact ⟨a, rfl⟩

theorem mapM_eq_ok_iff {f : α → Except ε β} {xs : List α} {ys : List β} :
    xs.mapM f = .ok ys ↔ List.Forall₂ (fun x y => f x = .ok y) xs ys := by
  induction xs generalizing ys with
  | nil => cases ys <;> simp [pure, Except.pure]
  | cons x xs ih =>
    rw [List.mapM_cons]
    cases hx : f x with
    | error fault => cases ys <;> simp [hx, bind, Except.bind]
    | ok y =>
      cases hxs : xs.mapM f with
      | error fault => cases ys <;> simp [hx, hxs, ← ih, bind, Except.bind]
      | ok rest => cases ys <;> simp [hx, hxs, ← ih, bind, Except.bind, pure, Except.pure]

theorem exists_mapM_eq_ok_iff {f : α → Except ε β} {xs : List α} :
    (∃ ys, xs.mapM f = .ok ys) ↔ ∀ x ∈ xs, ∃ y, f x = .ok y := by
  simp only [mapM_eq_ok_iff]
  induction xs with
  | nil => simp
  | cons x xs ih => simp [List.forall₂_cons_left_iff, ← ih]

theorem mapM_eq_error_iff {f : α → Except ε β} {xs : List α} {e : ε} :
    xs.mapM f = .error e ↔ First (fun x e => f x = .error e) xs e := by
  induction xs with
  | nil => simp [pure, Except.pure]
  | cons x xs ih =>
    rw [List.mapM_cons, first_cons, ← ih]
    cases hx : f x with
    | error fault => simp [bind, Except.bind]
    | ok y => cases xs.mapM f <;> simp [bind, Except.bind, pure, Except.pure]

theorem mapM_map_eq_some {f : α → β} {g : β → Option α} {xs : List α}
    (h : ∀ x ∈ xs, g (f x) = some x) : (xs.map f).mapM g = some xs := by
  induction xs with
  | nil => rfl
  | cons x xs ih =>
    obtain ⟨hx, hxs⟩ := List.forall_mem_cons.1 h
    simp [hx, ih hxs]

end Traversal

section Places

variable {α : Type u}

theorem eraseDups_concat [DecidableEq α] (xs : List α) (x : α) :
    (xs ++ [x]).eraseDups = if x ∈ xs then xs.eraseDups else xs.eraseDups ++ [x] := by
  rw [List.eraseDups_append]
  by_cases h : x ∈ xs <;> simp [List.removeAll, h, List.eraseDups_cons]

theorem find?_eq_some_iff_takeWhile [DecidableEq α] {p : α → Bool} {x : α} {xs : List α} :
    xs.find? p = some x ↔ x ∈ xs ∧ p x ∧ ∀ y ∈ xs.takeWhile (· ≠ x), ¬p y := by
  induction xs with
  | nil => simp
  | cons y ys ih =>
    by_cases hyx : y = x
    · by_cases hy : p y <;> simp_all
    · by_cases hy : p y <;> simp_all [Ne.symm hyx]

theorem pairwise_zipIdx (xs : List α) : xs.zipIdx.Pairwise fun x y => x.2 < y.2 := by
  rw [← List.pairwise_map, List.zipIdx_map_snd]
  exact List.pairwise_lt_range'

end Places

end SortPipeline
