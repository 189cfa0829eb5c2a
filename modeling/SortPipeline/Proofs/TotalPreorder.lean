import SortPipeline.Proofs.Decoration
import SortPipeline.Proofs.Transitivity

universe u v

namespace SortPipeline

section Lexicographic

variable {α : Type u} {κ : Type v}

def lexicographic (cmp : κ → α → α → Ordering) (keys : List κ) (a b : α) : Ordering :=
  keys.foldr (fun key rest => (cmp key a b).then rest) .eq

theorem lexicographic_append (cmp : κ → α → α → Ordering) (keys others : List κ) :
    lexicographic cmp (keys ++ others) =
      compareLex (lexicographic cmp keys) (lexicographic cmp others) := by
  funext a b
  induction keys with
  | nil => rfl
  | cons key keys ih => exact (congrArg _ ih).trans (Ordering.then_assoc _ _ _).symm

theorem lexicographic_congr {cmp cmp' : κ → α → α → Ordering} {keys : List κ}
    (h : ∀ key ∈ keys, cmp key = cmp' key) : lexicographic cmp keys = lexicographic cmp' keys := by
  funext a b
  apply List.foldr_ext
  intro key hkey rest
  rw [h key hkey]

theorem lexicographic_swap {cmp cmp' : κ → α → α → Ordering} {keys : List κ} {a b a' b' : α}
    (h : ∀ key ∈ keys, (cmp key a b).swap = cmp' key a' b') :
    (lexicographic cmp keys a b).swap = lexicographic cmp' keys a' b' := by
  induction keys with
  | nil => rfl
  | cons key keys ih =>
    obtain ⟨hkey, hkeys⟩ := List.forall_mem_cons.1 h
    calc
      (lexicographic cmp (key :: keys) a b).swap =
          (cmp key a b).swap.then (lexicographic cmp keys a b).swap := Ordering.swap_then _ _
      _ = lexicographic cmp' (key :: keys) a' b' := by rw [hkey, ih hkeys]; rfl

theorem transCmp_lexicographic {cmp : κ → α → α → Ordering} {keys : List κ}
    (h : ∀ key ∈ keys, Std.TransCmp (cmp key)) : Std.TransCmp (lexicographic cmp keys) := by
  induction keys with
  | nil => exact { eq_swap := rfl, isLE_trans := fun _ _ => rfl }
  | cons key keys ih =>
    obtain ⟨hkey, hkeys⟩ := List.forall_mem_cons.1 h
    have hrest := ih hkeys
    exact inferInstanceAs (Std.TransCmp (compareLex (cmp key) (lexicographic cmp keys)))

end Lexicographic

namespace Composes

theorem comm {ab bc ac : Ordering} (h : Composes ab bc ac) : Composes bc ab ac := by
  intro hbc hab
  rw [h hab hbc]
  cases ab <;> cases bc <;> simp_all

theorem transCmp {α : Type u} {cmp : α → α → Ordering}
    (hswap : ∀ a b, (cmp a b).swap = cmp b a)
    (h : ∀ a b c, Composes (cmp a b) (cmp b c) (cmp a c)) : Std.TransCmp cmp where
  eq_swap := (hswap _ _).symm
  isLE_trans hab hbc := by
    rw [Ordering.isLE_iff_ne_gt] at hab hbc ⊢
    exact (h _ _ _).ne_gt hab hbc

end Composes

@[simp] theorem Direction.apply_swap (d : Direction) (o : Ordering) :
    d.apply o.swap = (d.apply o).swap := by
  cases d <;> rfl

theorem Direction.apply_flip (d : Direction) (o : Ordering) :
    d.flip.apply o = (d.apply o).swap := by
  cases d with
  | ascending => rfl
  | descending => exact Ordering.swap_swap.symm

theorem Number.compare_swap (a b : Number) : (a.compare b).swap = b.compare a := by
  unfold Number.compare
  cases a.int64? <;> cases b.int64? <;> exact Std.OrientedOrd.eq_swap.symm

namespace Value

mutual

theorem compare_swap (a b : Value) : (a.compare b).swap = b.compare a := by
  by_cases hrank : a.rank = b.rank
  · cases alike_of_rank_eq hrank with
    | null => rfl
    | bool x y => exact Std.OrientedOrd.eq_swap.symm
    | number m n => exact m.compare_swap n
    | string s t => exact Std.OrientedOrd.eq_swap.symm
    | array as bs => exact compareItems_swap as bs
    | @date as bs x y has hbs =>
      simp only [compare, has, hbs]
      exact Std.OrientedOrd.eq_swap.symm
    | @object as bs has hbs =>
      simp only [compare, has, hbs]
      exact compareMembers_swap as bs
  · rw [compare_of_rank_ne hrank, compare_of_rank_ne (Ne.symm hrank)]
    exact Std.OrientedOrd.eq_swap.symm

theorem compareItems_swap (as bs : List Value) :
    (compareItems as bs).swap = compareItems bs as := by
  match as, bs with
  | [], [] | [], _ :: _ | _ :: _, [] => rfl
  | a :: as, b :: bs =>
    simp only [compareItems, Ordering.swap_then]
    rw [compare_swap a b, compareItems_swap as bs]

theorem compareMembers_swap (as bs : List (String × Value)) :
    (compareMembers as bs).swap = compareMembers bs as := by
  match as, bs with
  | [], [] | [], _ :: _ | _ :: _, [] => rfl
  | (m, a) :: as, (n, b) :: bs =>
    simp only [compareMembers, Ordering.swap_then]
    rw [compare_swap a b, compareMembers_swap as bs, ← Std.OrientedOrd.eq_swap]

end

theorem compare?_swap (a b : Option Value) : (compare? a b).swap = compare? b a :=
  compare_swap _ _

theorem apply_compare?_swap (d : Direction) (a b : Option Value) :
    (d.apply (compare? a b)).swap = d.apply (compare? b a) := by
  rw [← Direction.apply_swap, compare?_swap]

theorem mem_memberNumbers {n : Number} {members : List (String × Value)} :
    n ∈ memberNumbers members ↔ ∃ e ∈ members, n ∈ e.2.numbers := by
  induction members with
  | nil => simp [memberNumbers]
  | cons e rest ih =>
    obtain ⟨name, v⟩ := e
    simp [memberNumbers, ih]

/-- Every number in the value is an integer of 64 bits with sign. Those in dates always are. -/
def Integral (v : Value) : Prop := ∀ n ∈ v.numbers, n.int64?.isSome

instance (v : Value) : Decidable v.Integral :=
  inferInstanceAs (Decidable (∀ n ∈ v.numbers, n.int64?.isSome))

theorem integral_null : null.Integral := by simp [Integral, numbers]

theorem integral_string (s : String) : (string s).Integral := by simp [Integral, numbers]

theorem integral_number {n : Number} : (number n).Integral ↔ n.int64?.isSome := by
  simp [Integral, numbers]

theorem integral_getD {v : Option Value} (h : ∀ w ∈ v, w.Integral) :
    (v.getD .null).Integral := by
  cases v with
  | none => exact integral_null
  | some w => exact h w rfl

theorem coherent_int64 : Number.Coherent fun n => n.int64?.isSome := by
  intro x y z _ hy _ hnone
  simp [hnone] at hy

theorem composes_of_integral {a b c : Value} (ha : a.Integral) (hb : b.Integral)
    (hc : c.Integral) : Composes (a.compare b) (b.compare c) (a.compare c) :=
  composes_compare coherent_int64 ha hb hc

theorem composes_apply {a b c : Option Value} (ha : (a.getD .null).Integral)
    (hb : (b.getD .null).Integral) (hc : (c.getD .null).Integral) (d : Direction) :
    Composes (d.apply (compare? a b)) (d.apply (compare? b c)) (d.apply (compare? a c)) := by
  cases d with
  | ascending => exact composes_of_integral ha hb hc
  | descending =>
    -- Turned round, these are the comparisons of `c`, `b` and `a`.
    simp only [Direction.apply, compare?_swap]
    exact (composes_of_integral hc hb ha).comm

theorem transCmp_apply {α : Type u} {f : α → Option Value}
    (h : ∀ a, ((f a).getD .null).Integral) (d : Direction) :
    Std.TransCmp fun a b => d.apply (compare? (f a) (f b)) :=
  Composes.transCmp (fun a b => apply_compare?_swap d (f a) (f b)) fun a b c =>
    composes_apply (h a) (h b) (h c) d

theorem integral_of_dateMillis? {members : List (String × Value)}
    (h : (dateMillis? members).isSome) : ∀ e ∈ members, e.2.Integral := by
  unfold dateMillis? at h
  split at h
  · simp [integral_string]
  · simpa [integral_number] using h
  · simp at h

theorem integral_of_mem {members : List (String × Value)} (h : (object members).Integral)
    {e : String × Value} (he : e ∈ members) : e.2.Integral := by
  by_cases hdate : (dateMillis? members).isSome
  · exact integral_of_dateMillis? hdate e he
  · intro n hn
    apply h
    rw [numbers, if_neg hdate]
    exact mem_memberNumbers.2 ⟨e, he, hn⟩

theorem integral_of_getSegments? {segments : List String} {v w : Value} (hv : v.Integral)
    (h : v.getSegments? segments = some w) : w.Integral := by
  induction segments generalizing v with
  | nil => cases h; exact hv
  | cons s rest ih =>
    obtain ⟨members, stored, rfl, hget, hrest⟩ := getSegments?_cons_eq_some_iff.1 h
    exact ih (integral_of_mem hv (Entries.mem_of_get? hget)) hrest

theorem integral_of_getPath? {path : String} {document v : Value} (hdocument : document.Integral)
    (h : document.getPath? path = some v) : v.Integral :=
  integral_of_getSegments? hdocument h

end Value

end SortPipeline
