import SortPipeline.Document.Order
import SortPipeline.Proofs.Rounding

universe u

namespace SortPipeline

/-- The third comparison is the one that the first two amount to, unless one of them is `gt`. -/
def Composes (ab bc ac : Ordering) : Prop := ab ≠ .gt → bc ≠ .gt → ac = ab.then bc

namespace Composes

theorem of_transOrd {α : Type u} [Ord α] [Std.TransOrd α] (a b c : α) :
    Composes (compare a b) (compare b c) (compare a c) := by
  intro hab hbc
  cases h : compare a b with
  | lt => exact Std.TransCmp.lt_of_lt_of_isLE h (Ordering.isLE_iff_ne_gt.2 hbc)
  | eq => exact Std.TransCmp.congr_left h
  | gt => exact absurd h hab

theorem lex {ab bc ac ab' bc' ac' : Ordering} (h : Composes ab bc ac)
    (h' : ab = .eq → bc = .eq → Composes ab' bc' ac') :
    Composes (ab.then ab') (bc.then bc') (ac.then ac') := by
  intro hab hbc
  cases ab with
  | gt => exact absurd rfl hab
  | lt =>
    have hac : ac = .lt := h (by decide) (by cases bc <;> simp_all)
    rw [hac]
    rfl
  | eq =>
    cases bc with
    | gt => exact absurd rfl hbc
    | lt =>
      have hac : ac = .lt := h (by decide) (by decide)
      rw [hac]
      cases ab' with
      | gt => exact absurd rfl hab
      | lt | eq => rfl
    | eq =>
      have hac : ac = .eq := h (by decide) (by decide)
      rw [hac]
      exact h' rfl rfl hab hbc

theorem of_int {a b c d e f : Int} (heq : a = b → c = d → e = f) (hlt : a < b → c ≤ d → e < f)
    (heqlt : a = b → c < d → e < f) : Composes (compare a b) (compare c d) (compare e f) := by
  intro hab hcd
  rw [Int.compare_ne_gt] at hab hcd
  rcases Int.lt_or_eq_of_le hab with hab | hab
  · rw [Int.compare_eq_lt.2 hab, Int.compare_eq_lt.2 (hlt hab hcd)]
    rfl
  · rw [Int.compare_eq_eq.2 hab]
    rcases Int.lt_or_eq_of_le hcd with hcd | hcd
    · rw [Int.compare_eq_lt.2 hcd, Int.compare_eq_lt.2 (heqlt hab hcd)]
      rfl
    · rw [Int.compare_eq_eq.2 hcd, Int.compare_eq_eq.2 (heq hab hcd)]
      rfl

theorem ne_gt {ab bc ac : Ordering} (h : Composes ab bc ac) (hab : ab ≠ .gt) (hbc : bc ≠ .gt) :
    ac ≠ .gt := by
  rw [h hab hbc]
  cases ab with
  | gt => exact absurd rfl hab
  | lt => exact Ordering.noConfusion
  | eq => exact hbc

end Composes

namespace Number

/-- No two integers of 64 bits round to one double if a number that is none does so too. -/
def Coherent (S : Number → Prop) : Prop :=
  ∀ x y z, S x → S y → S z → y.int64? = none → x.key = y.key → z.key = y.key →
    ∀ m n, x.int64? = some m → z.int64? = some n → m = n

theorem eq_int_of_int64? {x : Number} {m : Int} (h : x.int64? = some m) : x = .int m := by
  cases x with
  | int n =>
    rw [int64?] at h
    split at h
    · exact congrArg int (Option.some.inj h)
    · cases h
  | double x => cases h

theorem key_mono {x y : Number} {m n : Int} (hx : x.int64? = some m) (hy : y.int64? = some n)
    (h : m ≤ n) : x.key ≤ y.key := by
  rw [eq_int_of_int64? hx, eq_int_of_int64? hy]
  exact Double.keyOfInt_mono h

theorem compare_of_int64?_left {x : Number} (h : x.int64? = none) (y : Number) :
    x.compare y = Ord.compare x.key y.key := by
  rw [Number.compare, h]

theorem compare_of_int64?_right (x : Number) {y : Number} (h : y.int64? = none) :
    x.compare y = Ord.compare x.key y.key := by
  rw [Number.compare, h]
  cases x.int64? <;> rfl

theorem composes_compare {S : Number → Prop} (hS : Coherent S) {x y z : Number} (hx : S x)
    (hy : S y) (hz : S z) : Composes (x.compare y) (y.compare z) (x.compare z) := by
  have hxy := hS x z y hx hz hy
  have hxz := hS x y z hx hy hz
  have hyz := hS y x z hy hx hz
  -- Two integers are ordered as their keys are, and what stands between equal keys is settled
  -- by `hS`; so each mixture of the two comparisons comes down to the integers and the keys.
  unfold Number.compare
  cases hm : x.int64? with
  | none =>
    cases hn : y.int64? with
    | none => exact .of_transOrd x.key y.key z.key
    | some n =>
      cases hk : z.int64? with
      | none => exact .of_transOrd x.key y.key z.key
      | some k =>
        have hmono := fun h : n ≤ k => key_mono hn hk h
        have hmono' := fun h : k ≤ n => key_mono hk hn h
        apply Composes.of_int <;> grind
  | some m =>
    cases hn : y.int64? with
    | none =>
      cases hk : z.int64? with
      | none => exact .of_transOrd x.key y.key z.key
      | some k =>
        have hmono := fun h : k ≤ m => key_mono hk hm h
        apply Composes.of_int <;> grind
    | some n =>
      cases hk : z.int64? with
      | none =>
        have hmono := fun h : m ≤ n => key_mono hm hn h
        have hmono' := fun h : n ≤ m => key_mono hn hm h
        apply Composes.of_int <;> grind
      | some k => exact .of_transOrd m n k

end Number

namespace Value

mutual

def numbers : Value → List Number
  | .number n => [n]
  | .array items => itemNumbers items
  | .object members => if (dateMillis? members).isSome then [] else memberNumbers members
  | .null | .bool _ | .string _ => []
termination_by structural v => v

def itemNumbers : List Value → List Number
  | [] => []
  | v :: rest => v.numbers ++ itemNumbers rest
termination_by structural items => items

def memberNumbers : List (String × Value) → List Number
  | [] => []
  | (_, v) :: rest => v.numbers ++ memberNumbers rest
termination_by structural members => members

end

theorem compare_of_rank_ne {a b : Value} (h : a.rank ≠ b.rank) :
    a.compare b = Ord.compare a.rank b.rank := by
  cases a <;> cases b
  case object.object as bs =>
    rw [compare]
    cases ha : dateMillis? as <;> cases hb : dateMillis? bs <;> simp_all [rank] <;> rfl
  all_goals first
    | rfl
    | exact absurd rfl h

theorem rank_eq_of_compare_eq {a b : Value} (h : a.compare b = .eq) : a.rank = b.rank := by
  by_cases hrank : a.rank = b.rank
  · exact hrank
  · rw [compare_of_rank_ne hrank] at h
    exact Nat.compare_eq_eq.1 h

theorem composes_of_rank_eq {a b c : Value}
    (h : a.rank = b.rank → b.rank = c.rank →
      Composes (a.compare b) (b.compare c) (a.compare c)) :
    Composes (a.compare b) (b.compare c) (a.compare c) := by
  have hrank : ∀ v w : Value, v.compare w = (Ord.compare v.rank w.rank).then (v.compare w) := by
    intro v w
    by_cases heq : v.rank = w.rank
    · rw [Nat.compare_eq_eq.2 heq]
      rfl
    · rw [compare_of_rank_ne heq]
      cases hc : Ord.compare v.rank w.rank <;> rfl
  rw [hrank a b, hrank b c, hrank a c]
  exact (Composes.of_transOrd a.rank b.rank c.rank).lex fun hab hbc =>
    h (Nat.compare_eq_eq.1 hab) (Nat.compare_eq_eq.1 hbc)

inductive Alike : Value → Value → Prop
  | null : Alike .null .null
  | bool (b c : Bool) : Alike (.bool b) (.bool c)
  | number (m n : Number) : Alike (.number m) (.number n)
  | string (s t : String) : Alike (.string s) (.string t)
  | array (as bs : List Value) : Alike (.array as) (.array bs)
  | date {as bs : List (String × Value)} {x y : Int} (has : dateMillis? as = some x)
    (hbs : dateMillis? bs = some y) : Alike (.object as) (.object bs)
  | object {as bs : List (String × Value)} (has : dateMillis? as = none)
    (hbs : dateMillis? bs = none) : Alike (.object as) (.object bs)

theorem alike_of_rank_eq {a b : Value} (h : a.rank = b.rank) : Alike a b := by
  cases a <;> cases b
  case null.null => exact .null
  case bool.bool x y => exact .bool x y
  case number.number m n => exact .number m n
  case string.string s t => exact .string s t
  case array.array as bs => exact .array as bs
  case object.object as bs =>
    cases has : dateMillis? as <;> cases hbs : dateMillis? bs
    case none.none => exact .object has hbs
    case some.some => exact .date has hbs
    all_goals simp [rank, has, hbs] at h
  all_goals
    simp only [rank] at h
    grind

mutual

theorem composes_compare {S : Number → Prop} (hS : Number.Coherent S) {a b c : Value}
    (ha : ∀ n ∈ a.numbers, S n) (hb : ∀ n ∈ b.numbers, S n) (hc : ∀ n ∈ c.numbers, S n) :
    Composes (a.compare b) (b.compare c) (a.compare c) := by
  apply composes_of_rank_eq
  intro hab hbc
  cases alike_of_rank_eq hab with
  | null =>
    cases alike_of_rank_eq hbc with
    | null => exact fun _ _ => rfl
  | bool x y =>
    cases alike_of_rank_eq hbc with
    | bool _ z => exact .of_transOrd x y z
  | number x y =>
    cases alike_of_rank_eq hbc with
    | number _ z =>
      exact Number.composes_compare hS (ha x (by simp [numbers])) (hb y (by simp [numbers]))
        (hc z (by simp [numbers]))
  | string s t =>
    cases alike_of_rank_eq hbc with
    | string _ u => exact .of_transOrd s t u
  | array as bs =>
    cases alike_of_rank_eq hbc with
    | array _ cs =>
      simp only [numbers] at ha hb hc
      exact composes_compareItems hS ha hb hc
  | date has hbs =>
    cases alike_of_rank_eq hbc with
    | date hbs' hcs =>
      cases hbs.symm.trans hbs'
      simp only [compare, has, hbs, hcs]
      exact .of_transOrd _ _ _
    | object hbs' => simp [hbs] at hbs'
  | object has hbs =>
    cases alike_of_rank_eq hbc with
    | date hbs' => simp [hbs] at hbs'
    | object _ hcs =>
      simp only [compare, has, hbs, hcs]
      simp only [numbers, has, hbs, hcs] at ha hb hc
      exact composes_compareMembers hS ha hb hc

theorem composes_compareItems {S : Number → Prop} (hS : Number.Coherent S) {as bs cs : List Value}
    (ha : ∀ n ∈ itemNumbers as, S n) (hb : ∀ n ∈ itemNumbers bs, S n)
    (hc : ∀ n ∈ itemNumbers cs, S n) :
    Composes (compareItems as bs) (compareItems bs cs) (compareItems as cs) := by
  match as, bs, cs with
  | [], [], [] | [], [], _ :: _ | [], _ :: _, _ :: _ => exact fun _ _ => rfl
  | _ :: _, [], _ => exact fun h _ => absurd rfl h
  | _, _ :: _, [] => exact fun _ h => absurd rfl h
  | a :: as, b :: bs, c :: cs =>
    simp only [itemNumbers, List.forall_mem_append] at ha hb hc
    simp only [compareItems]
    exact (composes_compare hS ha.1 hb.1 hc.1).lex fun _ _ =>
      composes_compareItems hS ha.2 hb.2 hc.2

theorem composes_compareMembers {S : Number → Prop} (hS : Number.Coherent S)
    {as bs cs : List (String × Value)} (ha : ∀ n ∈ memberNumbers as, S n)
    (hb : ∀ n ∈ memberNumbers bs, S n) (hc : ∀ n ∈ memberNumbers cs, S n) :
    Composes (compareMembers as bs) (compareMembers bs cs) (compareMembers as cs) := by
  match as, bs, cs with
  | [], [], [] | [], [], _ :: _ | [], _ :: _, _ :: _ => exact fun _ _ => rfl
  | _ :: _, [], _ => exact fun h _ => absurd rfl h
  | _, _ :: _, [] => exact fun _ h => absurd rfl h
  | (k, a) :: as, (l, b) :: bs, (m, c) :: cs =>
    simp only [memberNumbers, List.forall_mem_append] at ha hb hc
    simp only [compareMembers]
    have hvalues := composes_compare hS ha.1 hb.1 hc.1
    exact (hvalues.lex fun _ _ => .of_transOrd k l m).lex fun _ _ =>
      composes_compareMembers hS ha.2 hb.2 hc.2

end

def numbers? (v : Option Value) : List Number := (v.getD .null).numbers

theorem compare?_trans_iff_coherent (S : Number → Prop) :
    (∀ a b c : Option Value,
      (∀ n ∈ numbers? a, S n) → (∀ n ∈ numbers? b, S n) → (∀ n ∈ numbers? c, S n) →
      compare? a b ≠ .gt → compare? b c ≠ .gt → compare? a c ≠ .gt) ↔
    Number.Coherent S := by
  constructor
  · intro htrans x y z hx hy hz hnone hxy hzy m n hm hn
    have hle : ∀ {x z : Number} {m n : Int}, S x → S z → x.key = y.key → z.key = y.key →
        x.int64? = some m → z.int64? = some n → m ≤ n := by
      intro x z m n hx hz hxy hzy hm hn
      have hleft : x.compare y = .eq := by
        rw [Number.compare_of_int64?_right x hnone, Int.compare_eq_eq.2 hxy]
      have hright : y.compare z = .eq := by
        rw [Number.compare_of_int64?_left hnone, Int.compare_eq_eq.2 hzy.symm]
      have hxz : x.compare z ≠ .gt :=
        htrans (some (.number x)) (some (.number y)) (some (.number z))
          (by simpa [numbers?, numbers]) (by simpa [numbers?, numbers])
          (by simpa [numbers?, numbers]) (show x.compare y ≠ .gt by simp [hleft])
          (show y.compare z ≠ .gt by simp [hright])
      rw [Number.compare, hm, hn] at hxz
      exact Int.compare_ne_gt.1 hxz
    exact Int.le_antisymm (hle hx hz hxy hzy hm hn) (hle hz hx hzy hxy hn hm)
  · intro hS a b c ha hb hc hab hbc
    exact (composes_compare hS ha hb hc).ne_gt hab hbc

/-- Both integers round to the double that stands between them. -/
theorem compare?_not_trans :
    let a : Value := .number (.int 9007199254740993)
    let b : Value := .number (.double ⟨false, 1076 * Nat.pow 2 52, by decide⟩)
    let c : Value := .number (.int 9007199254740992)
    compare? a b = .eq ∧ compare? b c = .eq ∧ compare? a c = .gt := by
  decide +kernel

end Value

end SortPipeline
