import SortPipeline.Proofs.TotalPreorder

namespace SortPipeline

/-- A value as comparisons take it: a date is nothing but its instant, in milliseconds. -/
inductive Comparand
  | null
  | bool (b : Bool)
  | number (n : Number)
  | string (s : String)
  | array (items : List Comparand)
  | object (members : List (String × Comparand))
  | date (millis : Int)

def Comparand.rank : Comparand → Nat
  | .null => 1
  | .number _ => 2
  | .string _ => 3
  | .object _ => 4
  | .array _ => 5
  | .bool _ => 8
  | .date _ => 9

namespace Number

theorem compare_eq_iff {a b : Number} (ha : a.int64?.isSome) (hb : b.int64?.isSome) :
    a.compare b = .eq ↔ a = b := by
  obtain ⟨m, hm⟩ := Option.isSome_iff_exists.1 ha
  obtain ⟨n, hn⟩ := Option.isSome_iff_exists.1 hb
  rw [Number.compare, hm, hn, eq_int_of_int64? hm, eq_int_of_int64? hn, int.injEq]
  exact Int.compare_eq_eq

end Number

namespace Value

mutual

def comparand : Value → Comparand
  | .null => .null
  | .bool b => .bool b
  | .number n => .number n
  | .string s => .string s
  | .array items => .array (itemComparands items)
  | .object members =>
    match dateMillis? members with
    | some millis => .date millis
    | none => .object (memberComparands members)
termination_by structural v => v

def itemComparands : List Value → List Comparand
  | [] => []
  | v :: rest => v.comparand :: itemComparands rest
termination_by structural items => items

def memberComparands : List (String × Value) → List (String × Comparand)
  | [] => []
  | (name, v) :: rest => (name, v.comparand) :: memberComparands rest
termination_by structural members => members

end

@[simp] theorem rank_comparand (v : Value) : v.comparand.rank = v.rank := by
  cases v with
  | object members => cases h : dateMillis? members <;> simp [comparand, rank, Comparand.rank, h]
  | _ => rfl

mutual

theorem compare_eq_iff {a b : Value} (ha : a.Integral) (hb : b.Integral) :
    a.compare b = .eq ↔ a.comparand = b.comparand := by
  by_cases hrank : a.rank = b.rank
  · cases alike_of_rank_eq hrank with
    | null => exact iff_of_true rfl rfl
    | bool x y => simp [compare, comparand]
    | number m n =>
      rw [comparand, comparand, Comparand.number.injEq]
      exact Number.compare_eq_iff (integral_number.1 ha) (integral_number.1 hb)
    | string s t => simp [compare, comparand]
    | array as bs =>
      simp only [Integral, numbers] at ha hb
      rw [compare, comparand, comparand, Comparand.array.injEq]
      exact compareItems_eq_iff ha hb
    | date has hbs => simp [compare, comparand, has, hbs]
    | object has hbs =>
      simp only [Integral, numbers, has, hbs] at ha hb
      simp only [compare, comparand, has, hbs, Comparand.object.injEq]
      exact compareMembers_eq_iff ha hb
  · -- Ranks tell values apart, and comparands too.
    refine iff_of_false (fun h => hrank (rank_eq_of_compare_eq h)) fun h => hrank ?_
    rw [← rank_comparand, h, rank_comparand]

theorem compareItems_eq_iff {as bs : List Value} (ha : ∀ n ∈ itemNumbers as, n.int64?.isSome)
    (hb : ∀ n ∈ itemNumbers bs, n.int64?.isSome) :
    compareItems as bs = .eq ↔ itemComparands as = itemComparands bs := by
  match as, bs with
  | [], [] => exact iff_of_true rfl rfl
  | [], _ :: _ | _ :: _, [] => simp [compareItems, itemComparands]
  | a :: as, b :: bs =>
    simp only [itemNumbers, List.forall_mem_append] at ha hb
    rw [compareItems, Ordering.then_eq_eq, itemComparands, itemComparands, List.cons.injEq,
      compare_eq_iff ha.1 hb.1, compareItems_eq_iff ha.2 hb.2]

theorem compareMembers_eq_iff {as bs : List (String × Value)}
    (ha : ∀ n ∈ memberNumbers as, n.int64?.isSome)
    (hb : ∀ n ∈ memberNumbers bs, n.int64?.isSome) :
    compareMembers as bs = .eq ↔ memberComparands as = memberComparands bs := by
  match as, bs with
  | [], [] => exact iff_of_true rfl rfl
  | [], _ :: _ | _ :: _, [] => simp [compareMembers, memberComparands]
  | (m, a) :: as, (n, b) :: bs =>
    simp only [memberNumbers, List.forall_mem_append] at ha hb
    rw [compareMembers, Ordering.then_eq_eq, Ordering.then_eq_eq, memberComparands,
      memberComparands, List.cons.injEq, Prod.mk.injEq, compare_eq_iff ha.1 hb.1,
      compareMembers_eq_iff ha.2 hb.2, Std.LawfulEqOrd.compare_eq_iff_eq]
    exact and_congr_left' and_comm

end

/-- Values tie exactly if they are the same but for the writing of dates, a missing one being
null. -/
theorem compare?_eq_iff {a b : Option Value} (ha : ∀ v ∈ a, v.Integral)
    (hb : ∀ v ∈ b, v.Integral) :
    compare? a b = .eq ↔ (a.getD .null).comparand = (b.getD .null).comparand :=
  compare_eq_iff (integral_getD ha) (integral_getD hb)

def noonInLondon : Value :=
  .object [("stops", .array [.null, .object [("$date", .string "2024-01-01T12:00:00Z")]]),
    ("fare", .number (.int (-9223372036854775808)))]

def noonInParis : Value :=
  .object [("stops", .array [.null, .object [("$date", .string "2024-01-01T13:00:00+01:00")]]),
    ("fare", .number (.int (-9223372036854775808)))]

theorem compare?_noon_eq :
    (∀ v ∈ some noonInLondon, v.Integral) ∧ (∀ v ∈ some noonInParis, v.Integral) ∧
      noonInLondon.comparand = noonInParis.comparand ∧
      compare? (some noonInLondon) (some noonInParis) = .eq := by
  have hlondon : noonInLondon.Integral := by decide
  have hparis : noonInParis.Integral := by decide
  have hnoon : dateMillis? [("$date", .string "2024-01-01T12:00:00Z")] = some 1704110400000 := by
    decide +kernel
  have hnoon' : dateMillis? [("$date", .string "2024-01-01T13:00:00+01:00")] =
      some 1704110400000 := by
    decide +kernel
  have hsame : noonInLondon.comparand = noonInParis.comparand := by
    simp only [noonInLondon, noonInParis, comparand, itemComparands, memberComparands, hnoon,
      hnoon']
    rfl
  have hall {v : Value} (h : v.Integral) : ∀ w ∈ some v, w.Integral :=
    fun w hw => Option.some.inj hw ▸ h
  exact ⟨hall hlondon, hall hparis, hsame, (compare?_eq_iff (hall hlondon) (hall hparis)).2 hsame⟩

end Value

end SortPipeline
