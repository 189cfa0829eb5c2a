import Mathlib.Algebra.Ring.Int.Defs
import Mathlib.Algebra.Ring.Nat
import SortPipeline.Document.Order
import SortPipeline.Proofs.Rounding

/-! The order of integers. Those of 64 bits with sign are compared as they are. If one of two is
greater than these, both are rounded, and they tie if they round to one double: from `2 ^ 63` up
to `2 ^ 64` only the multiples of 2048 are doubles. -/

namespace SortPipeline

namespace Double

theorem roundedQuotient_mul_right (n step : Nat) {k : Nat} (hk : 0 < k) :
    roundedQuotient (n * k) (step * k) = roundedQuotient n step := by
  have hdiv : n * k / (step * k) = n / step := Nat.mul_div_mul_right n step hk
  have hmod : 2 * (n * k % (step * k)) = 2 * (n % step) * k := by
    rw [Nat.mul_mod_mul_right, Nat.mul_assoc]
  have hlt : step * k < 2 * (n % step) * k ↔ step < 2 * (n % step) := Nat.mul_lt_mul_right hk
  have heq : 2 * (n % step) * k = step * k ↔ 2 * (n % step) = step :=
    Nat.mul_left_inj (Nat.ne_of_gt hk)
  simp only [roundedQuotient, hdiv, hmod, Bool.or_eq_true, Bool.and_eq_true, decide_eq_true_eq,
    beq_iff_eq, hlt, heq]

theorem log2_mul_pow {n m : Nat} (h : 2 ^ m ≤ n) (h' : n < 2 ^ (m + 1)) (k : Nat) :
    (n * Nat.pow 2 k).log2 = m + k := by
  have hpos : n * 2 ^ k ≠ 0 :=
    Nat.mul_ne_zero (Nat.ne_of_gt (Nat.lt_of_lt_of_le (Nat.two_pow_pos m) h))
      (Nat.ne_of_gt (Nat.two_pow_pos k))
  refine (Nat.log2_eq_iff hpos).2 ⟨?_, ?_⟩
  · rw [Nat.pow_add]
    exact Nat.mul_le_mul_right _ h
  · rw [Nat.add_right_comm, Nat.pow_add]
    exact Nat.mul_lt_mul_of_pos_right h' (Nat.two_pow_pos k)

theorem keyOfInt_of_le {n : Nat} (h : 2 ^ 63 ≤ n) (h' : n < 2 ^ 64) :
    keyOfInt n = 1085 * 2 ^ 52 + roundedQuotient n 2048 := by
  have hrank : nearestRank n 1 = (11 + 1074) * Nat.pow 2 52 + roundedQuotient n 2048 := by
    rw [nearestRank_eq]
    generalize 1074 = k
    have hexcess : excess (n * Nat.pow 2 k / 1) = 11 + k := by
      rw [Nat.div_one, excess, log2_mul_pow h h']
      omega
    have hstep : 1 * Nat.pow 2 (11 + k) = 2048 * Nat.pow 2 k := by
      rw [Nat.one_mul]
      exact Nat.pow_add 2 11 k
    rw [hexcess, hstep, roundedQuotient_mul_right]
    exact Nat.two_pow_pos k
  exact congrArg Int.ofNat hrank

theorem keyOfInt_of_near {n : Int} (h : 2 ^ 63 - 512 ≤ n) (h' : n ≤ 2 ^ 63) :
    keyOfInt n = 1086 * 2 ^ 52 ∧ roundedQuotient n.toNat 2048 = 2 ^ 52 := by
  have hkeys := And.intro (keyOfInt_mono h) (keyOfInt_mono h')
  have hquotients := And.intro (roundedQuotient_mono (Int.toNat_le_toNat h) 2048)
    (roundedQuotient_mono (Int.toNat_le_toNat h') 2048)
  have hlow : keyOfInt (2 ^ 63 - 512) = 1086 * 2 ^ 52 := by decide +kernel
  have hhigh : keyOfInt (2 ^ 63) = 1086 * 2 ^ 52 := by decide +kernel
  have hlow' : roundedQuotient (2 ^ 63 - 512 : Int).toNat 2048 = 2 ^ 52 := by decide +kernel
  have hhigh' : roundedQuotient (2 ^ 63 : Int).toNat 2048 = 2 ^ 52 := by decide +kernel
  omega

/-- Two integers, the greater at least `2 ^ 63`, round to one double exactly if the other is no
farther from `2 ^ 63` than half way to the double before, and one multiple of 2048 is nearest to
both. -/
theorem keyOfInt_eq_iff {m n : Int} (hmn : m ≤ n) (h : 2 ^ 63 ≤ n) (h' : n < 2 ^ 64) :
    keyOfInt m = keyOfInt n ↔
      2 ^ 63 - 512 ≤ m ∧ roundedQuotient m.toNat 2048 = roundedQuotient n.toNat 2048 := by
  have hlong (k : Int) (hk : 2 ^ 63 ≤ k) (hk' : k < 2 ^ 64) :
      keyOfInt k = 1085 * 2 ^ 52 + roundedQuotient k.toNat 2048 := by
    obtain ⟨k, rfl⟩ := Int.eq_ofNat_of_zero_le (a := k) (by omega)
    exact keyOfInt_of_le (by omega) (by omega)
  rw [hlong n h h']
  rcases Int.lt_or_le m (2 ^ 63) with hlt | hle
  · rcases Int.lt_or_le m (2 ^ 63 - 512) with hfar | hnear
    · have hbelow : keyOfInt m ≤ keyOfInt (2 ^ 63 - 513) := keyOfInt_mono (by omega)
      have hgap : keyOfInt (2 ^ 63 - 513) < 1086 * 2 ^ 52 := by decide +kernel
      have habove : 1086 * 2 ^ 52 ≤ keyOfInt n :=
        (keyOfInt_of_near (by decide) (Int.le_refl _)).1 ▸ keyOfInt_mono h
      rw [hlong n h h'] at habove
      omega
    · obtain ⟨hkey, hquotient⟩ := keyOfInt_of_near hnear (Int.le_of_lt hlt)
      omega
  · rw [hlong m hle (by omega)]
    omega

theorem compare_keyOfInt_of_ne {a b : Int} (h : keyOfInt a ≠ keyOfInt b) :
    Ord.compare (keyOfInt a) (keyOfInt b) = Ord.compare a b := by
  rcases Int.lt_trichotomy a b with hlt | rfl | hlt
  · have hle := keyOfInt_mono (Int.le_of_lt hlt)
    rw [Int.compare_eq_lt.2 hlt, Int.compare_eq_lt.2 (by omega)]
  · exact absurd rfl h
  · have hle := keyOfInt_mono (Int.le_of_lt hlt)
    rw [Int.compare_eq_gt.2 hlt, Int.compare_eq_gt.2 (by omega)]

end Double

namespace Number

/-- The greater of the two is no integer of 64 bits with sign, and both are nearest to one multiple
of 2048. Below `2 ^ 63` doubles stand closer together, so there only the last 512 integers count. -/
def Merged (a b : Int) : Prop :=
  2 ^ 63 ≤ max a b ∧ 2 ^ 63 - 512 ≤ min a b ∧
    Double.roundedQuotient a.toNat 2048 = Double.roundedQuotient b.toNat 2048

instance (a b : Int) : Decidable (Merged a b) :=
  inferInstanceAs (Decidable (_ ∧ _ ∧ _))

theorem merged_comm {a b : Int} : Merged a b ↔ Merged b a := by
  rw [Merged, Merged, Int.max_comm, Int.min_comm, eq_comm]

theorem merged_iff {a b : Int} (ha : a < 2 ^ 64) (hb : b < 2 ^ 64)
    (h : 2 ^ 63 ≤ max a b) : Merged a b ↔ Double.keyOfInt a = Double.keyOfInt b := by
  rcases Int.le_total a b with hab | hba
  · rw [Int.max_eq_right hab] at h
    rw [Double.keyOfInt_eq_iff hab h hb, Merged, Int.max_eq_right hab, Int.min_eq_left hab]
    exact and_iff_right h
  · rw [Int.max_eq_left hba] at h
    rw [merged_comm, eq_comm, Double.keyOfInt_eq_iff hba h ha, Merged, Int.max_eq_right hba,
      Int.min_eq_left hba]
    exact and_iff_right h

theorem compare_int {a b : Int} (ha : -2 ^ 63 ≤ a) (hb : -2 ^ 63 ≤ b) :
    (int a).compare (int b) =
      if max a b < 2 ^ 63 then Ord.compare a b
      else Ord.compare (Double.keyOfInt a) (Double.keyOfInt b) := by
  have hfits {n : Int} (hn : -2 ^ 63 ≤ n) :
      (int n).int64? = if n < 2 ^ 63 then some n else none := by
    have hlow : -9223372036854775808 ≤ n := hn
    simp only [int64?, hlow, true_and]
    rfl
  rw [Number.compare, hfits ha, hfits hb]
  by_cases ha' : a < 2 ^ 63 <;> by_cases hb' : b < 2 ^ 63 <;>
    simp only [Int.max_lt, ha', hb', if_true, if_false, and_true, and_false, key]

end Number

namespace Value

/-- Integers from `-2 ^ 63` up to `2 ^ 64` are in the order of their values, except that two which
are merged tie. -/
theorem compare?_int {a b : Int} (ha : -2 ^ 63 ≤ a ∧ a < 2 ^ 64) (hb : -2 ^ 63 ≤ b ∧ b < 2 ^ 64) :
    compare? (some (.number (.int a))) (some (.number (.int b))) =
      if Number.Merged a b then .eq else Ord.compare a b := by
  refine (Number.compare_int ha.1 hb.1).trans ?_
  by_cases hmax : max a b < 2 ^ 63
  · have hnot : ¬Number.Merged a b := fun hmerged => Int.not_le.2 hmax hmerged.1
    rw [if_pos hmax, if_neg hnot]
  · rw [if_neg hmax]
    have hiff := Number.merged_iff ha.2 hb.2 (Int.not_lt.1 hmax)
    by_cases hkey : Double.keyOfInt a = Double.keyOfInt b
    · rw [if_pos (hiff.2 hkey), Int.compare_eq_eq.2 hkey]
    · rw [if_neg (hiff.not.2 hkey), Double.compare_keyOfInt_of_ne hkey]

theorem compare?_int_of_far :
    compare? (some (.number (.int (2 ^ 64 - 1)))) (some (.number (.int (2 ^ 64 - 1025)))) =
      .gt := by
  have hnot : ¬Number.Merged (2 ^ 64 - 1) (2 ^ 64 - 1025) := by decide +kernel
  rw [compare?_int (by decide) (by decide), if_neg hnot]
  rfl

theorem not_every_integer_by_value :
    ¬∀ a b : Int, -2 ^ 63 ≤ a ∧ a < 2 ^ 64 → -2 ^ 63 ≤ b ∧ b < 2 ^ 64 →
      compare? (some (.number (.int a))) (some (.number (.int b))) = Ord.compare a b := by
  intro h
  have hgreater : compare? (some (.number (.int (2 ^ 64 - 1))))
      (some (.number (.int (2 ^ 64 - 2)))) = .gt :=
    h (2 ^ 64 - 1) (2 ^ 64 - 2) (by decide) (by decide)
  have htie : compare? (some (.number (.int (2 ^ 64 - 1))))
      (some (.number (.int (2 ^ 64 - 2)))) = .eq := by
    decide +kernel
  rw [htie] at hgreater
  cases hgreater

end Value

end SortPipeline
