import SortPipeline.Double.Basic

namespace SortPipeline.Double

def roundedQuotient (n step : Nat) : Nat :=
  let rest := 2 * (n % step)
  if step < rest || (rest == step && n / step % 2 == 1) then n / step + 1 else n / step

theorem le_roundedQuotient (n step : Nat) : n / step ≤ roundedQuotient n step := by
  simp only [roundedQuotient]
  split
  · exact Nat.le_succ _
  · exact Nat.le_refl _

theorem roundedQuotient_le (n step : Nat) : roundedQuotient n step ≤ n / step + 1 := by
  simp only [roundedQuotient]
  split
  · exact Nat.le_refl _
  · exact Nat.le_succ _

theorem roundedQuotient_mono {m n : Nat} (h : m ≤ n) (step : Nat) :
    roundedQuotient m step ≤ roundedQuotient n step := by
  rcases Nat.lt_or_eq_of_le (Nat.div_le_div_right (c := step) h) with hlt | heq
  · calc
      roundedQuotient m step ≤ m / step + 1 := roundedQuotient_le m step
      _ ≤ n / step := hlt
      _ ≤ roundedQuotient n step := le_roundedQuotient n step
  · -- With one quotient, the greater number has the greater rest.
    have hm := Nat.div_add_mod m step
    have hn := Nat.div_add_mod n step
    rw [← heq] at hn
    simp only [roundedQuotient, ← heq, Bool.or_eq_true, Bool.and_eq_true, decide_eq_true_eq,
      beq_iff_eq]
    split <;> split <;> omega

def excess (n : Nat) : Nat := n.log2 - 52

theorem nearestRank_eq (num den : Nat) :
    nearestRank num den =
      excess (num * Nat.pow 2 1074 / den) * Nat.pow 2 52 +
        roundedQuotient (num * Nat.pow 2 1074)
          (den * Nat.pow 2 (excess (num * Nat.pow 2 1074 / den))) := rfl

theorem log2_mono {m n : Nat} (h : m ≤ n) : m.log2 ≤ n.log2 := by
  rcases Nat.eq_zero_or_pos m with rfl | hm
  · simp
  · exact (Nat.le_log2 (by omega)).2 (Nat.le_trans (Nat.log2_self_le (by omega)) h)

theorem div_excess_lt (n : Nat) : n / Nat.pow 2 (excess n) < Nat.pow 2 53 := by
  rw [Nat.pow_eq, Nat.pow_eq, Nat.div_lt_iff_lt_mul (Nat.two_pow_pos _), ← Nat.pow_add]
  exact Nat.lt_of_lt_of_le Nat.lt_log2_self
    (Nat.pow_le_pow_right (by decide) (by unfold excess; omega))

theorem le_div_excess {n : Nat} (h : 0 < excess n) :
    Nat.pow 2 52 ≤ n / Nat.pow 2 (excess n) := by
  have hlog : 52 + excess n = n.log2 := by unfold excess at *; omega
  have hn : n ≠ 0 := by rintro rfl; simp [excess] at h
  rw [Nat.pow_eq, Nat.pow_eq, Nat.le_div_iff_mul_le (Nat.two_pow_pos _), ← Nat.pow_add, hlog]
  exact Nat.log2_self_le hn

theorem nearestRank_mono {m n : Nat} (h : m ≤ n) (den : Nat) :
    nearestRank m den ≤ nearestRank n den := by
  have hscaled : m * Nat.pow 2 1074 ≤ n * Nat.pow 2 1074 := Nat.mul_le_mul_right _ h
  rw [nearestRank_eq, nearestRank_eq]
  generalize m * Nat.pow 2 1074 = s at *
  generalize n * Nat.pow 2 1074 = t at *
  have hexcess : excess (s / den) ≤ excess (t / den) :=
    Nat.sub_le_sub_right (log2_mono (Nat.div_le_div_right hscaled)) 52
  rcases Nat.lt_or_eq_of_le hexcess with hlt | heq
  · -- The ranks of a shorter length all come before those of a longer one.
    have hlow : s / (den * Nat.pow 2 (excess (s / den))) < Nat.pow 2 53 := by
      rw [← Nat.div_div_eq_div_mul]
      exact div_excess_lt _
    have hhigh : Nat.pow 2 52 ≤ t / (den * Nat.pow 2 (excess (t / den))) := by
      rw [← Nat.div_div_eq_div_mul]
      exact le_div_excess (by omega)
    have hs := roundedQuotient_le s (den * Nat.pow 2 (excess (s / den)))
    have ht := le_roundedQuotient t (den * Nat.pow 2 (excess (t / den)))
    have hstep : Nat.pow 2 53 = 2 * Nat.pow 2 52 := rfl
    have hnext : (excess (s / den) + 1) * Nat.pow 2 52 ≤ excess (t / den) * Nat.pow 2 52 :=
      Nat.mul_le_mul_right _ hlt
    rw [Nat.add_mul] at hnext
    omega
  · rw [heq]
    exact Nat.add_le_add_left (roundedQuotient_mono hscaled _) _

theorem keyOfInt_mono {m n : Int} (h : m ≤ n) : keyOfInt m ≤ keyOfInt n := by
  cases m with
  | ofNat m =>
    cases n with
    | ofNat n => exact Int.ofNat_le.2 (nearestRank_mono (Int.ofNat_le.1 h) 1)
    | negSucc n =>
      have hneg : (m : Int) ≤ .negSucc n := h
      omega
  | negSucc m =>
    cases n with
    | ofNat n => simp only [keyOfInt]; omega
    | negSucc n =>
      have hle := nearestRank_mono (show n + 1 ≤ m + 1 by omega) 1
      simp only [keyOfInt]
      omega

end SortPipeline.Double
