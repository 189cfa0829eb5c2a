import SortPipeline.Json.Printer
import SortPipeline.Text.Lowercase

namespace SortPipeline

namespace Text

def Numeric (c : Char) : Prop := c.isDigit ∨ c ∈ ['+', '-', '.', 'e']

instance : DecidablePred Numeric := fun _ => inferInstanceAs (Decidable (_ ∨ _))

theorem lowerChar_of_isDigit {c : Char} (h : c.isDigit) : lowerChar c = [c] := by
  have hruns : ∀ r ∈ lowerRuns, 58 ≤ r.first := by decide +kernel
  have hlast : c.toNat ≤ 57 := (Char.isDigit_iff_toNat.1 h).2
  have hfind : lowerRuns.find? (fun r => r.first ≤ c.toNat && c.toNat ≤ r.last &&
      (c.toNat - r.first) % r.step == 0) = none := by
    rw [List.find?_eq_none]
    intro r hr hmatch
    have hfirst := hruns r hr
    simp only [Bool.and_eq_true, decide_eq_true_eq] at hmatch
    omega
  have hne : c ≠ '\u0130' := by
    rintro rfl
    exact absurd h (by decide)
  simp only [lowerChar, hne, if_false, hfind]

theorem lowerChar_of_numeric {c : Char} (h : Numeric c) : c ≠ '\u03A3' ∧ lowerChar c = [c] := by
  rcases h with h | h
  · refine ⟨?_, lowerChar_of_isDigit h⟩
    rintro rfl
    exact absurd h (by decide)
  · simp only [List.mem_cons, List.not_mem_nil, or_false] at h
    rcases h with rfl | rfl | rfl | rfl <;> decide +kernel

theorem lowerFrom_of_numeric {cs : List Char} (h : ∀ c ∈ cs, Numeric c) (before : List Char) :
    lowerFrom before cs = cs := by
  induction cs generalizing before with
  | nil => rfl
  | cons c cs ih =>
    obtain ⟨hc, hcs⟩ := List.forall_mem_cons.1 h
    obtain ⟨hsigma, hlower⟩ := lowerChar_of_numeric hc
    simp [lowerFrom, hsigma, hlower, ih hcs]

def AllNumeric (text : String) : Prop := ∀ c ∈ text.toList, Numeric c

instance : DecidablePred AllNumeric := fun text => List.decidableBAll Numeric text.toList

theorem lowercase_of_allNumeric {text : String} (h : AllNumeric text) : lowercase text = text := by
  rw [lowercase, lowerFrom_of_numeric h, String.ofList_toList]

namespace AllNumeric

theorem append {s t : String} (hs : AllNumeric s) (ht : AllNumeric t) : AllNumeric (s ++ t) := by
  intro c hc
  rw [String.toList_append, List.mem_append] at hc
  exact hc.elim (hs c) (ht c)

theorem ofList_of_subset {s : String} (hs : AllNumeric s) {cs : List Char} (h : cs ⊆ s.toList) :
    AllNumeric (String.ofList cs) := by
  intro c hc
  rw [String.toList_ofList] at hc
  exact hs c (h hc)

theorem pushn_zeros (n : Nat) : AllNumeric ("".pushn '0' n) := by
  rw [String.pushn_eq_repeat_push]
  induction n with
  | zero => intro c hc; simp [Nat.repeat] at hc
  | succ n ih =>
    intro c hc
    rw [Nat.repeat, String.toList_push, List.mem_append] at hc
    rcases hc with hc | hc
    · exact ih c hc
    · exact .inl (by simp_all)

theorem natRepr (n : Nat) : AllNumeric n.repr := by
  intro c hc
  rw [Nat.toList_repr] at hc
  exact .inl (Nat.isDigit_of_mem_toDigits (by decide) (by decide) hc)

end AllNumeric

end Text

theorem Decimal.allNumeric_text (d : Decimal) : Text.AllNumeric d.text := by
  have hdigits : Text.AllNumeric (toString d.digits) := .natRepr _
  have htake : ∀ n, Text.AllNumeric (String.ofList ((toString d.digits).toList.take n)) :=
    fun n => hdigits.ofList_of_subset (List.take_subset n _)
  have hdrop : ∀ n, Text.AllNumeric (String.ofList ((toString d.digits).toList.drop n)) :=
    fun n => hdigits.ofList_of_subset (List.drop_subset n _)
  unfold Decimal.text
  extract_lets digits count point tail
  split
  · exact (hdigits.append (.pushn_zeros _)).append (by decide)
  · split
    · exact ((htake _).append (by decide)).append (hdrop _)
    · split
      · exact (Text.AllNumeric.append (by decide) (.pushn_zeros _)).append hdigits
      · refine (((htake 1).append ?_).append ?_).append (.natRepr _)
        · split
          · decide
          · exact .append (by decide) (hdrop 1)
        · split <;> decide

theorem Number.lowercase_text (n : Number) : Text.lowercase n.text = n.text := by
  apply Text.lowercase_of_allNumeric
  cases n with
  | int n =>
    rw [Number.text, Int.toString_eq_repr, Int.repr_eq_if]
    split
    · exact .natRepr _
    · exact .append (by decide) (.natRepr _)
  | double x =>
    refine .append ?_ (Decimal.allNumeric_text _)
    split <;> decide

end SortPipeline
