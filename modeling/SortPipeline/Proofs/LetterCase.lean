import SortPipeline.Text.Lowercase

namespace SortPipeline.Text

def asciiCapitals : List Char := (List.range 26).map fun n => Char.ofNat (65 + n)

theorem toLower_eq_self_or_mem (c : Char) : c.toLower = c ∨ c ∈ asciiCapitals := by
  by_cases h : c.val ≥ 'A'.val ∧ c.val ≤ 'Z'.val
  · right
    have hfirst : 65 ≤ c.toNat := UInt32.le_iff_toNat_le.1 h.1
    have hlast : c.toNat ≤ 90 := UInt32.le_iff_toNat_le.1 h.2
    refine List.mem_map.2 ⟨c.toNat - 65, List.mem_range.2 (by omega), ?_⟩
    rw [Nat.add_sub_cancel' hfirst, Char.ofNat_toNat]
  · exact .inl (dif_neg h)

theorem apply_toLower {α : Type} {f : Char → α}
    (h : asciiCapitals.map (fun c => f c.toLower) = asciiCapitals.map f) (c : Char) :
    f c.toLower = f c := by
  rcases toLower_eq_self_or_mem c with hc | hc
  · rw [hc]
  · exact List.map_inj_left.1 h c hc

theorem lowerChar_toLower (c : Char) : lowerChar c.toLower = lowerChar c :=
  apply_toLower (by decide +kernel) c

theorem contains_cased_toLower (c : Char) : cased.contains c.toLower = cased.contains c :=
  apply_toLower (by decide +kernel) c

theorem contains_caseIgnorable_toLower (c : Char) :
    caseIgnorable.contains c.toLower = caseIgnorable.contains c :=
  apply_toLower (by decide +kernel) c

theorem toLower_eq_sigma_iff (c : Char) : c.toLower = '\u03A3' ↔ c = '\u03A3' := by
  rw [← decide_eq_decide]
  exact apply_toLower (f := fun c => decide (c = '\u03A3')) (by decide +kernel) c

theorem casedAhead_map_toLower (cs : List Char) :
    casedAhead (cs.map Char.toLower) = casedAhead cs := by
  have hskip : (cs.map Char.toLower).dropWhile caseIgnorable.contains =
      (cs.dropWhile caseIgnorable.contains).map Char.toLower := by
    simp only [List.dropWhile_map, Function.comp_def, contains_caseIgnorable_toLower]
  rw [casedAhead, casedAhead, hskip]
  cases cs.dropWhile caseIgnorable.contains with
  | nil => rfl
  | cons c rest => exact contains_cased_toLower c

theorem lowerFrom_map_toLower (before cs : List Char) :
    lowerFrom (before.map Char.toLower) (cs.map Char.toLower) = lowerFrom before cs := by
  induction cs generalizing before with
  | nil => rfl
  | cons c cs ih =>
    have hrest := ih (c :: before)
    rw [List.map_cons] at hrest
    simp only [List.map_cons, lowerFrom, toLower_eq_sigma_iff, casedAhead_map_toLower,
      lowerChar_toLower, hrest]

def SameLetters (s t : String) : Prop := s.toList.map Char.toLower = t.toList.map Char.toLower

instance (s t : String) : Decidable (SameLetters s t) := inferInstanceAs (Decidable (_ = _))

theorem lowercase_eq_of_sameLetters {s t : String} (h : SameLetters s t) :
    lowercase s = lowercase t := by
  have hchars : lowerFrom [] s.toList = lowerFrom [] t.toList :=
    calc
      lowerFrom [] s.toList = lowerFrom [] (s.toList.map Char.toLower) :=
        (lowerFrom_map_toLower [] s.toList).symm
      _ = lowerFrom [] (t.toList.map Char.toLower) := by rw [h]
      _ = lowerFrom [] t.toList := lowerFrom_map_toLower [] t.toList
  rw [lowercase, lowercase, hchars]

example : lowercase "A\u03A3" = "a\u03C2" ∧ lowercase "a\u03A3" = "a\u03C2" := by decide +kernel

end SortPipeline.Text
