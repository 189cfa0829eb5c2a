import SortPipeline.Plan

namespace SortPipeline.Temporary

theorem escape_append_inj {c d : Char} {cs ds : List Char}
    (h : escape c ++ cs = escape d ++ ds) : c = d ∧ cs = ds := by
  unfold escape at h
  split at h <;> split at h <;> grind

theorem flatMap_escape_inj {cs ds : List Char} (h : cs.flatMap escape = ds.flatMap escape) :
    cs = ds := by
  have hne : ∀ c, escape c ≠ [] := by
    intro c
    unfold escape
    split <;> simp
  induction cs generalizing ds with
  | nil =>
    cases ds with
    | nil => rfl
    | cons d ds => simp [hne] at h
  | cons c cs ih =>
    cases ds with
    | nil => simp [hne] at h
    | cons d ds =>
      obtain ⟨rfl, hrest⟩ := escape_append_inj h
      rw [ih hrest]

theorem tag_inj {s t : Strategy} {cs ds : List Char}
    (h : cs ++ s.tag.toList = ds ++ t.tag.toList) : s = t := by
  -- The last four characters tell the strategies apart.
  have hlast : ∀ (s : Strategy) (cs : List Char),
      (cs ++ s.tag.toList).reverse.take 4 = s.tag.toList.reverse.take 4 := by
    intro s cs
    rw [List.reverse_append, List.take_append_of_le_length]
    cases s <;> decide
  have htags : s.tag.toList.reverse.take 4 = t.tag.toList.reverse.take 4 := by
    rw [← hlast s cs, h, hlast]
  revert htags
  cases s <;> cases t <;> decide

theorem name_inj {key other : String} {s t : Strategy}
    (h : name key s.tag = name other t.tag) : key = other ∧ s = t := by
  have hchars := String.ofList_injective h
  obtain rfl := tag_inj hchars
  have hkeys := List.append_cancel_right (List.append_cancel_right hchars)
  exact ⟨String.toList_injective (flatMap_escape_inj hkeys), rfl⟩

theorem dot_not_mem_escape (c : Char) : '.' ∉ escape c := by
  unfold escape
  split <;> simp_all [eq_comm]

theorem dot_not_mem_name (key : String) (s : Strategy) : '.' ∉ (name key s.tag).toList := by
  have hmarker : '.' ∉ marker.toList := by decide
  have htag : '.' ∉ s.tag.toList := by cases s <;> decide
  simp [name, dot_not_mem_escape, hmarker, htag]

end SortPipeline.Temporary
