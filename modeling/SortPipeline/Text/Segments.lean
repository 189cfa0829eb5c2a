namespace SortPipeline.Text

def cut (separator : Char) : List Char → List (List Char)
  | [] => [[]]
  | c :: cs =>
    if c = separator then [] :: cut separator cs
    else
      match cut separator cs with
      | [] => [[c]]
      | s :: rest => (c :: s) :: rest

def cutLast? (separator : Char) : List Char → Option (List Char × List Char)
  | [] => none
  | c :: cs =>
    match cutLast? separator cs with
    | some (before, after) => some (c :: before, after)
    | none => if c = separator then some ([], cs) else none

def segments (separator : Char) (text : String) : List String :=
  (cut separator text.toList).map String.ofList

def join (separator : Char) : List (List Char) → List Char
  | [] => []
  | [s] => s
  | s :: rest => s ++ separator :: join separator rest

theorem cut_ne_nil (separator : Char) (cs : List Char) : cut separator cs ≠ [] := by
  cases cs with
  | nil => simp [cut]
  | cons c cs =>
    simp only [cut]
    split
    · simp
    · split <;> simp

@[simp] theorem join_cut (separator : Char) (cs : List Char) :
    join separator (cut separator cs) = cs := by
  induction cs with
  | nil => rfl
  | cons c cs ih =>
    simp only [cut]
    split
    · next h =>
      subst h
      cases hcut : cut c cs with
      | nil => exact absurd hcut (cut_ne_nil c cs)
      | cons s rest => rw [hcut] at ih; simp [join, ih]
    · cases hcut : cut separator cs with
      | nil => exact absurd hcut (cut_ne_nil separator cs)
      | cons s rest =>
        rw [hcut] at ih
        cases rest with
        | nil => simpa [join] using ih
        | cons t rest => simpa [join] using ih

theorem cut_eq_splitOn (separator : Char) (cs : List Char) :
    cut separator cs = cs.splitOn separator := by
  induction cs with
  | nil => rfl
  | cons c cs ih =>
    rw [cut, List.splitOn_cons_eq_if_modifyHead, ← ih]
    by_cases hc : c = separator
    · simp [hc]
    · cases hcut : cut separator cs with
      | nil => exact absurd hcut (cut_ne_nil separator cs)
      | cons s rest => simp [hc]

theorem cut_of_not_mem {separator : Char} {cs : List Char} (h : separator ∉ cs) :
    cut separator cs = [cs] := by
  induction cs with
  | nil => rfl
  | cons c cs ih =>
    rw [List.mem_cons, not_or] at h
    rw [cut, if_neg (Ne.symm h.1), ih h.2]

theorem cut_append (separator : Char) (cs ds : List Char) :
    cut separator (cs ++ separator :: ds) = cut separator cs ++ cut separator ds := by
  induction cs with
  | nil => simp [cut]
  | cons c cs ih =>
    by_cases hc : c = separator
    · simp [cut, hc, ih]
    · simp only [List.cons_append, cut, hc, if_false, ih]
      cases hcut : cut separator cs with
      | nil => exact absurd hcut (cut_ne_nil separator cs)
      | cons s rest => rfl

theorem cut_join {separator : Char} {parts : List (List Char)} (hne : parts ≠ [])
    (h : ∀ s ∈ parts, separator ∉ s) : cut separator (join separator parts) = parts := by
  induction parts with
  | nil => exact absurd rfl hne
  | cons s rest ih =>
    obtain ⟨hs, hrest⟩ := List.forall_mem_cons.1 h
    cases rest with
    | nil => exact cut_of_not_mem hs
    | cons t rest =>
      rw [join, cut_append, cut_of_not_mem hs, ih (List.cons_ne_nil t rest) hrest]
      · rfl
      · exact List.cons_ne_nil t rest

theorem not_mem_of_mem_cut {separator : Char} {cs s : List Char} (h : s ∈ cut separator cs) :
    separator ∉ s := by
  induction cs generalizing s with
  | nil => simp_all [cut]
  | cons c cs ih =>
    rw [cut] at h
    split at h
    · rcases List.mem_cons.1 h with rfl | h
      · exact List.not_mem_nil
      · exact ih h
    · next hc =>
      cases hcut : cut separator cs with
      | nil => exact absurd hcut (cut_ne_nil separator cs)
      | cons t rest =>
        rw [hcut] at h
        rcases List.mem_cons.1 h with rfl | h
        · simp [Ne.symm hc, ih (hcut ▸ List.mem_cons_self)]
        · exact ih (hcut ▸ List.mem_cons_of_mem t h)

theorem not_mem_of_cutLast?_eq_none {separator : Char} {cs : List Char}
    (h : cutLast? separator cs = none) : separator ∉ cs := by
  induction cs with
  | nil => exact List.not_mem_nil
  | cons c cs ih =>
    rw [cutLast?] at h
    split at h
    · cases h
    · next hrest =>
      split at h
      · cases h
      · next hc => simp [Ne.symm hc, ih hrest]

theorem eq_append_of_cutLast? {separator : Char} {cs before after : List Char}
    (h : cutLast? separator cs = some (before, after)) :
    cs = before ++ separator :: after ∧ separator ∉ after := by
  induction cs generalizing before with
  | nil => cases h
  | cons c cs ih =>
    rw [cutLast?] at h
    split at h
    · next hrest =>
      cases h
      obtain ⟨rfl, hafter⟩ := ih hrest
      exact ⟨rfl, hafter⟩
    · next hrest =>
      split at h
      · next hc =>
        cases h
        exact ⟨hc ▸ rfl, not_mem_of_cutLast?_eq_none hrest⟩
      · cases h

end SortPipeline.Text
