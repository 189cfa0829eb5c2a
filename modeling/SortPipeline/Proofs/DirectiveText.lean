import SortPipeline.Directive

namespace SortPipeline

namespace Token

theorem toChars_ofChars (cs : List Char) : (ofChars cs).toChars = cs := by
  unfold ofChars
  split <;> simp [toChars]

/-- A directive can have the token: its name neither ends at a comma nor loses a hyphen. -/
def Spellable (t : Token) : Prop :=
  ',' ∉ t.name.toList ∧ (t.descending = false → t.name.toList.head? ≠ some '-')

theorem ofChars_toChars {t : Token} (h : t.Spellable) : ofChars t.toChars = t := by
  obtain ⟨name, descending⟩ := t
  cases descending with
  | true => simp [toChars, ofChars]
  | false =>
    have hhead : name.toList.head? ≠ some '-' := h.2 rfl
    rw [toChars, if_neg Bool.false_ne_true, ofChars]
    · rw [String.ofList_toList]
    · intro rest hrest
      simp [hrest] at hhead

theorem comma_not_mem_toChars {t : Token} (h : t.Spellable) : ',' ∉ t.toChars := by
  unfold toChars
  split <;> simp [h.1]

theorem spellable_ofChars {cs : List Char} (h : ',' ∉ cs) : (ofChars cs).Spellable := by
  unfold ofChars
  split
  · next name => exact ⟨by simpa using h, nofun⟩
  · next hhyphen =>
    refine ⟨by simpa using h, fun _ hhead => ?_⟩
    rw [String.toList_ofList, List.head?_eq_some_iff] at hhead
    obtain ⟨rest, rfl⟩ := hhead
    exact hhyphen rest rfl

theorem ofChars_eq (cs : List Char) :
    ofChars cs = if cs.head? = some '-' then ⟨String.ofList cs.tail, true⟩
      else ⟨String.ofList cs, false⟩ := by
  unfold ofChars
  split
  · rfl
  · next hhyphen =>
    rw [if_neg]
    intro hhead
    obtain ⟨rest, rfl⟩ := List.head?_eq_some_iff.1 hhead
    exact hhyphen rest rfl

end Token

namespace Directive

theorem tokens_eq_splitOn (directive : String) :
    tokens directive = (directive.toList.splitOn ',').map fun piece =>
      if piece.head? = some '-' then ⟨String.ofList piece.tail, true⟩
      else ⟨String.ofList piece, false⟩ := by
  rw [tokens, Text.cut_eq_splitOn]
  exact List.map_congr_left fun piece _ => Token.ofChars_eq piece

theorem tokens_ne_nil (directive : String) : tokens directive ≠ [] := by
  simp [tokens, Text.cut_ne_nil]

theorem spellable_of_mem_tokens {directive : String} {t : Token} (h : t ∈ tokens directive) :
    t.Spellable := by
  obtain ⟨cs, hcs, rfl⟩ := List.mem_map.1 h
  exact Token.spellable_ofChars (Text.not_mem_of_mem_cut hcs)

theorem ofTokens_tokens (directive : String) : ofTokens (tokens directive) = directive := by
  have hspelled : (tokens directive).map Token.toChars = Text.cut ',' directive.toList := by
    rw [tokens, List.map_map]
    exact List.map_id'' Token.toChars_ofChars _
  rw [ofTokens, hspelled, Text.join_cut, String.ofList_toList]

theorem tokens_ofTokens {ts : List Token} (hne : ts ≠ []) (h : ∀ t ∈ ts, t.Spellable) :
    tokens (ofTokens ts) = ts := by
  have hcommas : ∀ cs ∈ ts.map Token.toChars, ',' ∉ cs :=
    List.forall_mem_map.2 fun t ht => Token.comma_not_mem_toChars (h t ht)
  calc
    tokens (ofTokens ts) = (ts.map Token.toChars).map Token.ofChars := by
      rw [tokens, ofTokens, String.toList_ofList, Text.cut_join (by simpa using hne) hcommas]
    _ = ts.map id := by
      rw [List.map_map]
      exact List.map_congr_left fun t ht => Token.ofChars_toChars (h t ht)
    _ = ts := List.map_id ts

/-- Writing the tokens of a directive gives the directive again. Reading what is written gives the
tokens again, for all lists of tokens that a directive can have. -/
theorem written_as_read (directive : String) (ts : List Token) :
    ofTokens (tokens directive) = directive ∧
    (tokens (ofTokens ts) = ts ↔ ts ≠ [] ∧ ∀ t ∈ ts, t.Spellable) := by
  refine ⟨ofTokens_tokens directive, fun h => ?_, fun h => tokens_ofTokens h.1 h.2⟩
  exact ⟨h ▸ tokens_ne_nil _, fun t ht => spellable_of_mem_tokens (h ▸ ht)⟩

example : tokens (ofTokens [⟨"-rank", false⟩, ⟨"", true⟩]) = [⟨"rank", true⟩, ⟨"", true⟩] := by
  decide

end Directive

end SortPipeline
