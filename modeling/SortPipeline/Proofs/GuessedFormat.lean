import SortPipeline.Config.Loader

/-! Texts of unknown format. Whatever is a registry as JSON begins, behind its blanks, with a brace,
and nothing in TOML begins so. Thus no text is read in both formats, and it makes no difference that
TOML is tried first. -/

namespace SortPipeline

namespace Json.Node

theorem exists_of_read_object {fuel : Nat} {cs : List Char} {members : List (Option String × Node)}
    {rest : Option (List Char)} (h : read fuel cs = (.object members, rest)) :
    ∃ tail, skipBlanks cs = '\x7b' :: tail := by
  cases fuel with
  | zero => simp [read] at h
  | succ fuel =>
    rw [read] at h
    split at h
    · simp at h
    · simp at h
    · simp at h
    · split at h <;> simp at h
    · split at h <;> simp at h
    · next tail htail => exact ⟨tail, htail⟩
    · split at h <;> simp at h

end Json.Node

namespace Toml

def BeginsNothing (c : Char) : Prop := isBareKey c = false ∧ c ≠ '"' ∧ c ≠ '\x27' ∧ c ≠ '['

theorem readSimpleKey?_eq_none {c : Char} (h : BeginsNothing c) (cs : List Char) :
    readSimpleKey? (c :: cs) = none := by
  obtain ⟨hbare, hquote, hmark, -⟩ := h
  simp [readSimpleKey?, hbare, hquote, hmark]

theorem readKey?_eq_none {c : Char} (h : BeginsNothing c) (cs : List Char) :
    readKey? (c :: cs) = none := by
  have hkeys : readKeys? maxDepth (c :: cs) = none := by
    rw [maxDepth, readKeys?, readSimpleKey?_eq_none h]
    rfl
  rw [readKey?, hkeys]
  rfl

theorem readStatement?_eq_none {c : Char} (h : BeginsNothing c) (cs : List Char) :
    readStatement? (c :: cs) = none := by
  simp [readStatement?, readKey?_eq_none h, h.2.2.2]

theorem isBlank_of_isSpace {c : Char} (h : isSpace c) : Json.isBlank c := by
  simp only [isSpace, Bool.or_eq_true, decide_eq_true_eq] at h
  rcases h with rfl | rfl <;> rfl

/-- What is blank in JSON is void here too, but for a carriage return by itself. -/
theorem exists_skipVoid?_of_skipBlanks {inComment : Bool} {cs tail : List Char}
    (hstart : inComment = false) (h : Json.skipBlanks cs = '\x7b' :: tail) :
    ∃ c rest, skipVoid? inComment cs = some (c :: rest) ∧ (c = '\x7b' ∨ c = '\r') := by
  fun_induction skipVoid? inComment cs with
  | case1 => simp [Json.skipBlanks] at h
  | case2 _ cs ih => exact ih rfl h
  | case3 _ cs ih => exact ih rfl h
  | case4 | case5 => cases hstart
  | case6 _ c cs _ _ _ hspace ih =>
    refine ih rfl ?_
    rwa [Json.skipBlanks, List.dropWhile_cons, if_pos (isBlank_of_isSpace hspace)] at h
  | case7 => cases h
  | case8 _ c cs hnewline _ _ hspace _ =>
    refine ⟨c, cs, rfl, ?_⟩
    rw [Json.skipBlanks, List.dropWhile_cons] at h
    split at h
    -- Of the blanks of JSON, spaces, tabs and newlines would have been skipped.
    · next hblank => exact .inr (by simp_all [Json.isBlank, isSpace])
    · exact .inl (List.cons.inj h).1

theorem readStatements?_eq_none {cs tail : List Char} (h : Json.skipBlanks cs = '\x7b' :: tail)
    (fuel : Nat) : readStatements? fuel cs = none := by
  cases fuel with
  | zero => rfl
  | succ fuel =>
    obtain ⟨c, rest, hvoid, hc⟩ := exists_skipVoid?_of_skipBlanks rfl h
    have hbegins : BeginsNothing c := by
      rcases hc with rfl | rfl <;> exact ⟨by decide, by decide, by decide, by decide⟩
    simp only [readStatements?, hvoid, readStatement?_eq_none hbegins]

theorem read?_eq_none {text : String} {tail : List Char}
    (h : Json.skipBlanks text.toList = '\x7b' :: tail) : read? text = none := by
  have hmark : ∀ cs, text.toList ≠ '\ufeff' :: cs := by
    intro cs hcs
    rw [hcs] at h
    cases h
  unfold read?
  split
  · next cs hcs => exact absurd hcs (hmark cs)
  · dsimp only
    rw [readStatements?_eq_none h]
    rfl

end Toml

namespace Json

theorem Document.root_ofText (text : String) :
    (ofText text).root = (Node.read (2 * text.toList.length + 2) text.toList).1 := by
  unfold ofText
  dsimp only
  split <;> simp_all

end Json

namespace Registry

theorem exists_of_ofJson {text : String} {r : Registry} (h : ofJson text = .ok r) :
    ∃ tail, Json.skipBlanks text.toList = '\x7b' :: tail := by
  have hread : ∃ s, read (Json.Document.ofText text).root = .ok s := by
    rw [ofJson] at h
    split at h
    · cases h
    · next s hs => exact ⟨s, hs⟩
  obtain ⟨s, hs⟩ := hread
  have hroot : ∃ members, (Json.Document.ofText text).root = .object members := by
    cases hroot : (Json.Document.ofText text).root with
    | object members => exact ⟨members, rfl⟩
    | _ => simp [read, hroot, SettingSource.members?] at hs
  obtain ⟨members, hroot⟩ := hroot
  rw [Json.Document.root_ofText] at hroot
  exact Json.Node.exists_of_read_object (Prod.ext hroot rfl)

theorem ofToml_of_ofJson {text : String} {r : Registry} (h : ofJson text = .ok r) :
    ofToml text = .error .malformed := by
  obtain ⟨tail, htail⟩ := exists_of_ofJson h
  rw [ofToml, Toml.read?_eq_none htail]

/-- A text that is a registry as JSON is the same registry where the format is guessed: under every
origin, and in a file of every name but those that say TOML. -/
theorem json_never_shadowed {text : String} {r : Registry} (h : ofJson text = .ok r) :
    (∀ origin, ofText text origin = .ok r) ∧
    ∀ (files : FileSystem) path, files path = some (.file (some text)) →
      Path.extension? path ≠ some "toml" → Path.extension? path ≠ some "tml" →
        ofNode path (files path) = .ok r := by
  have htext : ∀ origin, ofText text origin = .ok r := by
    intro origin
    simp only [ofText, ofToml_of_ofJson h, h]
  refine ⟨htext, fun files path hfile htoml html => ?_⟩
  rw [hfile, ofNode]
  split
  · rw [h]
    rfl
  · next hext => exact absurd hext htoml
  · next hext => exact absurd hext html
  · exact htext path

def scoresText : String := "\n\x7b\"score\": \x7b\"type\": \"number\"\x7d\x7d"

theorem scores_never_shadowed :
    ∃ r : Registry, r.names = ["score"] ∧ ofJson scoresText = .ok r ∧
      (∀ origin, ofText scoresText origin = .ok r) ∧
      ∀ (files : FileSystem) path, files path = some (.file (some scoresText)) →
        Path.extension? path ≠ some "toml" → Path.extension? path ≠ some "tml" →
          ofNode path (files path) = .ok r := by
  have hnames : (ofJson scoresText).toOption.map names = some ["score"] := by decide +kernel
  cases h : ofJson scoresText with
  | error fault =>
    rw [h] at hnames
    cases hnames
  | ok r =>
    rw [h] at hnames
    exact ⟨r, Option.some.inj hnames, rfl, json_never_shadowed h⟩

end Registry

end SortPipeline
