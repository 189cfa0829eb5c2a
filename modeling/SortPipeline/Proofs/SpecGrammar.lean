import SortPipeline.Config.JsonText

/-! Which members make a spec. The kind has to be set once and all else at most once, under
whatever spelling. Nothing counts but the values that the settings are given: neither the order of
the members nor their spellings, nor any member that sets nothing. -/

universe u v

namespace SortPipeline

variable {ν : Type u} {α : Type v} [SettingSource ν]

namespace Setting

def Data : Setting → Type
  | .kind => FieldKind
  | .storageKey | .nullReplacementKey => Option String
  | .nullReplacementValue => Option Value

def readData? : (t : Setting) → ν → Option t.Data
  | .kind => SettingSource.kind?
  | .storageKey | .nullReplacementKey => SettingSource.text?
  | .nullReplacementValue => SettingSource.value?

def spellings : Setting → List String
  | .kind => ["type"]
  | .storageKey => ["storage_key", "databaseKey", "storageKey"]
  | .nullReplacementKey => ["null_replacement_key", "nullReplacementKey"]
  | .nullReplacementValue => ["null_replacement_value", "nullReplacementValue"]

theorem ofName?_eq_some_iff {name : String} {t : Setting} :
    ofName? name = some t ↔ name ∈ t.spellings := by
  unfold ofName?
  split <;> cases t <;> simp_all [spellings]

theorem ofName?_eq_none_iff {name : String} :
    ofName? name = none ↔ ∀ t : Setting, name ∉ t.spellings := by
  simp only [← ofName?_eq_some_iff, Option.eq_none_iff_forall_ne_some, ne_eq]

def valuesIn (t : Setting) (members : List (String × α)) : List α :=
  members.filterMap fun m => if m.1 ∈ t.spellings then some m.2 else none

@[simp] theorem valuesIn_nil (t : Setting) : t.valuesIn ([] : List (String × α)) = [] := rfl

theorem valuesIn_cons (t : Setting) (m : String × α) (members : List (String × α)) :
    t.valuesIn (m :: members) =
      if ofName? m.1 = some t then m.2 :: t.valuesIn members else t.valuesIn members := by
  by_cases h : m.1 ∈ t.spellings <;> simp [valuesIn, ofName?_eq_some_iff, h]

/-- The same values for each setting: the members in another order or under another spelling, with
more or fewer of those that set nothing. -/
inductive Rewritten : List (String × α) → List (String × α) → Prop
  | order {members others : List (String × α)} (h : members.Perm others) : Rewritten members others
  | spelling {t : Setting} {name other : String} (hname : name ∈ t.spellings)
      (hother : other ∈ t.spellings) (x : α) (rest : List (String × α)) :
      Rewritten ((name, x) :: rest) ((other, x) :: rest)
  | added {name : String} (hname : ∀ t : Setting, name ∉ t.spellings) (x : α)
      (rest : List (String × α)) : Rewritten rest ((name, x) :: rest)
  | symm {members others : List (String × α)} (h : Rewritten members others) :
      Rewritten others members
  | trans {members others more : List (String × α)} (h : Rewritten members others)
      (h' : Rewritten others more) : Rewritten members more

theorem Rewritten.perm_valuesIn {members others : List (String × α)}
    (h : Rewritten members others) (t : Setting) :
    (t.valuesIn members).Perm (t.valuesIn others) := by
  induction h with
  | order h => exact h.filterMap _
  | spelling hname hother x rest =>
    simp [valuesIn_cons, ofName?_eq_some_iff.2 hname, ofName?_eq_some_iff.2 hother]
  | added hname x rest => simp [valuesIn_cons, ofName?_eq_none_iff.2 hname]
  | symm _ ih => exact ih.symm
  | trans _ _ ih ih' => exact ih.trans ih'

inductive Gathers (t : Setting) : Option t.Data → List ν → Option t.Data → Prop
  | nothing (x : Option t.Data) : Gathers t x [] x
  | one {d : ν} {x : t.Data} (h : t.readData? d = some x) : Gathers t none [d] (some x)

theorem gathers_nil {t : Setting} {x y : Option t.Data} :
    t.Gathers x ([] : List ν) y ↔ x = y := by
  constructor
  · rintro ⟨⟩
    rfl
  · rintro rfl
    exact .nothing x

theorem gathers_cons {t : Setting} {x y : Option t.Data} {d : ν} {rest : List ν} :
    t.Gathers x (d :: rest) y ↔
      x = none ∧ ∃ z, t.readData? d = some z ∧ t.Gathers (some z) rest y := by
  constructor
  · intro h
    cases h with
    | one h => exact ⟨rfl, _, h, .nothing _⟩
  · rintro ⟨rfl, z, hz, h⟩
    cases h
    exact .one hz

theorem Gathers.eq_bind {t : Setting} {values : List ν} {y : Option t.Data}
    (h : t.Gathers none values y) : y = values.head?.bind t.readData? := by
  cases h with
  | nothing => rfl
  | one h => exact h.symm

theorem exists_gathers_iff {t : Setting} {values : List ν} :
    (∃ y, t.Gathers none values y) ↔
      values.length ≤ 1 ∧ ∀ d ∈ values, (t.readData? d).isSome := by
  match values with
  | [] => exact iff_of_true ⟨none, .nothing none⟩ ⟨Nat.zero_le 1, nofun⟩
  | [d] =>
    simp only [gathers_cons, gathers_nil, true_and, List.forall_mem_singleton,
      Option.isSome_iff_exists, List.length_singleton, Nat.le_refl]
    exact ⟨fun ⟨_, z, hz, _⟩ => ⟨z, hz⟩, fun ⟨z, hz⟩ => ⟨some z, z, hz, rfl⟩⟩
  | d :: e :: rest => simp [gathers_cons]

end Setting

namespace Settings

def get (s : Settings) : (t : Setting) → Option t.Data
  | .kind => s.kind
  | .storageKey => s.storageKey
  | .nullReplacementKey => s.nullReplacementKey
  | .nullReplacementValue => s.nullReplacementValue

def put (s : Settings) : (t : Setting) → t.Data → Settings
  | .kind, k => { s with kind := some k }
  | .storageKey, x => { s with storageKey := some x }
  | .nullReplacementKey, x => { s with nullReplacementKey := some x }
  | .nullReplacementValue, x => { s with nullReplacementValue := some x }

def ofGet (f : (t : Setting) → Option t.Data) : Settings :=
  ⟨f .kind, f .storageKey, f .nullReplacementKey, f .nullReplacementValue⟩

@[simp] theorem get_ofGet (f : (t : Setting) → Option t.Data) (t : Setting) :
    (ofGet f).get t = f t := by
  cases t <;> rfl

@[simp] theorem ofGet_get (s : Settings) : ofGet s.get = s := rfl

@[simp] theorem get_empty (t : Setting) : get {} t = none := by
  cases t <;> rfl

theorem get_put (s : Settings) (t u : Setting) (x : t.Data) :
    (s.put t x).get u = if h : t = u then some (h ▸ x) else s.get u := by
  cases t <;> cases u <;> rfl

theorem has_eq (s : Settings) (t : Setting) : s.has t = (s.get t).isSome := by
  cases t <;> rfl

theorem read?_eq (s : Settings) (t : Setting) (d : ν) :
    s.read? t d = (t.readData? d).map (s.put t) := by
  cases t <;> rfl

theorem readMember_of_unknown (s : Settings) {name : String} (hname : Setting.ofName? name = none)
    (d : ν) :
    s.readMember (some name, d) =
      if SettingSource.passable d then .ok s else .error .malformed := by
  simp only [readMember, hname]

theorem readMember_eq_ok_iff (s s' : Settings) {t : Setting} {name : String}
    (hname : Setting.ofName? name = some t) (d : ν) :
    s.readMember (some name, d) = .ok s' ↔
      s.get t = none ∧ ∃ x, t.readData? d = some x ∧ s.put t x = s' := by
  simp only [readMember, hname, has_eq, read?_eq]
  cases s.get t with
  | some x => simp
  | none => cases t.readData? d <;> simp [Fault.orMalformed]

def named (members : List (String × α)) : List (Option String × α) :=
  members.map fun (name, d) => (some name, d)

theorem named_cons (name : String) (d : α) (rest : List (String × α)) :
    named ((name, d) :: rest) = (some name, d) :: named rest := rfl

def Passable (members : List (String × ν)) : Prop :=
  ∀ m ∈ members, (∀ t : Setting, m.1 ∉ t.spellings) → SettingSource.passable m.2

theorem passable_cons {m : String × ν} {rest : List (String × ν)} :
    Passable (m :: rest) ↔
      (Setting.ofName? m.1 = none → SettingSource.passable m.2) ∧ Passable rest := by
  rw [Setting.ofName?_eq_none_iff]
  exact List.forall_mem_cons

theorem readMembers_cons_eq_ok_iff {s s' : Settings} {m : Option String × ν}
    {rest : List (Option String × ν)} :
    s.readMembers (m :: rest) = .ok s' ↔
      ∃ r, s.readMember m = .ok r ∧ r.readMembers rest = .ok s' := by
  rw [readMembers]
  cases s.readMember m <;> simp

theorem gathers_put_iff {s : Settings} {t u : Setting} {name : String} {d : ν} {x : t.Data}
    {rest : List (String × ν)} {y : Option u.Data} (hname : Setting.ofName? name = some t)
    (hnone : s.get t = none) (hx : t.readData? d = some x) :
    u.Gathers ((s.put t x).get u) (u.valuesIn rest) y ↔
      u.Gathers (s.get u) (u.valuesIn ((name, d) :: rest)) y := by
  by_cases htu : t = u
  · subst htu
    rw [Setting.valuesIn_cons, if_pos hname, Setting.gathers_cons]
    simp [get_put, hnone, hx]
  · simp [get_put, Setting.valuesIn_cons, hname, htu]

theorem readMembers_eq_ok_iff {s s' : Settings} {members : List (String × ν)} :
    s.readMembers (named members) = .ok s' ↔
      Passable members ∧ ∀ t : Setting, t.Gathers (s.get t) (t.valuesIn members) (s'.get t) := by
  induction members generalizing s with
  | nil =>
    simp only [named, List.map_nil, readMembers, Setting.valuesIn_nil, Setting.gathers_nil]
    constructor
    · rintro ⟨⟩
      exact ⟨nofun, fun _ => rfl⟩
    · rintro ⟨-, h⟩
      rw [← ofGet_get s, ← ofGet_get s', funext h]
  | cons m rest ih =>
    obtain ⟨name, d⟩ := m
    rw [named_cons, readMembers_cons_eq_ok_iff, passable_cons]
    cases hname : Setting.ofName? name with
    | none =>
      simp only [readMember_of_unknown s hname, ih, Setting.valuesIn_cons, hname]
      by_cases hpass : SettingSource.passable d <;> simp [hpass]
    | some t =>
      -- The member moves from the values still to come to what is set; other settings stand still.
      simp only [readMember_eq_ok_iff s _ hname, ih]
      constructor
      · rintro ⟨_, ⟨hnone, x, hx, rfl⟩, hpass, h⟩
        exact ⟨⟨nofun, hpass⟩, fun u => (gathers_put_iff hname hnone hx).1 (h u)⟩
      · rintro ⟨⟨-, hpass⟩, h⟩
        have ht := h t
        rw [Setting.valuesIn_cons, if_pos hname, Setting.gathers_cons] at ht
        obtain ⟨hnone, x, hx, -⟩ := ht
        exact ⟨_, ⟨hnone, x, hx, rfl⟩, hpass, fun u => (gathers_put_iff hname hnone hx).2 (h u)⟩

def ofFirst (members : List (String × ν)) : Settings :=
  ofGet fun t => (t.valuesIn members).head?.bind t.readData?

theorem toSpec_eq_ok_iff {s : Settings} {spec : FieldSpec} :
    s.toSpec = .ok spec ↔
      s.kind = some spec.kind ∧ s.storageKey.join = spec.storageKey ∧
        s.nullReplacementKey.join = spec.nullReplacementKey ∧
        s.nullReplacementValue.join = spec.nullReplacementValue := by
  obtain ⟨kind, storageKey, nullReplacementKey, nullReplacementValue⟩ := spec
  cases hkind : s.kind <;> simp [toSpec, hkind]

theorem exists_kind_of_toSpec {members : List (String × ν)} {spec : FieldSpec}
    (honce : (Setting.kind.valuesIn members).length ≤ 1)
    (hspec : (ofFirst members).toSpec = .ok spec) :
    ∃ d, Setting.kind.valuesIn members = [d] ∧ SettingSource.kind? d = some spec.kind := by
  have hkind : (Setting.kind.valuesIn members).head?.bind SettingSource.kind? = some spec.kind :=
    (toSpec_eq_ok_iff.1 hspec).1
  match hvalues : Setting.kind.valuesIn members, honce with
  | [], _ => simp [hvalues] at hkind
  | [d], _ => exact ⟨d, rfl, by simpa [hvalues] using hkind⟩

end Settings

namespace FieldSpec

theorem ofMembers_eq_ok_iff {members : List (String × ν)} {spec : FieldSpec} :
    ofMembers (Settings.named members) = .ok spec ↔
      Settings.Passable members ∧
      (∀ t : Setting, (t.valuesIn members).length ≤ 1 ∧
        ∀ d ∈ t.valuesIn members, (t.readData? d).isSome) ∧
      (Settings.ofFirst members).toSpec = .ok spec := by
  have hread : ofMembers (Settings.named members) = .ok spec ↔
      ∃ s, Settings.readMembers {} (Settings.named members) = .ok s ∧ s.toSpec = .ok spec := by
    rw [ofMembers]
    cases Settings.readMembers {} (Settings.named members) <;> simp
  simp only [hread, Settings.readMembers_eq_ok_iff, Settings.get_empty]
  constructor
  · rintro ⟨s, ⟨hpass, hs⟩, hspec⟩
    have hfirst : Settings.ofFirst members = s := by
      rw [Settings.ofFirst, ← s.ofGet_get]
      exact congrArg _ (funext fun t => (hs t).eq_bind.symm)
    exact ⟨hpass, fun t => Setting.exists_gathers_iff.1 ⟨_, hs t⟩, hfirst ▸ hspec⟩
  · rintro ⟨hpass, honce, hspec⟩
    refine ⟨_, ⟨hpass, fun t => ?_⟩, hspec⟩
    obtain ⟨y, hy⟩ := Setting.exists_gathers_iff.2 (honce t)
    rw [Settings.ofFirst, Settings.get_ofGet, ← hy.eq_bind]
    exact hy

theorem exists_ofMembers_eq_ok_iff {members : List (String × ν)} :
    (∃ spec, ofMembers (Settings.named members) = .ok spec) ↔
      Settings.Passable members ∧
      (∃ d, Setting.kind.valuesIn members = [d] ∧ (SettingSource.kind? d).isSome) ∧
      (∀ t ≠ Setting.kind, (t.valuesIn members).length ≤ 1) ∧
      (∀ d ∈ Setting.storageKey.valuesIn members ++ Setting.nullReplacementKey.valuesIn members,
        (SettingSource.text? d).isSome) ∧
      ∀ d ∈ Setting.nullReplacementValue.valuesIn members, (SettingSource.value? d).isSome := by
  simp only [ofMembers_eq_ok_iff, List.forall_mem_append]
  constructor
  · rintro ⟨spec, hpass, honce, hspec⟩
    obtain ⟨d, hd, hkind⟩ := Settings.exists_kind_of_toSpec (honce .kind).1 hspec
    exact ⟨hpass, ⟨d, hd, Option.isSome_iff_exists.2 ⟨_, hkind⟩⟩, fun t _ => (honce t).1,
      ⟨(honce .storageKey).2, (honce .nullReplacementKey).2⟩, (honce .nullReplacementValue).2⟩
  · rintro ⟨hpass, ⟨d, hd, hread⟩, honce, ⟨hkeys, hnullKeys⟩, hvalues⟩
    obtain ⟨k, hk⟩ := Option.isSome_iff_exists.1 hread
    have hkind : (Settings.ofFirst members).kind = some k := by
      change (Setting.kind.valuesIn members).head?.bind SettingSource.kind? = some k
      rw [hd]
      exact hk
    refine ⟨⟨k, _, _, _⟩, hpass, fun t => ?_,
      Settings.toSpec_eq_ok_iff.2 ⟨hkind, rfl, rfl, rfl⟩⟩
    cases t with
    | kind => rw [hd]; exact ⟨Nat.le_refl 1, List.forall_mem_singleton.2 hread⟩
    | storageKey => exact ⟨honce .storageKey nofun, hkeys⟩
    | nullReplacementKey => exact ⟨honce .nullReplacementKey nofun, hnullKeys⟩
    | nullReplacementValue => exact ⟨honce .nullReplacementValue nofun, hvalues⟩

theorem ofMembers_congr {members others : List (String × ν)} {spec : FieldSpec}
    (hpass : Settings.Passable others)
    (h : ∀ t : Setting, (t.valuesIn members).Perm (t.valuesIn others))
    (hread : ofMembers (Settings.named members) = .ok spec) :
    ofMembers (Settings.named others) = .ok spec := by
  obtain ⟨-, honce, hspec⟩ := ofMembers_eq_ok_iff.1 hread
  -- A list of at most one value has no other order.
  have hvalues : ∀ t : Setting, t.valuesIn members = t.valuesIn others := by
    intro t
    match hone : t.valuesIn members, (honce t).1 with
    | [], _ => exact (List.nil_perm.1 (hone ▸ h t)).symm
    | [d], _ => exact List.singleton_perm.1 (hone ▸ h t)
  refine ofMembers_eq_ok_iff.2 ⟨hpass, fun t => hvalues t ▸ honce t, ?_⟩
  have hfirst : Settings.ofFirst members = Settings.ofFirst others := by
    simp only [Settings.ofFirst, hvalues]
  exact hfirst ▸ hspec

end FieldSpec

namespace Value

theorem kind?_eq_some_iff {v : Value} {k : FieldKind} :
    SettingSource.kind? v = some k ↔
      ∃ name, (v = .string name ∨ v = .object [(name, .null)]) ∧ k = .ofName name := by
  simp only [SettingSource.kind?]
  split <;> simp_all [eq_comm]

theorem isSome_kind?_iff (v : Value) :
    (SettingSource.kind? v).isSome ↔ ∃ name, v = .string name ∨ v = .object [(name, .null)] := by
  simp only [Option.isSome_iff_exists, kind?_eq_some_iff]
  constructor
  · rintro ⟨_, name, hname, -⟩
    exact ⟨name, hname⟩
  · rintro ⟨name, hname⟩
    exact ⟨_, name, hname, rfl⟩

theorem isSome_text?_iff (v : Value) :
    (SettingSource.text? v).isSome ↔ v = .null ∨ ∃ text, v = .string text := by
  cases v <;> simp [SettingSource.text?]

theorem isSome_value? (v : Value) : (SettingSource.value? v).isSome := by
  cases v <;> rfl

theorem join_bind_text? (o : Option Value) :
    (o.bind SettingSource.text?).join = o.bind Value.text? := by
  cases o with
  | none => rfl
  | some v => cases v <;> rfl

theorem join_bind_value? (o : Option Value) :
    (o.bind SettingSource.value?).join = o.filter (!·.isNull) := by
  cases o with
  | none => rfl
  | some v => cases v <;> rfl

theorem passable (members : List (String × Value)) : Settings.Passable members :=
  fun _ _ _ => rfl

end Value

namespace Json.Node

theorem isSome_kind?_iff (n : Node) :
    (SettingSource.kind? n).isSome ↔
      ∃ name, n = .string (some name) ∨ n = .object [(some name, .null)] := by
  simp only [SettingSource.kind?]
  split <;> simp_all [Option.isSome_iff_exists]

theorem isSome_text?_iff (n : Node) :
    (SettingSource.text? n).isSome ↔ n = .null ∨ ∃ text, n = .string (some text) := by
  cases n <;> simp [SettingSource.text?, Option.isSome_iff_exists]

theorem isSome_value?_iff (n : Node) :
    (SettingSource.value? n).isSome ↔ (n.value? settingDepth).isSome := by
  cases n <;> simp [SettingSource.value?, value?]

end Json.Node

namespace FieldSpec

theorem read_object (members : List (String × Value)) :
    read (Value.object members) = ofMembers (Settings.named members) := rfl

theorem read_node (members : List (String × Json.Node)) :
    read (Json.Node.object (Settings.named members)) = ofMembers (Settings.named members) := rfl

/-- Members make a spec just if they set the kind once, to a name or to an object of a name over a
null, and each other setting at most once, keys to texts or nulls. The spec holds the values of the
settings, so members that are rewritten make the same one. The same is true of the members in a
text, where names may come again; what is passed over has to be intact there, and a replacement
value has to have a value. -/
theorem read_members_grammar :
    (∀ members : List (String × Value),
      ((∃ spec, read (Value.object members) = .ok spec) ↔
        (∃ v, Setting.kind.valuesIn members = [v] ∧
          ∃ name, v = .string name ∨ v = .object [(name, .null)]) ∧
        (∀ t ≠ Setting.kind, (t.valuesIn members).length ≤ 1) ∧
        ∀ v ∈ Setting.storageKey.valuesIn members ++ Setting.nullReplacementKey.valuesIn members,
          v = .null ∨ ∃ text, v = .string text) ∧
      (∀ spec, read (Value.object members) = .ok spec →
        (∃ name, (Setting.kind.valuesIn members = [.string name] ∨
          Setting.kind.valuesIn members = [.object [(name, .null)]]) ∧ spec.kind = .ofName name) ∧
        spec.storageKey = (Setting.storageKey.valuesIn members).head?.bind Value.text? ∧
        spec.nullReplacementKey =
          (Setting.nullReplacementKey.valuesIn members).head?.bind Value.text? ∧
        spec.nullReplacementValue =
          (Setting.nullReplacementValue.valuesIn members).head?.filter (!·.isNull)) ∧
      ∀ others spec, Setting.Rewritten members others →
        (read (Value.object others) = .ok spec ↔ read (Value.object members) = .ok spec)) ∧
    ∀ members : List (String × Json.Node),
      ((∃ spec, read (Json.Node.object (Settings.named members)) = .ok spec) ↔
        Settings.Passable members ∧
        (∃ n, Setting.kind.valuesIn members = [n] ∧
          ∃ name, n = .string (some name) ∨ n = .object [(some name, .null)]) ∧
        (∀ t ≠ Setting.kind, (t.valuesIn members).length ≤ 1) ∧
        (∀ n ∈ Setting.storageKey.valuesIn members ++ Setting.nullReplacementKey.valuesIn members,
          n = .null ∨ ∃ text, n = .string (some text)) ∧
        ∀ n ∈ Setting.nullReplacementValue.valuesIn members,
          (n.value? Json.Node.settingDepth).isSome) ∧
      ∀ others spec, Settings.Passable members → Settings.Passable others →
        Setting.Rewritten members others →
        (read (Json.Node.object (Settings.named others)) = .ok spec ↔
          read (Json.Node.object (Settings.named members)) = .ok spec) := by
  refine ⟨fun members => ⟨?_, ?_, ?_⟩, fun members => ⟨?_, ?_⟩⟩
  · rw [read_object, exists_ofMembers_eq_ok_iff]
    simp only [Value.isSome_kind?_iff, Value.isSome_text?_iff, Value.isSome_value?,
      Value.passable, implies_true, and_true, true_and]
  · intro spec hread
    obtain ⟨-, honce, hspec⟩ := ofMembers_eq_ok_iff.1 hread
    obtain ⟨-, hkey, hnullKey, hnullValue⟩ := Settings.toSpec_eq_ok_iff.1 hspec
    refine ⟨?_, ?_, ?_, ?_⟩
    · obtain ⟨v, hv, hread⟩ := Settings.exists_kind_of_toSpec (honce .kind).1 hspec
      obtain ⟨name, rfl | rfl, hkind⟩ := Value.kind?_eq_some_iff.1 hread
      · exact ⟨name, .inl hv, hkind⟩
      · exact ⟨name, .inr hv, hkind⟩
    · exact hkey.symm.trans (Value.join_bind_text? _)
    · exact hnullKey.symm.trans (Value.join_bind_text? _)
    · exact hnullValue.symm.trans (Value.join_bind_value? _)
  · intro others spec h
    rw [read_object, read_object]
    exact ⟨ofMembers_congr (Value.passable members) h.symm.perm_valuesIn,
      ofMembers_congr (Value.passable others) h.perm_valuesIn⟩
  · rw [read_node, exists_ofMembers_eq_ok_iff]
    simp only [Json.Node.isSome_kind?_iff, Json.Node.isSome_text?_iff,
      Json.Node.isSome_value?_iff]
  · intro others spec hpass hothers h
    rw [read_node, read_node]
    exact ⟨ofMembers_congr hpass h.symm.perm_valuesIn,
      ofMembers_congr hothers h.perm_valuesIn⟩

example : read (Value.object
    [("type", .string "date"), ("databaseKey", .null), ("storageKey", .string "at")]) =
      .error (.duplicate "storage_key") := rfl

end FieldSpec

end SortPipeline
