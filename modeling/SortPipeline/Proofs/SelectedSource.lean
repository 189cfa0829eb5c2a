import Mathlib.Logic.ExistsUnique
import SortPipeline.Config.Loader

namespace SortPipeline.Registry

def Gives (setting : Option String) (text : String) : Prop :=
  setting = some text ∧ ∃ c ∈ text.toList, Text.whiteSpace.contains c = false

def GivesNothing (setting : Option String) : Prop := ∀ text, ¬Gives setting text

theorem given?_eq_some_iff {setting : Option String} {text : String} :
    given? setting = some text ↔ Gives setting text := by
  simp [given?, Gives, Option.filter_eq_some_iff, Text.isBlank]

theorem given?_eq_none_iff {setting : Option String} :
    given? setting = none ↔ GivesNothing setting := by
  simp only [GivesNothing, ← given?_eq_some_iff, Option.eq_none_iff_forall_ne_some, ne_eq]

/-- A source is selected if it gives anything and no source of higher rank does. -/
inductive Selects (env : Environment) (files : FileSystem) (base : String) : RegistrySource → Prop
  | envPath {path : String} (h : Gives env.registryPath path) :
      Selects env files base (.envPath path)
  | envInline {text : String} (hpath : GivesNothing env.registryPath)
      (h : Gives env.registryJson text) : Selects env files base .envInline
  | file {path : String} {before after : List String} (hpath : GivesNothing env.registryPath)
      (hjson : GivesNothing env.registryJson) (h : candidates base = before ++ path :: after)
      (hbefore : ∀ p ∈ before, files p = none) (hfile : files path ≠ none) :
      Selects env files base (.file path)
  | default (hpath : GivesNothing env.registryPath) (hjson : GivesNothing env.registryJson)
      (h : ∀ p ∈ candidates base, files p = none) : Selects env files base .default

def content (env : Environment) (files : FileSystem) : RegistrySource → Except LoadFault Registry
  | .envPath path | .file path => ofNode path (files path)
  | .envInline => (ofJson (env.registryJson.getD "")).mapError .jsonVariable
  | .default => .ok empty

inductive FileYields (path : String) : Option FileNode → Except LoadFault Registry → Prop
  | unreadable {node : Option FileNode}
      (h : node = none ∨ node = some .directory ∨ node = some (.file none)) :
      FileYields path node (.error (.unreadable path))
  | json {text : String} {registry : Registry} (hextension : Path.extension? path = some "json")
      (h : ofJson text = .ok registry) : FileYields path (some (.file (some text))) (.ok registry)
  | jsonFault {text : String} {fault : Fault} (hextension : Path.extension? path = some "json")
      (h : ofJson text = .error fault) :
      FileYields path (some (.file (some text))) (.error (.jsonFile path fault))
  | toml {text : String} {registry : Registry}
      (hextension : Path.extension? path = some "toml" ∨ Path.extension? path = some "tml")
      (h : ofToml text = .ok registry) : FileYields path (some (.file (some text))) (.ok registry)
  | tomlFault {text : String} {fault : Fault}
      (hextension : Path.extension? path = some "toml" ∨ Path.extension? path = some "tml")
      (h : ofToml text = .error fault) :
      FileYields path (some (.file (some text))) (.error (.toml path fault))
  | guessedToml {text : String} {registry : Registry}
      (hextension : ∀ name ∈ Path.extension? path, name ∉ ["json", "toml", "tml"])
      (h : ofToml text = .ok registry) : FileYields path (some (.file (some text))) (.ok registry)
  | guessedJson {text : String} {tomlFault : Fault} {registry : Registry}
      (hextension : ∀ name ∈ Path.extension? path, name ∉ ["json", "toml", "tml"])
      (htoml : ofToml text = .error tomlFault) (h : ofJson text = .ok registry) :
      FileYields path (some (.file (some text))) (.ok registry)
  | guessedFault {text : String} {tomlFault jsonFault : Fault}
      (hextension : ∀ name ∈ Path.extension? path, name ∉ ["json", "toml", "tml"])
      (htoml : ofToml text = .error tomlFault) (h : ofJson text = .error jsonFault) :
      FileYields path (some (.file (some text))) (.error (.neither path tomlFault jsonFault))

inductive Yields (env : Environment) (files : FileSystem) :
    RegistrySource → Except LoadFault Registry → Prop
  | envPath {path : String} {result : Except LoadFault Registry}
      (h : FileYields path (files path) result) : Yields env files (.envPath path) result
  | file {path : String} {result : Except LoadFault Registry}
      (h : FileYields path (files path) result) : Yields env files (.file path) result
  | envInline {text : String} {registry : Registry} (hset : env.registryJson = some text)
      (h : ofJson text = .ok registry) : Yields env files .envInline (.ok registry)
  | envInlineFault {text : String} {fault : Fault} (hset : env.registryJson = some text)
      (h : ofJson text = .error fault) :
      Yields env files .envInline (.error (.jsonVariable fault))
  | default : Yields env files .default (.ok empty)

section Extension

variable {path text : String}

theorem ofNode_json (h : Path.extension? path = some "json") :
    ofNode path (some (.file (some text))) = (ofJson text).mapError (.jsonFile path) := by
  simp only [ofNode, h]

theorem ofNode_toml (h : Path.extension? path = some "toml" ∨ Path.extension? path = some "tml") :
    ofNode path (some (.file (some text))) = (ofToml text).mapError (.toml path) := by
  rcases h with h | h <;> simp only [ofNode, h]

theorem ofNode_guessed (h : ∀ name ∈ Path.extension? path, name ∉ ["json", "toml", "tml"]) :
    ofNode path (some (.file (some text))) = ofText text path := by
  unfold ofNode
  dsimp only
  split
  · next hname => exact absurd (by decide) (h _ hname)
  · next hname => exact absurd (by decide) (h _ hname)
  · next hname => exact absurd (by decide) (h _ hname)
  · rfl

theorem extension_cases (path : String) :
    Path.extension? path = some "json" ∨
      (Path.extension? path = some "toml" ∨ Path.extension? path = some "tml") ∨
      ∀ name ∈ Path.extension? path, name ∉ ["json", "toml", "tml"] := by
  cases Path.extension? path with
  | none => simp
  | some name =>
    by_cases hname : name ∈ ["json", "toml", "tml"]
    · simp only [List.mem_cons, List.not_mem_nil, or_false] at hname
      rcases hname with rfl | rfl | rfl <;> decide
    · exact .inr (.inr fun _ h => Option.some.inj h ▸ hname)

theorem fileYields_ofNode (path : String) (node : Option FileNode) :
    FileYields path node (ofNode path node) := by
  rcases node with _ | _ | _ | text
  · exact .unreadable (.inl rfl)
  · exact .unreadable (.inr (.inl rfl))
  · exact .unreadable (.inr (.inr rfl))
  · rcases extension_cases path with hextension | hextension | hextension
    · rw [ofNode_json hextension]
      cases hjson : ofJson text with
      | ok registry => exact .json hextension hjson
      | error fault => exact .jsonFault hextension hjson
    · rw [ofNode_toml hextension]
      cases htoml : ofToml text with
      | ok registry => exact .toml hextension htoml
      | error fault => exact .tomlFault hextension htoml
    · rw [ofNode_guessed hextension, ofText]
      cases htoml : ofToml text with
      | ok registry => exact .guessedToml hextension htoml
      | error tomlFault =>
        cases hjson : ofJson text with
        | ok registry => exact .guessedJson hextension htoml hjson
        | error jsonFault => exact .guessedFault hextension htoml hjson

end Extension

theorem FileYields.ofNode_eq {path : String} {node : Option FileNode}
    {result : Except LoadFault Registry} (h : FileYields path node result) :
    ofNode path node = result := by
  cases h with
  | unreadable h => rcases h with rfl | rfl | rfl <;> rfl
  | json hextension h | jsonFault hextension h =>
    rw [ofNode_json hextension, h]
    rfl
  | toml hextension h | tomlFault hextension h =>
    rw [ofNode_toml hextension, h]
    rfl
  | guessedToml hextension h => rw [ofNode_guessed hextension, ofText, h]
  | guessedJson hextension htoml h | guessedFault hextension htoml h =>
    rw [ofNode_guessed hextension, ofText, htoml, h]

theorem Yields.content_eq {env : Environment} {files : FileSystem} {source : RegistrySource}
    {result : Except LoadFault Registry} (h : Yields env files source result) :
    content env files source = result := by
  cases h with
  | envPath h | file h => exact h.ofNode_eq
  | envInline hset h | envInlineFault hset h =>
    rw [content, hset, Option.getD_some, h]
    rfl
  | default => rfl

theorem candidates_eq (base : String) :
    let front := if base = "" ∨ base.toList.getLast? = some '/' then base else base ++ "/"
    candidates base = [front ++ "sort_registry.toml", front ++ "sort_registry.json",
      front ++ "config/sort_registry.toml", front ++ "config/sort_registry.json"] := by
  have hjoin : ∀ candidate, Path.join base candidate =
      (if base = "" ∨ base.toList.getLast? = some '/' then base else base ++ "/") ++ candidate := by
    intro candidate
    unfold Path.join
    by_cases hempty : base = ""
    · simp [hempty]
    · by_cases hslash : base.toList.getLast? = some '/' <;> simp [hempty, hslash]
  simp only [candidates, defaultFiles, List.map_cons, List.map_nil, hjoin]

theorem findDefault?_eq_some_iff {files : FileSystem} {base path : String} :
    findDefault? files base = some path ↔
      files path ≠ none ∧ ∃ before after, candidates base = before ++ path :: after ∧
        ∀ p ∈ before, files p = none := by
  simp [findDefault?, List.find?_eq_some_iff_append, Option.isSome_iff_ne_none]

theorem findDefault?_eq_none_iff {files : FileSystem} {base : String} :
    findDefault? files base = none ↔ ∀ p ∈ candidates base, files p = none := by
  simp [findDefault?]

def selected (env : Environment) (files : FileSystem) (base : String) : RegistrySource :=
  match given? env.registryPath with
  | some path => .envPath path
  | none =>
    match given? env.registryJson with
    | some _ => .envInline
    | none => ((findDefault? files base).map .file).getD .default

theorem selects_selected (env : Environment) (files : FileSystem) (base : String) :
    Selects env files base (selected env files base) := by
  unfold selected
  cases hpath : given? env.registryPath with
  | some path => exact .envPath (given?_eq_some_iff.1 hpath)
  | none =>
    rw [given?_eq_none_iff] at hpath
    cases hjson : given? env.registryJson with
    | some text => exact .envInline hpath (given?_eq_some_iff.1 hjson)
    | none =>
      rw [given?_eq_none_iff] at hjson
      cases hfile : findDefault? files base with
      | some path =>
        obtain ⟨hsome, before, after, h, hbefore⟩ := findDefault?_eq_some_iff.1 hfile
        exact .file hpath hjson h hbefore hsome
      | none => exact .default hpath hjson (findDefault?_eq_none_iff.1 hfile)

theorem eq_selected_of_selects {env : Environment} {files : FileSystem} {base : String}
    {source : RegistrySource} (h : Selects env files base source) :
    source = selected env files base := by
  unfold selected
  cases h with
  | envPath h => rw [given?_eq_some_iff.2 h]
  | envInline hpath h => rw [given?_eq_none_iff.2 hpath, given?_eq_some_iff.2 h]
  | file hpath hjson h hbefore hfile =>
    rw [given?_eq_none_iff.2 hpath, given?_eq_none_iff.2 hjson,
      findDefault?_eq_some_iff.2 ⟨hfile, _, _, h, hbefore⟩]
    rfl
  | default hpath hjson h =>
    rw [given?_eq_none_iff.2 hpath, given?_eq_none_iff.2 hjson, findDefault?_eq_none_iff.2 h]
    rfl

theorem loadFrom_eq_selected (env : Environment) (files : FileSystem) (base : String) :
    loadFrom env files base =
      (content env files (selected env files base)).map (·, selected env files base) := by
  unfold loadFrom selected
  cases given? env.registryPath with
  | some path => rfl
  | none =>
    cases hjson : given? env.registryJson with
    | some text =>
      rw [content, (given?_eq_some_iff.1 hjson).1]
      rfl
    | none => cases findDefault? files base <;> rfl

/-- Whether other surroundings look the same to a source: they agree on whatever ranks before it
and on what it holds. -/
def SameView (env env' : Environment) (files files' : FileSystem) (base base' : String) :
    RegistrySource → Prop
  | .envPath path => env'.registryPath = env.registryPath ∧ files' path = files path
  | .envInline => env' = env
  | .file path => env' = env ∧ base' = base ∧
    ∀ before after, candidates base = before ++ path :: after →
      ∀ p ∈ path :: before, files' p = files p
  | .default => env' = env ∧ base' = base ∧ ∀ p ∈ candidates base, files' p = files p

variable {env env' : Environment} {files files' : FileSystem} {base base' : String}
  {source : RegistrySource}

theorem Selects.of_sameView (h : Selects env files base source)
    (hview : SameView env env' files files' base base' source) :
    Selects env' files' base' source ∧ content env' files' source = content env files source := by
  cases h with
  | envPath h =>
    obtain ⟨hpath, hfile⟩ := hview
    refine ⟨.envPath (hpath ▸ h), ?_⟩
    rw [content, content, hfile]
  | envInline hpath h =>
    subst hview
    exact ⟨.envInline hpath h, rfl⟩
  | file hpath hjson h hbefore hfile =>
    obtain ⟨rfl, rfl, hsame⟩ := hview
    obtain ⟨hself, hsame⟩ := List.forall_mem_cons.1 (hsame _ _ h)
    refine ⟨.file hpath hjson h (fun p hp => (hsame p hp).trans (hbefore p hp)) (hself ▸ hfile), ?_⟩
    rw [content, content, hself]
  | default hpath hjson h =>
    obtain ⟨rfl, rfl, hsame⟩ := hview
    exact ⟨.default hpath hjson fun p hp => (hsame p hp).trans (h p hp), rfl⟩

theorem Selects.yields (h : Selects env files base source) :
    Yields env files source (content env files source) := by
  cases h with
  | envPath h => exact .envPath (fileYields_ofNode _ _)
  | file hpath hjson h hbefore hfile => exact .file (fileYields_ofNode _ _)
  | default hpath hjson h => exact .default
  | @envInline text hpath h =>
    rw [content, h.1, Option.getD_some]
    cases hjson : ofJson text with
    | ok registry => exact .envInline h.1 hjson
    | error fault => exact .envInlineFault h.1 hjson

theorem Selects.content_eq_iff (h : Selects env files base source)
    {result : Except LoadFault Registry} :
    content env files source = result ↔ Yields env files source result :=
  ⟨fun hcontent => hcontent ▸ h.yields, Yields.content_eq⟩

theorem loadFrom_of_selects (h : Selects env files base source) :
    loadFrom env files base = (content env files source).map (·, source) := by
  rw [eq_selected_of_selects h]
  exact loadFrom_eq_selected env files base

/-- There is always one source that is selected, and only one. What is loaded is what it holds, and
a fault in it is told and not passed over. Whatever else the surroundings hold, beyond what ranks
before the source, makes no difference. -/
theorem load_from_selected (env : Environment) (files : FileSystem) (base : String) :
    (∃! source, Selects env files base source) ∧
    (let front := if base = "" ∨ base.toList.getLast? = some '/' then base else base ++ "/"
     candidates base = [front ++ "sort_registry.toml", front ++ "sort_registry.json",
      front ++ "config/sort_registry.toml", front ++ "config/sort_registry.json"]) ∧
    ∀ source, Selects env files base source →
      loadFrom env files base = (content env files source).map (·, source) ∧
      (∀ result, content env files source = result ↔ Yields env files source result) ∧
      (∀ fault, loadFrom env files base = .error fault ↔
        content env files source = .error fault) ∧
      ∀ env' files' base', SameView env env' files files' base base' source →
        loadFrom env' files' base' = loadFrom env files base := by
  refine ⟨⟨_, selects_selected env files base, fun _ => eq_selected_of_selects⟩,
    candidates_eq base, ?_⟩
  intro source h
  refine ⟨loadFrom_of_selects h, fun result => h.content_eq_iff, fun fault => ?_,
    fun env' files' base' hview => ?_⟩
  · rw [loadFrom_of_selects h]
    cases content env files source <;> simp [Except.map]
  · obtain ⟨h', hcontent⟩ := h.of_sameView hview
    rw [loadFrom_of_selects h', loadFrom_of_selects h, hcontent]

def damagedFiles : FileSystem := fun path =>
  if path = "damaged.json" then some (.file (some "\x7b"))
  else if path = "sort_registry.toml" then some .directory
  else if path = "sort_registry.json" then some (.file (some "\x7b\x7d"))
  else none

theorem damaged_files_told :
    let env : Environment := ⟨some "damaged.json", some "\x7b\x7d"⟩
    let blank : Environment := ⟨some " ", some ""⟩
    ofJson "\x7b\x7d" = .ok empty ∧
    Selects env damagedFiles "" (.envPath "damaged.json") ∧
    loadFrom env damagedFiles "" = .error (.jsonFile "damaged.json" .malformed) ∧
    Selects blank damagedFiles "" (.file "sort_registry.toml") ∧
    loadFrom blank damagedFiles "" = .error (.unreadable "sort_registry.toml") := by
  intro env blank
  have hpath : Selects env damagedFiles "" (.envPath "damaged.json") :=
    .envPath ⟨rfl, 'd', by simp, by decide⟩
  have hfirst : candidates "" = [] ++ "sort_registry.toml" :: defaultFiles.tail := rfl
  have hfile : Selects blank damagedFiles "" (.file "sort_registry.toml") :=
    .file (given?_eq_none_iff.1 (by decide)) (given?_eq_none_iff.1 (by decide)) hfirst nofun
      (by decide)
  obtain ⟨-, -, hpathLoads⟩ := load_from_selected env damagedFiles ""
  obtain ⟨-, hyields, hfault, -⟩ := hpathLoads _ hpath
  obtain ⟨-, -, hfileLoads⟩ := load_from_selected blank damagedFiles ""
  obtain ⟨-, hyields', hfault', -⟩ := hfileLoads _ hfile
  refine ⟨rfl, hpath, (hfault _).2 ((hyields _).2 ?_), hfile, (hfault' _).2 ((hyields' _).2 ?_)⟩
  · exact .envPath (.jsonFault (by decide) rfl)
  · exact .file (.unreadable (.inr (.inl rfl)))

end SortPipeline.Registry
