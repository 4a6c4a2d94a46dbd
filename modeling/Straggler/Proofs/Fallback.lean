import Straggler.Config.Search

/-!
# Which settings are used

A path that is given is the only one searched, and otherwise there are up to three. The first of
them that holds a configuration decides, whatever is wrong with those before it and whatever is in
those after it, and where none does the defaults hold. Its settings are used if it is valid, and
otherwise the built-in ones as a whole. A window of grace that is given replaces theirs, and
nothing else. So there are settings for all surroundings, and they depend on no more than the paths
up to the one that decided.
-/

namespace Straggler

set_option autoImplicit false

namespace Config

/-! ## The paths that are searched -/

/-- The directory for the configurations of the user: the one that is set, if it is absolute, and
otherwise the usual one below the home directory. -/
inductive UserDirectory (s : Surroundings) : Option String → Prop
  | set {dir : String} (named : s.configHome = some dir) (absolute : dir.startsWith "/" = true) :
    UserDirectory s (some dir)
  | usual (unset : ∀ dir, s.configHome = some dir → dir.startsWith "/" = false) :
    UserDirectory s (s.home.map (· ++ "/.config"))

/-- The paths that are searched, in this order. Without a home directory there are fewer. -/
inductive Searches (s : Surroundings) : Option String → List String → Prop
  | given (path : String) : Searches s (some path) [path]
  | places {dir : Option String} (user : UserDirectory s dir) :
    Searches s none (dir.toList.map (· ++ "/test-reaper/config.toml") ++
      s.home.toList.map (· ++ "/.test-reaper.toml") ++ ["test-reaper.toml"])

variable {s : Surroundings} {explicit : Option String} {paths : List String}

theorem UserDirectory.eq {dir : Option String} (h : UserDirectory s dir) :
    configDirectory s = dir := by
  rw [configDirectory]
  cases h with
  | set named absolute => simp only [named, absolute, if_true]
  | usual unset =>
    split
    · next dir named => simp only [unset dir named, Bool.false_eq_true, if_false]
    · rfl

theorem exists_userDirectory (s : Surroundings) : ∃ dir, UserDirectory s dir := by
  by_cases absolute : ∃ dir, s.configHome = some dir ∧ dir.startsWith "/" = true
  · obtain ⟨dir, named, absolute⟩ := absolute
    exact ⟨some dir, .set named absolute⟩
  · refine ⟨_, .usual ?_⟩
    intro dir named
    rw [Bool.eq_false_iff]
    intro slash
    exact absolute ⟨dir, named, slash⟩

theorem searchPaths_eq (s : Surroundings) :
    searchPaths s = (configDirectory s).toList.map (· ++ "/test-reaper/config.toml") ++
      s.home.toList.map (· ++ "/.test-reaper.toml") ++ ["test-reaper.toml"] := by
  rw [searchPaths]
  cases configDirectory s <;> cases s.home <;> rfl

theorem Searches.eq (h : Searches s explicit paths) : candidates s explicit = paths := by
  cases h with
  | given path => rfl
  | places user => exact user.eq ▸ searchPaths_eq s

theorem exists_searches (s : Surroundings) (explicit : Option String) :
    ∃ paths, Searches s explicit paths := by
  cases explicit with
  | none =>
    obtain ⟨dir, user⟩ := exists_userDirectory s
    exact ⟨_, .places user⟩
  | some path => exact ⟨_, .given path⟩

/-! ## The path that decides -/

/-- The path can be read, what it holds is text, and the text is a configuration. -/
def HeldAt (files : Files) (path : String) (c : Config) : Prop :=
  ∃ bytes text, files path = .ok bytes ∧ String.fromUTF8? bytes = some text ∧ parse text = .ok c

/-- The configuration that the paths come to, and those of them that have to be looked at. -/
inductive Chosen (files : Files) (paths : List String) : Config → List String → Prop
  | found {before after : List String} {path : String} {c : Config}
      (order : paths = before ++ path :: after) (passed : ∀ p ∈ before, ∀ c, ¬ HeldAt files p c)
      (held : HeldAt files path c) : Chosen files paths c (before ++ [path])
  | default (passed : ∀ p ∈ paths, ∀ c, ¬ HeldAt files p c) : Chosen files paths {} paths

variable {files files' : Files} {path : String} {c : Config} {seen : List String}

theorem heldAt_iff : HeldAt files path c ↔ ofFile files path = .ok c := by
  rw [HeldAt, ofFile]
  cases files path with
  | error cause => simp
  | ok bytes =>
    cases text : String.fromUTF8? bytes with
    | none => simp [text]
    | some text' => simp [text]

/-- Paths that hold no configuration are passed over. -/
theorem firstOf_append {before after : List String}
    (passed : ∀ p ∈ before, ∀ c, ¬ HeldAt files p c) :
    firstOf files (before ++ after) = firstOf files after := by
  induction before with
  | nil => rfl
  | cons p before ih =>
    obtain ⟨first, rest⟩ := List.forall_mem_cons.mp passed
    rw [List.cons_append, firstOf]
    split
    · next c held => exact absurd (heldAt_iff.mpr held) (first c)
    · exact ih rest

theorem firstOf_held (held : HeldAt files path c) (after : List String) :
    firstOf files (path :: after) = c := by
  rw [firstOf, heldAt_iff.mp held]

theorem Chosen.eq (h : Chosen files paths c seen) : firstOf files paths = c := by
  cases h with
  | @found before after path _ order passed held =>
    rw [order, firstOf_append passed, firstOf_held held]
  | default passed =>
    have all : firstOf files (paths ++ []) = firstOf files [] := firstOf_append passed
    rwa [List.append_nil] at all

theorem exists_chosen (files : Files) (paths : List String) :
    ∃ c seen, Chosen files paths c seen := by
  induction paths with
  | nil => exact ⟨{}, [], .default nofun⟩
  | cons path paths ih =>
    by_cases here : ∃ c, HeldAt files path c
    · obtain ⟨c, held⟩ := here
      exact ⟨c, [] ++ [path], .found rfl nofun held⟩
    · -- Nothing is held here, so whatever the rest comes to is chosen, with one more path seen.
      have first : ∀ c, ¬ HeldAt files path c := not_exists.mp here
      obtain ⟨c, seen, chosen⟩ := ih
      cases chosen with
      | @found before after decisive _ order passed held =>
        have order' : path :: paths = path :: before ++ decisive :: after := congrArg _ order
        exact ⟨c, _, .found order' (List.forall_mem_cons.mpr ⟨first, passed⟩) held⟩
      | default passed =>
        exact ⟨{}, path :: paths, .default (List.forall_mem_cons.mpr ⟨first, passed⟩)⟩

theorem HeldAt.congr (h : HeldAt files path c) (same : files' path = files path) :
    HeldAt files' path c := by
  obtain ⟨bytes, text, found, decoded, parsed⟩ := h
  exact ⟨bytes, text, same.trans found, decoded, parsed⟩

/-- What is at the other paths makes no difference. -/
theorem Chosen.congr (h : Chosen files paths c seen) (same : ∀ p ∈ seen, files' p = files p) :
    Chosen files' paths c seen := by
  cases h with
  | @found before after path _ order passed held =>
    rw [List.forall_mem_append, List.forall_mem_singleton] at same
    refine .found order ?_ (held.congr same.2)
    intro p hp c held'
    exact passed p hp c (held'.congr (same.1 p hp).symm)
  | default passed =>
    refine .default ?_
    intro p hp c held'
    exact passed p hp c (held'.congr (same p hp).symm)

theorem load_eq (searched : Searches s explicit paths) (chosen : Chosen s.files paths c seen) :
    load s explicit = c := by
  rw [load, searched.eq, chosen.eq]

end Config

/-! ## The settings -/

variable [Pattern.Engine]

theorem CategoryConfig.compile_eq_of_room {c : CategoryConfig}
    (room : Pattern.Engine.oversized c.pattern.toList = false) :
    c.compile = @compile .boundless c := by
  have same : Pattern.Regex.read c.pattern.toList =
      @Pattern.Regex.read .boundless c.pattern.toList := by
    rw [Pattern.Regex.read_eq_parse room, @Pattern.Regex.read_eq_parse .boundless _ rfl]
  unfold compile Rule.compile
  rw [same]

/-- Where there is room for the built-in patterns, the defaults are valid and become the built-in
settings. -/
theorem Config.settings_default
    (room : ∀ c ∈ builtinCategories, Pattern.Engine.oversized c.pattern.toList = false) :
    ({} : Config).settings = .ok .builtin := by
  have same : ∀ cs ⊆ builtinCategories,
      cs.mapM (·.compile) = cs.mapM (@CategoryConfig.compile .boundless) := by
    intro cs within
    induction cs with
    | nil => rfl
    | cons c cs ih =>
      obtain ⟨hc, within⟩ := List.cons_subset.mp within
      rw [List.mapM_cons, List.mapM_cons, CategoryConfig.compile_eq_of_room (room c hc), ih within]
  have unbounded : ({} : Config).settings = @Config.settings .boundless {} := by
    unfold settings
    rw [same _ (List.Subset.refl _)]
  exact unbounded

namespace Settings

/-- The settings of a configuration, or all the built-in ones if it has none. -/
inductive Basis (c : Config) : Settings → Prop
  | own {base : Settings} (made : c.settings = .ok base) : Basis c base
  | builtin {e : Error} (refused : c.settings = .error e) : Basis c builtin

/-- A window of grace that is given takes the place of the other one, and all else is the same. -/
structure Overrides (base : Settings) (graceMs : Option Nat) (settings : Settings) : Prop where
  categories : settings.categories = base.categories
  graceSignal : settings.policy.graceSignal = base.policy.graceSignal
  killSignal : settings.policy.killSignal = base.policy.killSignal
  given : ∀ ms, graceMs = some ms → settings.policy.graceWindow = ms
  absent : graceMs = none → settings.policy.graceWindow = base.policy.graceWindow

theorem exists_basis (c : Config) :
    ∃ base, Basis c base ∧ c.settings.toOption.getD builtin = base := by
  cases made : c.settings with
  | ok base => exact ⟨base, .own made, rfl⟩
  | error e => exact ⟨builtin, .builtin made, rfl⟩

theorem effective_overrides (s : Surroundings) (explicit : Option String) (graceMs : Option Nat) :
    Overrides ((Config.load s explicit).settings.toOption.getD builtin) graceMs
      (effective s explicit graceMs) where
  categories := rfl
  graceSignal := rfl
  killSignal := rfl
  given := by
    rintro ms rfl
    rfl
  absent := by
    rintro rfl
    rfl

end Settings

/-- There are settings for all surroundings. The first path that holds a configuration decides on
them, or the defaults do. -/
theorem settings_decided (s : Surroundings) (explicit : Option String) (graceMs : Option Nat) :
    ∃ paths seen c base, Config.Searches s explicit paths ∧ Config.Chosen s.files paths c seen ∧
      Config.load s explicit = c ∧ Settings.Basis c base ∧
      Settings.Overrides base graceMs (Settings.effective s explicit graceMs) ∧
      ∀ t : Surroundings, Config.Searches t explicit paths →
        (∀ p ∈ seen, t.files p = s.files p) →
        Config.load t explicit = c ∧
          Settings.effective t explicit graceMs = Settings.effective s explicit graceMs := by
  obtain ⟨paths, searched⟩ := Config.exists_searches s explicit
  obtain ⟨c, seen, chosen⟩ := Config.exists_chosen s.files paths
  have loaded := Config.load_eq searched chosen
  obtain ⟨base, basis, based⟩ := Settings.exists_basis c
  have overridden := Settings.effective_overrides s explicit graceMs
  rw [loaded, based] at overridden
  refine ⟨paths, seen, c, base, searched, chosen, loaded, basis, overridden, ?_⟩
  intro t searched' same
  have loaded' := Config.load_eq searched' (chosen.congr same)
  refine ⟨loaded', ?_⟩
  rw [Settings.effective, Settings.effective, loaded, loaded']

end Straggler
