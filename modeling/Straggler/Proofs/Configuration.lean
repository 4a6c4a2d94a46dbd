import Mathlib.Data.List.Nodup
import Straggler.Config
import Straggler.Proofs.TomlTables

/-!
# A configuration is read back

A file may hold any of the fields of a configuration, in any order, with the tables of categories
last. The fields it holds are read as they were written, and each of the others has its default.
-/

namespace Straggler

set_option autoImplicit false

/-! ## Configuration files -/

inductive Field
  | graceWindow
  | graceSignal
  | killSignal
  | categories
  deriving DecidableEq

namespace Field

def all : List Field :=
  [graceWindow, graceSignal, killSignal, categories]

def key : Field → String
  | graceWindow => "grace_window_ms"
  | graceSignal => "grace_signal"
  | killSignal => "kill_signal"
  | categories => "category"

theorem mem_all (f : Field) : f ∈ all := by cases f <;> decide

theorem key_injective : Function.Injective key := by
  intro f g same
  cases f <;> cases g <;> first | rfl | exact absurd same (by decide)

theorem bare_key (f : Field) : Toml.Bare f.key := by
  cases f <;> simp [key, Toml.Bare]

end Field

/-- The value after the key of a field. Categories have tables of their own instead, unless there
are none. -/
def Config.value? (c : Config) : Field → Option Toml.Value
  | .graceWindow => some (.integer c.graceWindowMs)
  | .graceSignal => some (.string c.graceSignal)
  | .killSignal => some (.string c.killSignal)
  | .categories => if c.categories = [] then some (.array []) else none

def Config.entries (c : Config) (chosen : Field → Bool) : List (String × Toml.Value) :=
  (Field.all.filter chosen).filterMap fun f => (c.value? f).map (f.key, ·)

def CategoryConfig.required (c : CategoryConfig) : List (String × Toml.Value) :=
  [("name", .string c.name), ("pattern", .string c.pattern)]

/-- The entries of a category's table, in any order. The kind may be left out where it is the usual
one. -/
inductive CategoryConfig.TableOf (c : CategoryConfig) : List (String × Toml.Value) → Prop
  | full {es : List (String × Toml.Value)}
      (order : es.Perm (c.required ++ [("kind", .string c.kind.name)])) : TableOf c es
  | short {es : List (String × Toml.Value)} (regex : c.kind = .regex)
      (order : es.Perm c.required) : TableOf c es

/-- Entries and tables that hold the chosen fields of a configuration. The entries stand in any
order and the tables in that of the categories. -/
structure Config.Holds (c : Config) (chosen : Field → Bool) (entries : List (String × Toml.Value))
    (tables : List (List (String × Toml.Value))) : Prop where
  entries : entries.Perm (c.entries chosen)
  tables : List.Forall₂ CategoryConfig.TableOf
    (if chosen .categories then c.categories else []) tables

def Config.FileOf (c : Config) (chosen : Field → Bool) (text : String) : Prop :=
  ∃ entries tables, c.Holds chosen entries tables ∧
    Toml.TextOf (Toml.entryLines entries ++ Toml.tableLines "category" tables) text.toList

/-- The chosen fields of a configuration, and the defaults of the others. -/
def Config.only (c : Config) (chosen : Field → Bool) : Config where
  graceWindowMs := if chosen .graceWindow then c.graceWindowMs else ({} : Config).graceWindowMs
  graceSignal := if chosen .graceSignal then c.graceSignal else ({} : Config).graceSignal
  killSignal := if chosen .killSignal then c.killSignal else ({} : Config).killSignal
  categories := if chosen .categories then c.categories else ({} : Config).categories

/-! ## Entries by their keys -/

section Lookup

variable {es es' : List (String × Toml.Value)} (distinct : (es.map (·.1)).Nodup)
include distinct

theorem lookup_eq_some_iff_mem {key : String} {v : Toml.Value} :
    es.lookup key = some v ↔ (key, v) ∈ es := by
  induction es with
  | nil => simp
  | cons e es ih =>
    obtain ⟨k, w⟩ := e
    rw [List.map_cons, List.nodup_cons] at distinct
    rw [List.lookup_cons, List.mem_cons, Prod.mk.injEq]
    split
    · next same =>
      obtain rfl : key = k := by simpa using same
      have absent : (key, v) ∉ es := fun h => distinct.1 (List.mem_map.mpr ⟨_, h, rfl⟩)
      simp [absent, eq_comm]
    · next other =>
      have ne : key ≠ k := by simpa using other
      simp [ne, ih distinct.2]

theorem lookup_perm (order : es.Perm es') (key : String) : es.lookup key = es'.lookup key := by
  have distinct' : (es'.map (·.1)).Nodup := (order.map _).nodup distinct
  ext v
  rw [lookup_eq_some_iff_mem distinct, lookup_eq_some_iff_mem distinct', order.mem_iff]

end Lookup

namespace Config

variable (c : Config) (chosen : Field → Bool)

theorem mem_entries {f : Field} {v : Toml.Value} :
    (f.key, v) ∈ c.entries chosen ↔ chosen f = true ∧ c.value? f = some v := by
  simp only [entries, List.mem_filterMap, List.mem_filter, Option.map_eq_some_iff, Prod.mk.injEq]
  constructor
  · rintro ⟨g, ⟨-, picked⟩, w, held, same, rfl⟩
    obtain rfl := Field.key_injective same
    exact ⟨picked, held⟩
  · rintro ⟨picked, held⟩
    exact ⟨f, ⟨f.mem_all, picked⟩, v, held, rfl, rfl⟩

theorem distinct_entries : ((c.entries chosen).map (·.1)).Nodup := by
  rw [entries, List.map_filterMap]
  refine List.Nodup.filterMap ?_ (List.Nodup.filter _ (by decide))
  intro f g key hf hg
  simp only [Option.map_map, Option.mem_def, Option.map_eq_some_iff, Function.comp] at hf hg
  obtain ⟨-, -, rfl⟩ := hf
  obtain ⟨-, -, same⟩ := hg
  exact (Field.key_injective same).symm

theorem lookup_entries (f : Field) :
    (c.entries chosen).lookup f.key = if chosen f then c.value? f else none := by
  ext v
  rw [lookup_eq_some_iff_mem (c.distinct_entries chosen), mem_entries]
  split <;> simp_all

end Config

/-! ## Reading -/

theorem readCategory_perm {es es' : List (String × Toml.Value)}
    (distinct : (es.map (·.1)).Nodup) (order : es.Perm es') :
    Config.readCategory (.table es) = Config.readCategory (.table es') := by
  simp only [Config.readCategory, Config.field, lookup_perm distinct order]

theorem CategoryConfig.TableOf.distinct {c : CategoryConfig} {es : List (String × Toml.Value)}
    (h : c.TableOf es) : (es.map (·.1)).Nodup := by
  cases h with
  | full order => exact (order.map (·.1)).nodup_iff.mpr (by simp [required])
  | short regex order => exact (order.map (·.1)).nodup_iff.mpr (by simp [required])

theorem CategoryConfig.TableOf.read {c : CategoryConfig} {es : List (String × Toml.Value)}
    (h : c.TableOf es) : Config.readCategory (.table es) = .ok c := by
  have distinct := h.distinct
  obtain ⟨name, pattern, kind⟩ := c
  cases h with
  | full order =>
    rw [readCategory_perm distinct order]
    cases kind <;> rfl
  | short regex order =>
    rw [readCategory_perm distinct order]
    cases regex
    rfl

theorem readCategories_tables {cs : List CategoryConfig}
    {tables : List (List (String × Toml.Value))}
    (h : List.Forall₂ CategoryConfig.TableOf cs tables) :
    Config.readCategories (.array (tables.map .table)) = .ok cs := by
  rw [Config.readCategories]
  induction h with
  | nil => rfl
  | @cons c es cs tables first rest ih =>
    rw [List.map_cons, List.mapM_cons, first.read, ih]
    rfl

namespace Config.Holds

variable {c : Config} {chosen : Field → Bool} {entries : List (String × Toml.Value)}
  {tables : List (List (String × Toml.Value))} (h : c.Holds chosen entries tables)
include h

theorem distinct : (entries.map (·.1)).Nodup :=
  (h.entries.map (·.1)).nodup_iff.mpr (c.distinct_entries chosen)

theorem distinct_tables : ∀ es ∈ tables, (es.map (·.1)).Nodup := by
  have each := h.tables
  generalize (if chosen .categories then c.categories else []) = listed at each
  clear h
  induction each with
  | nil => nofun
  | cons first rest ih => exact List.forall_mem_cons.mpr ⟨first.distinct, ih⟩

theorem lookup (f : Field) : entries.lookup f.key = if chosen f then c.value? f else none :=
  (lookup_perm h.distinct h.entries f.key).trans (c.lookup_entries chosen f)

/-- Where there are tables of categories there is no entry for them. -/
theorem free (some : tables ≠ []) : "category" ∉ entries.map (·.1) := by
  rw [(h.entries.map (·.1)).mem_iff]
  intro held
  obtain ⟨⟨key, v⟩, entry, same⟩ := List.mem_map.mp held
  obtain rfl : Field.categories.key = key := same.symm
  obtain ⟨picked, value⟩ := (c.mem_entries chosen).mp entry
  simp only [Config.value?, Option.ite_none_right_eq_some] at value
  have written := h.tables
  rw [if_pos picked, value.1] at written
  cases written
  exact some rfl

theorem lookup_plain {f : Field} (plain : f ≠ .categories) :
    (entries ++ Toml.tableArray "category" tables).lookup f.key =
      if chosen f then c.value? f else none := by
  have other : f.key ≠ "category" := fun same => plain (Field.key_injective same)
  have elsewhere : (Toml.tableArray "category" tables).lookup f.key = none := by
    cases tables with
    | nil => rfl
    | cons es tables => simp [Toml.tableArray, other]
  rw [List.lookup_append, elsewhere, h.lookup, Option.or_none]

theorem field_categories :
    Config.field (entries ++ Toml.tableArray "category" tables) "category" Config.readCategories
      (.ok ({} : Config).categories) = .ok (c.only chosen).categories := by
  have found : entries.lookup "category" = _ := h.lookup .categories
  have written := h.tables
  rw [Config.field, List.lookup_append, found]
  cases picked : chosen .categories with
  | false =>
    rw [picked] at written
    cases written
    simp [Toml.tableArray, Config.only, picked]
  | true =>
    rw [picked, if_pos rfl] at written
    have read := readCategories_tables written
    simp only [Config.only, picked, if_true, Config.value?]
    generalize c.categories = listed at written read ⊢
    cases written with
    | nil => rfl
    | cons first rest => simpa [Toml.tableArray] using read

theorem ofEntries :
    Config.ofEntries (entries ++ Toml.tableArray "category" tables) = .ok (c.only chosen) := by
  have window := h.lookup_plain (f := .graceWindow) (by decide)
  have grace := h.lookup_plain (f := .graceSignal) (by decide)
  have kill := h.lookup_plain (f := .killSignal) (by decide)
  simp only [Field.key] at window grace kill
  simp only [Config.ofEntries, h.field_categories]
  simp only [Config.field, window, grace, kill, Config.only]
  cases chosen .graceWindow <;> cases chosen .graceSignal <;> cases chosen .killSignal <;> rfl

end Config.Holds

/-! ## Writing -/

theorem Config.writable_entries {c : Config} (fits : c.graceWindowMs ≤ Nat.pow 2 63 - 1)
    (chosen : Field → Bool) : ∀ e ∈ c.entries chosen, Toml.Writable e := by
  intro e he
  simp only [entries, List.mem_filterMap, List.mem_filter, Option.map_eq_some_iff] at he
  obtain ⟨f, -, v, value, rfl⟩ := he
  cases f with
  | graceWindow =>
    cases value
    exact ⟨Field.bare_key _, _, .integer (Nat.lt_of_le_pred (by decide) fits)⟩
  | graceSignal =>
    cases value
    exact Toml.writable_string (Field.bare_key _) _
  | killSignal =>
    cases value
    exact Toml.writable_string (Field.bare_key _) _
  | categories =>
    obtain ⟨-, same⟩ := Option.ite_none_right_eq_some.mp value
    cases same
    exact ⟨Field.bare_key _, _, .noItems⟩

theorem CategoryConfig.writable (c : CategoryConfig) :
    ∀ e ∈ c.required ++ [("kind", .string c.kind.name)], Toml.Writable e := by
  simp only [required, List.cons_append, List.nil_append, List.forall_mem_cons]
  have bare : Toml.Bare "name" ∧ Toml.Bare "pattern" ∧ Toml.Bare "kind" := by simp [Toml.Bare]
  exact ⟨Toml.writable_string bare.1 _, Toml.writable_string bare.2.1 _,
    Toml.writable_string bare.2.2 _, nofun⟩

theorem Config.exists_fileOf {c : Config} (fits : c.graceWindowMs ≤ Nat.pow 2 63 - 1)
    (chosen : Field → Bool) : ∃ text, c.FileOf chosen text := by
  let tables := (if chosen .categories then c.categories else []).map fun category =>
    category.required ++ [("kind", .string category.kind.name)]
  have inner : ∀ es ∈ tables, ∀ e ∈ es, Toml.Writable e := by
    intro es hes
    obtain ⟨category, -, rfl⟩ := List.mem_map.mp hes
    exact category.writable
  obtain ⟨text, written⟩ := Toml.exists_textOf_tables "category" (c.writable_entries fits chosen)
    Field.categories.bare_key inner
  have written' : List.Forall₂ CategoryConfig.TableOf _ tables :=
    List.forall₂_map_right_iff.mpr (List.forall₂_same.mpr fun category _ => .full (.refl _))
  refine ⟨.ofList text, c.entries chosen, tables, ⟨.refl _, written'⟩, ?_⟩
  rwa [String.toList_ofList]

/-- A file can be written with any of the fields of a configuration whose milliseconds fit 64 bits,
and every such file is read as these fields, with the default of each field it does not hold. -/
theorem config_read_back (c : Config) (chosen : Field → Bool)
    (fits : c.graceWindowMs ≤ Nat.pow 2 63 - 1) :
    (∃ text, c.FileOf chosen text) ∧
      ∀ text, c.FileOf chosen text → Config.parse text = .ok (c.only chosen) := by
  refine ⟨c.exists_fileOf fits chosen, ?_⟩
  rintro text ⟨entries, tables, held, written⟩
  have read := Toml.parse_tables written held.distinct held.free held.distinct_tables
  rw [Config.parse, read]
  simp only [held.ofEntries]

/-- A file that leaves out one signal and the kind of its category. -/
theorem config_read_back_partial :
    2500 ≤ Nat.pow 2 63 - 1 ∧
      Config.parse ("kill_signal = \"KILL\"\ngrace_window_ms = 2500\n\n" ++
          "[[category]]\nname = \"nox\"\npattern = \"\\\\bnox -s\"\n") =
        .ok { graceWindowMs := 2500, killSignal := "KILL",
              categories := [{ name := "nox", pattern := "\\bnox -s" }] } := by
  let c : Config :=
    { graceWindowMs := 2500, killSignal := "KILL",
      categories := [{ name := "nox", pattern := "\\bnox -s" }] }
  have fits : c.graceWindowMs ≤ Nat.pow 2 63 - 1 := by decide
  have plain (text : String) (h : ∀ c ∈ text.toList, Toml.Plain c) :
      Toml.Writes (.string text) ('"' :: (text.toList ++ ['"'])) := .string (Toml.spelled_plain h)
  have killSignal := plain "KILL" (by simp [Toml.Plain])
  have graceWindow := Toml.Writes.integer (n := 2500) (by decide)
  have name := plain "nox" (by simp [Toml.Plain])
  have escaped : Toml.Spelled "\\bnox -s".toList "\\\\bnox -s".toList := by
    have backslash : Toml.Spells '\\' ['\\', '\\'] := .short (by decide)
    have rest : Toml.Spelled "bnox -s".toList _ := Toml.spelled_plain (by simp [Toml.Plain])
    simpa using Toml.Spelled.cons backslash rest
  have table := (Toml.Lines.nil.empty Toml.blank_nil)
    |>.line (.spaced "pattern" (by simp [Toml.Bare]) (.string escaped))
    |>.line (.spaced "name" (by simp [Toml.Bare]) name)
    |>.line (.header "category" Field.categories.bare_key)
  have lines := (table.empty Toml.blank_nil)
    |>.line (.spaced "grace_window_ms" Field.graceWindow.bare_key graceWindow)
    |>.line (.spaced "kill_signal" Field.killSignal.bare_key killSignal)
  have short : c.categories[0].TableOf _ := .short rfl (.refl _)
  exact ⟨fits, (config_read_back c (· ≠ .graceSignal) fits).2 _
    ⟨_, _, ⟨.swap _ _ _, .cons short .nil⟩, _, lines, by decide⟩⟩

end Straggler
