import Mathlib.Data.List.Induction
import Straggler.Proofs.TomlDocument

/-!
# Documents with an array of tables

Entries at the top and after them the elements of one array of tables, with entries of their own.
They are read as the entries and one more, which holds the array.
-/

namespace Straggler.Toml

set_option autoImplicit false

/-! ## Documents as they may be written -/

def entryLines (es : List (String × Value)) : List Statement :=
  es.map fun e => .entry e.1 e.2

/-- The lines of these tables, each a new element of the array with the key. -/
def tableLines (key : String) (tables : List (List (String × Value))) : List Statement :=
  tables.flatMap fun es => .element key :: entryLines es

def Writable (e : String × Value) : Prop :=
  Bare e.1 ∧ ∃ t, Writes e.2 t

theorem writable_string {key : String} (bare : Bare key) (s : String) :
    Writable (key, .string s) := by
  obtain ⟨ts, spelled⟩ := exists_spelled s.toList
  exact ⟨bare, _, .string spelled⟩

theorem exists_textOf_tables {entries : List (String × Value)} (key : String)
    {tables : List (List (String × Value))} (plain : ∀ e ∈ entries, Writable e) (bare : Bare key)
    (inner : ∀ es ∈ tables, ∀ e ∈ es, Writable e) :
    ∃ text, TextOf (entryLines entries ++ tableLines key tables) text := by
  have entry {e : String × Value} (h : Writable e) : ∃ l, (Statement.entry e.1 e.2).Line l := by
    obtain ⟨named, t, value⟩ := h
    exact ⟨_, .spaced e.1 named value⟩
  apply exists_textOf
  simp only [List.mem_append, entryLines, tableLines, List.mem_map, List.mem_flatMap, List.mem_cons]
  rintro s (⟨e, he, rfl⟩ | ⟨es, hes, rfl | ⟨e, he, rfl⟩⟩)
  · exact entry (plain e he)
  · exact ⟨_, .header key bare⟩
  · exact entry (inner es hes e he)

/-! ## Entries of a table -/

def nodes (es : List (String × Value)) : Entries :=
  es.map fun e => (e.1, .value e.2)

theorem put_append {key : String} {es : Entries} (h : es.lookup key = none) (node : Node)
    (rest : Entries) : put key node (es ++ rest) = es ++ put key node rest := by
  induction es with
  | nil => rfl
  | cons e es ih =>
    obtain ⟨k, n⟩ := e
    rw [List.lookup_cons] at h
    split at h
    · cases h
    · next other =>
      have ne : k ≠ key := by
        rintro rfl
        simp at other
      rw [List.cons_append, put, if_neg ne, ih h, List.cons_append]

theorem put_new {key : String} {es : Entries} (h : es.lookup key = none) (node : Node) :
    put key node es = es ++ [(key, node)] := by
  simpa [put] using put_append h node []

theorem put_last {key : String} {es : Entries} (h : es.lookup key = none) (node old : Node) :
    put key node (es ++ [(key, old)]) = es ++ [(key, node)] := by
  simpa [put] using put_append h node [(key, old)]

theorem lookup_last {key : String} {es : Entries} (h : es.lookup key = none) (node : Node) :
    (es ++ [(key, node)]).lookup key = some node := by
  simp [List.lookup_append, h]

theorem assign_new {key : String} {es : Entries} (h : es.lookup key = none) (v : Value) :
    Toml.assign [] key v .header es = .ok (.header, es ++ [(key, .value v)]) := by
  simp [Toml.assign, descend, h, put_new h, pure, Except.pure]

theorem lookup_nodes {key : String} {es : List (String × Value)} (h : key ∉ es.map (·.1)) :
    (nodes es).lookup key = none := by
  simp only [List.mem_map, not_exists, not_and] at h
  simp only [List.lookup_eq_none_iff, nodes, List.mem_map, bne_iff_ne, forall_exists_index, and_imp]
  rintro _ e he rfl same
  exact h e he same.symm

/-- Entries are added one by one to the table that takes them. -/
theorem fold_entries (place : Entries → Document)
    (adds : ∀ es key v, es.lookup key = none →
      (place es).assign [] key v = .ok (place (es ++ [(key, .value v)])))
    {es : List (String × Value)} (distinct : (es.map (·.1)).Nodup) :
    (entryLines es).foldlM Document.apply (place []) = .ok (place (nodes es)) := by
  -- each entry comes after the others, so the last one is taken off first
  induction es using List.reverseRecOn with
  | nil => rfl
  | append_singleton es e ih =>
    simp only [List.map_append, List.nodup_append, List.map_cons, List.map_nil] at distinct
    obtain ⟨others, -, apart⟩ := distinct
    have fresh : e.1 ∉ es.map (·.1) := fun h => apart _ h _ (List.mem_singleton_self _) rfl
    have last := adds _ _ e.2 (lookup_nodes fresh)
    simp only [entryLines, nodes, List.map_append, List.map_cons, List.map_nil] at ih last ⊢
    rw [List.foldlM_append, ih others]
    simp only [List.foldlM_cons, List.foldlM_nil, Document.apply, bind, Except.bind, last]
    rfl

theorem assign_root {es : Entries} {key : String} (h : es.lookup key = none) (v : Value) :
    Document.assign { root := es } [] key v = .ok { root := es ++ [(key, .value v)] } := by
  rw [Document.assign, Document.change, descend, assign_new h]
  rfl

/-! ## Elements of an array -/

def tablesAt (key : String) : List Entries → Entries
  | [] => []
  | e :: es => [(key, .tables (e :: es))]

theorem assign_latest {root es : Entries} {earlier : List Entries} {array key : String}
    (free : root.lookup array = none) (h : es.lookup key = none) (v : Value) :
    Document.assign { root := root ++ [(array, .tables (es :: earlier))], current := [array] }
        [] key v =
      .ok { root := root ++ [(array, .tables ((es ++ [(key, .value v)]) :: earlier))],
            current := [array] } := by
  rw [Document.assign, Document.change, descend, lookup_last free]
  simp only [descend, assign_new h, bind, Except.bind, put_last free]
  rfl

theorem openElement_root {root : Entries} {key : String} (free : root.lookup key = none)
    (elements : List Entries) (current : List String) :
    Document.apply { root := root ++ tablesAt key elements, current } (.element key) =
      .ok { root := root ++ [(key, .tables ([] :: elements))], current := [key] } := by
  rw [Document.apply, Document.change, descend, openElement]
  cases elements with
  | nil =>
    rw [tablesAt, List.append_nil, free]
    simp only [put_new free]
    rfl
  | cons e es =>
    rw [tablesAt, lookup_last free]
    simp only [put_last free]
    rfl

theorem fold_tables {root : Entries} {key : String} (free : root.lookup key = none)
    {tables : List (List (String × Value))} (distinct : ∀ es ∈ tables, (es.map (·.1)).Nodup)
    (elements : List Entries) (current : List String) :
    ∃ current', (tableLines key tables).foldlM Document.apply
        { root := root ++ tablesAt key elements, current } =
      .ok { root := root ++ tablesAt key ((tables.map nodes).reverse ++ elements),
            current := current' } := by
  -- a header changes the current table, and the array grows by the element it opens
  induction tables generalizing elements current with
  | nil => exact ⟨current, rfl⟩
  | cons es tables ih =>
    obtain ⟨first, others⟩ := List.forall_mem_cons.mp distinct
    obtain ⟨current', rest⟩ := ih others (nodes es :: elements) [key]
    refine ⟨current', ?_⟩
    have table := fold_entries
      (fun es => { root := root ++ [(key, .tables (es :: elements))], current := [key] })
      (fun es k v h => assign_latest free h v) first
    rw [tableLines, List.flatMap_cons, List.cons_append, List.foldlM_cons, openElement_root free]
    simp only [bind, Except.bind]
    rw [List.foldlM_append, table]
    simpa [bind, Except.bind, tablesAt, tableLines] using rest

/-! ## What is read -/

theorem entryValues_nodes (es : List (String × Value)) : entryValues (nodes es) = es := by
  induction es with
  | nil => rfl
  | cons e es ih =>
    rw [nodes] at ih
    simp [nodes, entryValues, entryValue, Node.toValue, ih]

theorem entryValues_append (es es' : Entries) :
    entryValues (es ++ es') = entryValues es ++ entryValues es' := by
  induction es with
  | nil => rfl
  | cons e es ih => simp [entryValues, ih]

theorem elementValues_eq (elements : List Entries) :
    elementValues elements = elements.map fun es => .table (entryValues es) := by
  induction elements with
  | nil => rfl
  | cons es elements ih => simp [elementValues, ih]

def tableArray (key : String) : List (List (String × Value)) → List (String × Value)
  | [] => []
  | es :: tables => [(key, .array ((es :: tables).map .table))]

theorem entryValues_tablesAt (key : String) (tables : List (List (String × Value))) :
    entryValues (tablesAt key (tables.map nodes).reverse) = tableArray key tables := by
  cases tables with
  | nil => rfl
  | cons es tables =>
    obtain ⟨e, rest, latest⟩ : ∃ e rest, (((es :: tables).map nodes).reverse) = e :: rest :=
      List.exists_cons_of_ne_nil (by simp)
    have values : (elementValues ((es :: tables).map nodes).reverse).reverse =
        (es :: tables).map .table := by
      rw [elementValues_eq, List.map_reverse, List.reverse_reverse, List.map_map]
      simp [entryValues_nodes]
    rw [latest] at values ⊢
    simp only [tablesAt, entryValues, entryValue, Node.toValue, values, tableArray]

/-- A document of entries with different keys, and after them of tables with a key of their own
whose entries have different keys in each, is read as these entries and the array of the tables. -/
theorem parse_tables {entries : List (String × Value)} {key : String}
    {tables : List (List (String × Value))} {text : List Char}
    (written : TextOf (entryLines entries ++ tableLines key tables) text)
    (distinct : (entries.map (·.1)).Nodup) (free : tables ≠ [] → key ∉ entries.map (·.1))
    (inner : ∀ es ∈ tables, (es.map (·.1)).Nodup) :
    parse text = .ok (entries ++ tableArray key tables) := by
  have plain : (entryLines entries).foldlM Document.apply {} = .ok { root := nodes entries } :=
    fold_entries (fun es => { root := es }) (fun es k v h => assign_root h v) distinct
  have all : ∃ current, (entryLines entries ++ tableLines key tables).foldlM Document.apply {} =
      .ok { root := nodes entries ++ tablesAt key (tables.map nodes).reverse, current } := by
    rw [List.foldlM_append, plain]
    cases tables with
    | nil =>
      refine ⟨[], ?_⟩
      simp only [tablesAt, tableLines, List.map_nil, List.reverse_nil, List.append_nil]
      rfl
    | cons es tables =>
      obtain ⟨current, rest⟩ := fold_tables (lookup_nodes (free (List.cons_ne_nil _ _))) inner [] []
      refine ⟨current, ?_⟩
      simpa [bind, Except.bind, tablesAt] using rest
  obtain ⟨current, all⟩ := all
  rw [parse_textOf written, all, Except.map, entryValues_append, entryValues_nodes,
    entryValues_tablesAt]

end Straggler.Toml
