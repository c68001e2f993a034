import SchemaMutation.Proofs.Assembly

/-!
# Lookups

What the lookups of a snapshot answer. The indices hold the place of every table and every column under its joined
names and nothing else (`Snapshot.Placed`), so that a lookup finds something with the key that it asks for. Whether this
is what was asked for depends on the names: all lookups are right exactly when no name that the snapshot shows contains
the colon that joins keys (`Snapshot.lookups_right_iff`).
-/

namespace SchemaMutation.Schema

theorem split_at_colon {x x' z z' : List Char} (free : ':' ∉ x) (free' : ':' ∉ x')
    (same : x ++ ':' :: z = x' ++ ':' :: z') : x = x' ∧ z = z' := by
  induction x generalizing x' with
  | nil =>
    cases x' with
    | nil => exact ⟨rfl, (List.cons.inj same).2⟩
    | cons c x' => exact absurd (List.cons.inj same).1 (fun first => free' (first ▸ List.mem_cons_self))
  | cons c x ih =>
    cases x' with
    | nil => exact absurd (List.cons.inj same).1.symm (fun first => free (first ▸ List.mem_cons_self))
    | cons c' x' =>
      obtain ⟨first, rest⟩ := List.cons.inj same
      obtain ⟨rfl, tails⟩ := ih (List.not_mem_of_not_mem_cons free) (List.not_mem_of_not_mem_cons free') rest
      exact ⟨by rw [first], tails⟩

theorem exists_split {s : String} (colon : ':' ∈ s.toList) : ∃ x y : String, s = x ++ ":" ++ y := by
  obtain ⟨before, after, split⟩ := List.append_of_mem colon
  refine ⟨String.ofList before, String.ofList after, String.toList_inj.mp ?_⟩
  simp [split]

namespace Snapshot

theorem tableKey_chars (schema table : String) :
    (tableKey schema table).toList = schema.toList ++ ':' :: table.toList := by
  simp [tableKey]

theorem columnKey_chars (schema table column : String) :
    (columnKey schema table column).toList = schema.toList ++ ':' :: (table.toList ++ ':' :: column.toList) := by
  simp [columnKey]

theorem tableKey_inj {schema table schema' table' : String} (schemaFree : ':' ∉ schema.toList)
    (tableFree : ':' ∉ table.toList) (same : tableKey schema table = tableKey schema' table') :
    schema = schema' ∧ table = table' := by
  have chars := congrArg String.toList same
  rw [tableKey_chars, tableKey_chars] at chars
  have colons := congrArg (List.count ':') chars
  simp only [List.count_append, List.count_cons_self, List.count_eq_zero_of_not_mem schemaFree,
    List.count_eq_zero_of_not_mem tableFree] at colons
  have schemaFree' : ':' ∉ schema'.toList := List.count_eq_zero.mp (by omega)
  obtain ⟨sameSchema, sameTable⟩ := split_at_colon schemaFree schemaFree' chars
  exact ⟨String.toList_inj.mp sameSchema, String.toList_inj.mp sameTable⟩

theorem columnKey_inj {schema table column schema' table' column' : String} (schemaFree : ':' ∉ schema.toList)
    (tableFree : ':' ∉ table.toList) (columnFree : ':' ∉ column.toList)
    (same : columnKey schema table column = columnKey schema' table' column') :
    schema = schema' ∧ table = table' ∧ column = column' := by
  have chars := congrArg String.toList same
  rw [columnKey_chars, columnKey_chars] at chars
  have colons := congrArg (List.count ':') chars
  simp only [List.count_append, List.count_cons_self, List.count_eq_zero_of_not_mem schemaFree,
    List.count_eq_zero_of_not_mem tableFree, List.count_eq_zero_of_not_mem columnFree] at colons
  have schemaFree' : ':' ∉ schema'.toList := List.count_eq_zero.mp (by omega)
  have tableFree' : ':' ∉ table'.toList := List.count_eq_zero.mp (by omega)
  obtain ⟨sameSchema, rest⟩ := split_at_colon schemaFree schemaFree' chars
  obtain ⟨sameTable, sameColumn⟩ := split_at_colon tableFree tableFree' rest
  exact ⟨String.toList_inj.mp sameSchema, String.toList_inj.mp sameTable, String.toList_inj.mp sameColumn⟩

end Snapshot

namespace Index
variable {α : Type}

theorem mem_insertAll {ix : Index α} {entries : List (String × α)} {e : String × α} :
    e ∈ (ix.insertAll entries).entries ↔ e ∈ entries ∨ e ∈ ix.entries := by
  induction entries generalizing ix with
  | nil => simp [insertAll]
  | cons first rest ih =>
    have step : ix.insertAll (first :: rest) = (ix.insert first.1 first.2).insertAll rest := rfl
    rw [step, ih, insert, List.mem_cons, List.mem_cons, ← or_assoc, or_comm (a := e ∈ rest)]

theorem get?_cases (ix : Index α) (key : String) :
    (∃ value, (key, value) ∈ ix.entries ∧ ix.get? key = some value) ∨
      ((∀ value, (key, value) ∉ ix.entries) ∧ ix.get? key = none) := by
  cases found : ix.get? key with
  | some value =>
    obtain ⟨before, after, split, _⟩ := List.lookup_eq_some_iff.mp found
    exact .inl ⟨value, by simp [split], rfl⟩
  | none =>
    refine .inr ⟨fun value member => ?_, rfl⟩
    have different := List.lookup_eq_none_iff.mp found _ member
    simp at different

/-- Of the values whose places are inserted under one key, the last one is found. -/
theorem insertAll_last {β : Type} (key : β → String) {at? : α → Option β} {placed : List (β × α)}
    (kept : ∀ e ∈ placed, at? e.2 = some e.1) (wanted : String) :
    LastWith (key · = wanted) (placed.map Prod.fst)
      (((empty.insertAll (placed.map fun e => (key e.1, e.2))).get? wanted).bind at?) := by
  induction placed using List.reverseRecOn with
  | nil => exact .none (by simp)
  | append_singleton placed e ih =>
    have before := ih fun e' earlier => kept e' (List.mem_append_left _ earlier)
    have inserted : empty.insertAll ((placed ++ [e]).map fun e => (key e.1, e.2)) =
        (empty.insertAll (placed.map fun e => (key e.1, e.2))).insert (key e.1) e.2 := by
      simp [insertAll]
    rw [inserted, List.map_append, List.map_singleton]
    by_cases same : key e.1 = wanted
    · have found : (((empty.insertAll (placed.map fun e => (key e.1, e.2))).insert (key e.1) e.2).get? wanted) =
          some e.2 := by
        simp [insert, get?, same]
      rw [found, Option.bind_some, kept e (by simp)]
      exact .concat same
    · have other : (((empty.insertAll (placed.map fun e => (key e.1, e.2))).insert (key e.1) e.2).get? wanted) =
          (empty.insertAll (placed.map fun e => (key e.1, e.2))).get? wanted := by
        simp [insert, get?, List.lookup_cons, beq_false_of_ne (Ne.symm same)]
      rw [other]
      exact .concat_without same before

end Index

/-- Of the columns whose names differ at most in case, a table finds the last one. -/
theorem Table.column?_last {t : Table} (indexed : t.reindex = t) (name : String) :
    LastWith (fun c : Column => Text.lowercase c.name = Text.lowercase name) t.columns (t.column? name) := by
  have names : t.names = Index.empty.insertAll (nameEntries t.columns) := (congrArg Table.names indexed).symm
  have kept : ∀ e ∈ t.columns.zipIdx, t.columns[e.2]? = some e.1 := fun e => List.mem_zipIdx_iff_getElem?.mp
  have last := Index.insertAll_last (fun c : Column => Text.lowercase c.name) kept (Text.lowercase name)
  rw [List.zipIdx_map_fst] at last
  rw [column?, names]
  exact last

theorem Table.column?_cases {t : Table} (indexed : t.reindex = t) (name : String) :
    (∃ c ∈ t.columns, Text.lowercase c.name = Text.lowercase name ∧ t.column? name = some c) ∨
      ((∀ c ∈ t.columns, Text.lowercase c.name ≠ Text.lowercase name) ∧ t.column? name = none) := by
  have last := column?_last indexed name
  cases found : t.column? name with
  | some c =>
    rw [found] at last
    exact .inl ⟨c, last.mem, last.holds, rfl⟩
  | none =>
    rw [found] at last
    exact .inr ⟨last.never_of_none, rfl⟩

namespace Snapshot

/-- The indices of a snapshot hold the places of its tables and columns under their keys, and no others. -/
structure Placed (s : Snapshot) : Prop where
  tables : ∀ key place,
    (key, place) ∈ s.tableIndex.entries ↔ ∃ t, s.tables[place]? = some t ∧ tableKey t.schema t.name = key
  columns : ∀ key place,
    (key, place) ∈ s.columnIndex.entries ↔ ∃ c, s.columnAt? place = some c ∧ columnKey c.schema c.table c.name = key

theorem getElem?_concat_eq_some {α : Type} {l : List α} {a b : α} {i : Nat} :
    (l ++ [a])[i]? = some b ↔ l[i]? = some b ∨ i = l.length ∧ a = b := by
  by_cases inside : i < l.length
  · simp [List.getElem?_append_left inside, Nat.ne_of_lt inside]
  · have outside : l[i]? = none := List.getElem?_eq_none (Nat.le_of_not_lt inside)
    by_cases last : i = l.length
    · simp [last]
    · have beyond : (l ++ [a])[i]? = none :=
        List.getElem?_eq_none (by rw [List.length_append, List.length_singleton]; omega)
      simp [outside, last, beyond]

theorem columnAt?_addTable {s : Snapshot} {t : Table} {place : Nat × Nat} {c : Column} :
    (s.addTable t).columnAt? place = some c ↔
      s.columnAt? place = some c ∨ place.1 = s.tables.length ∧ t.columns[place.2]? = some c := by
  simp only [columnAt?, addTable, Option.bind_eq_some_iff, getElem?_concat_eq_some]
  constructor
  · rintro ⟨u, known | ⟨last, rfl⟩, found⟩
    · exact .inl ⟨u, known, found⟩
    · exact .inr ⟨last, found⟩
  · rintro (⟨u, known, found⟩ | ⟨last, found⟩)
    · exact ⟨u, .inl known, found⟩
    · exact ⟨t, .inr ⟨last, rfl⟩, found⟩

theorem mem_columnEntries {n : Nat} {t : Table} {key : String} {place : Nat × Nat} :
    (key, place) ∈ columnEntries n t ↔
      ∃ c, (place.1 = n ∧ t.columns[place.2]? = some c) ∧ columnKey c.schema c.table c.name = key := by
  obtain ⟨i, j⟩ := place
  simp only [columnEntries, List.mem_map, Prod.exists, List.mem_zipIdx_iff_getElem?, Prod.mk.injEq]
  constructor
  · rintro ⟨c, k, found, sameKey, rfl, rfl⟩
    exact ⟨c, ⟨rfl, found⟩, sameKey⟩
  · rintro ⟨c, ⟨rfl, found⟩, sameKey⟩
    exact ⟨c, j, found, sameKey, rfl, rfl⟩

theorem addTable_placed {s : Snapshot} (placed : s.Placed) (t : Table) : (s.addTable t).Placed := by
  constructor
  · intro key place
    have entries : (s.addTable t).tableIndex.entries =
        (tableKey t.schema t.name, s.tables.length) :: s.tableIndex.entries := rfl
    have tables : (s.addTable t).tables = s.tables ++ [t] := rfl
    rw [entries, tables, List.mem_cons, placed.tables]
    simp only [getElem?_concat_eq_some, Prod.mk.injEq]
    constructor
    · rintro (⟨rfl, rfl⟩ | ⟨u, found, sameKey⟩)
      · exact ⟨t, .inr ⟨rfl, rfl⟩, rfl⟩
      · exact ⟨u, .inl found, sameKey⟩
    · rintro ⟨u, found | ⟨rfl, rfl⟩, sameKey⟩
      · exact .inr ⟨u, found, sameKey⟩
      · exact .inl ⟨sameKey.symm, rfl⟩
  · intro key place
    have entries : (s.addTable t).columnIndex = s.columnIndex.insertAll (columnEntries s.tables.length t) := rfl
    rw [entries, Index.mem_insertAll, placed.columns, mem_columnEntries]
    simp only [columnAt?_addTable, or_and_right, exists_or]
    exact or_comm

theorem blank_placed (engine : Catalog.Engine) (version : Int) (schema name : String) (functions : List Function)
    (virtualTables : List VirtualTable) : (blank engine version schema name functions virtualTables).Placed := by
  constructor <;> simp [blank, Index.empty, columnAt?]

theorem addTables_placed {s : Snapshot} (placed : s.Placed) (ts : List Table) : (s.addTables ts).Placed := by
  induction ts generalizing s with
  | nil => exact placed
  | cons t ts ih => exact ih (addTable_placed placed t)

theorem table_cases {s : Snapshot} (placed : s.Placed) (schema name : String) :
    (∃ t ∈ s.tables, tableKey t.schema t.name = tableKey schema name ∧ s.table schema name = .ok t) ∨
      ((∀ t ∈ s.tables, tableKey t.schema t.name ≠ tableKey schema name) ∧
        s.table schema name = .error (.notFound .table (schema ++ "." ++ name))) := by
  rcases s.tableIndex.get?_cases (tableKey schema name) with ⟨place, member, found⟩ | ⟨missing, found⟩
  · obtain ⟨t, atPlace, sameKey⟩ := (placed.tables _ _).mp member
    refine .inl ⟨t, List.mem_of_getElem? atPlace, sameKey, ?_⟩
    simp [table, found, atPlace]
  · refine .inr ⟨fun t member sameKey => ?_, by simp [table, found]⟩
    obtain ⟨place, atPlace⟩ := List.mem_iff_getElem?.mp member
    exact missing place ((placed.tables _ _).mpr ⟨t, atPlace, sameKey⟩)

def exactColumn? (s : Snapshot) (key : String) : Option Column := (s.columnIndex.get? key).bind s.columnAt?

theorem exactColumn?_cases {s : Snapshot} (placed : s.Placed) (key : String) :
    (∃ t ∈ s.tables, ∃ c ∈ t.columns, columnKey c.schema c.table c.name = key ∧ s.exactColumn? key = some c) ∨
      ((∀ t ∈ s.tables, ∀ c ∈ t.columns, columnKey c.schema c.table c.name ≠ key) ∧ s.exactColumn? key = none) := by
  rcases s.columnIndex.get?_cases key with ⟨place, member, found⟩ | ⟨missing, found⟩
  · obtain ⟨c, atPlace, sameKey⟩ := (placed.columns _ _).mp member
    obtain ⟨t, tableAt, columnAt⟩ := Option.bind_eq_some_iff.mp atPlace
    refine .inl ⟨t, List.mem_of_getElem? tableAt, c, List.mem_of_getElem? columnAt, sameKey, ?_⟩
    rw [exactColumn?, found, Option.bind_some, atPlace]
  · refine .inr ⟨fun t inSnapshot c inTable sameKey => ?_, by rw [exactColumn?, found, Option.bind_none]⟩
    obtain ⟨i, tableAt⟩ := List.mem_iff_getElem?.mp inSnapshot
    obtain ⟨j, columnAt⟩ := List.mem_iff_getElem?.mp inTable
    exact missing (i, j) ((placed.columns _ _).mpr ⟨c, by simp [columnAt?, tableAt, columnAt], sameKey⟩)

theorem column_of_exact {s : Snapshot} {schema table column : String} {c : Column}
    (exact : s.exactColumn? (columnKey schema table column) = some c) : s.column schema table column = .ok c := by
  rw [exactColumn?] at exact
  simp only [Snapshot.column, exact]

theorem column_of_noTable {s : Snapshot} {schema table column : String} {e : Error}
    (inexact : s.exactColumn? (columnKey schema table column) = none) (missing : s.table schema table = .error e) :
    s.column schema table column = .error e := by
  rw [exactColumn?] at inexact
  simp only [Snapshot.column, inexact, missing]
  rfl

theorem column_of_table {s : Snapshot} {schema table column : String} {t : Table}
    (inexact : s.exactColumn? (columnKey schema table column) = none) (found : s.table schema table = .ok t) :
    s.column schema table column =
      match t.column? column with
      | some c => .ok c
      | none => .error (.notFound .column (schema ++ "." ++ table ++ "." ++ column)) := by
  rw [exactColumn?] at inexact
  simp only [Snapshot.column, inexact, found]
  rfl

/-- Columns are given for a table, and it is not internal. -/
def Known (columns : List Column) (schema table : String) : Prop :=
  isInternal table = false ∧ ∃ c ∈ columns, c.home = (schema, table)

/-- What a lookup of a table has to answer: the table with all of its columns in order, if it is known. -/
inductive TableAnswer (columns : List Column) (schema name : String) : Except Error Table → Prop
  | found {t : Table} (known : Known columns schema name) (sameSchema : t.schema = schema) (sameName : t.name = name)
      (all : t.columns = columns.filter (·.home = (schema, name))) : TableAnswer columns schema name (.ok t)
  | missing (unknown : ¬ Known columns schema name) :
      TableAnswer columns schema name (.error (.notFound .table (schema ++ "." ++ name)))

/-- What a lookup of a column has to answer: a column with these names or, failing that, one of the table whose name
    differs in case only. -/
inductive ColumnAnswer (columns : List Column) (schema table column : String) : Except Error Column → Prop
  | exact {c : Column} (known : Known columns schema table) (given : c ∈ columns)
      (named : c.fullName = (schema, table, column)) : ColumnAnswer columns schema table column (.ok c)
  | folded {c : Column} (known : Known columns schema table) (given : c ∈ columns) (home : c.home = (schema, table))
      (alike : Text.lowercase c.name = Text.lowercase column)
      (inexact : ∀ d ∈ columns, d.fullName ≠ (schema, table, column)) : ColumnAnswer columns schema table column (.ok c)
  | noTable (unknown : ¬ Known columns schema table) :
      ColumnAnswer columns schema table column (.error (.notFound .table (schema ++ "." ++ table)))
  | noColumn (known : Known columns schema table)
      (unlike : ∀ d ∈ columns, d.home = (schema, table) → Text.lowercase d.name ≠ Text.lowercase column) :
      ColumnAnswer columns schema table column (.error (.notFound .column (schema ++ "." ++ table ++ "." ++ column)))

/-- The colon that joins names occurs in no name of the column. -/
def ColonFree (c : Column) : Prop := ':' ∉ c.schema.toList ∧ ':' ∉ c.table.toList ∧ ':' ∉ c.name.toList

theorem known_of_shown {columns : List Column} {c : Column} (given : c ∈ columns) (shown : isInternal c.table = false) :
    Known columns c.schema c.table := ⟨shown, c, given, rfl⟩

theorem mem_tablesOf_iff {columns : List Column} {blockList : BlockList} {t : Table} :
    t ∈ tablesOf columns blockList ↔
      ∃ schema name, Known columns schema name ∧ tableAt columns blockList (schema, name) = t := by
  rw [tablesOf_eq, List.mem_map]
  simp only [List.mem_filter, mem_homes, Bool.not_eq_true', Prod.exists, Known]
  exact exists_congr fun schema => exists_congr fun name => and_congr_left' and_comm

theorem mem_tableAt {columns : List Column} {blockList : BlockList} {key : String × String} {c : Column} :
    c ∈ (tableAt columns blockList key).columns ↔ c ∈ columns ∧ c.home = key :=
  List.mem_filter.trans (and_congr_right' decide_eq_true_iff)

section
variable {s : Snapshot} {columns : List Column} {blockList : BlockList}

/-- A known table without colons in its names is the only one with its key. -/
theorem tableAt_of_key (free : ∀ c ∈ columns, isInternal c.table = false → ColonFree c)
    (tables : s.tables = tablesOf columns blockList) {schema name : String} {t : Table} (member : t ∈ s.tables)
    (sameKey : tableKey t.schema t.name = tableKey schema name) :
    Known columns schema name ∧ tableAt columns blockList (schema, name) = t := by
  rw [tables] at member
  obtain ⟨schema', name', known, rfl⟩ := mem_tablesOf_iff.mp member
  obtain ⟨shown, c, given, home⟩ := known
  obtain ⟨rfl, rfl⟩ := Prod.mk.inj home
  obtain ⟨schemaFree, tableFree, _⟩ := free c given shown
  obtain ⟨rfl, rfl⟩ := tableKey_inj schemaFree tableFree sameKey
  exact ⟨known_of_shown given shown, rfl⟩

theorem table_answer (placed : s.Placed) (tables : s.tables = tablesOf columns blockList)
    (free : ∀ c ∈ columns, isInternal c.table = false → ColonFree c) (schema name : String) :
    TableAnswer columns schema name (s.table schema name) := by
  rcases table_cases placed schema name with ⟨t, member, sameKey, found⟩ | ⟨absent, missing⟩
  · obtain ⟨known, rfl⟩ := tableAt_of_key free tables member sameKey
    rw [found]
    exact .found known rfl rfl rfl
  · rw [missing]
    refine .missing fun known => absent (tableAt columns blockList (schema, name)) ?_ rfl
    rw [tables]
    exact mem_tablesOf_iff.mpr ⟨schema, name, known, rfl⟩

theorem column_answer (placed : s.Placed) (tables : s.tables = tablesOf columns blockList)
    (free : ∀ c ∈ columns, isInternal c.table = false → ColonFree c) (schema table column : String) :
    ColumnAnswer columns schema table column (s.column schema table column) := by
  rcases exactColumn?_cases placed (columnKey schema table column) with
    ⟨t, member, c, inTable, sameKey, exact⟩ | ⟨absent, inexact⟩
  · rw [column_of_exact exact]
    rw [tables] at member
    obtain ⟨schema', name', known, rfl⟩ := mem_tablesOf_iff.mp member
    obtain ⟨given, home⟩ := mem_tableAt.mp inTable
    obtain ⟨rfl, rfl⟩ := Prod.mk.inj home
    obtain ⟨schemaFree, tableFree, nameFree⟩ := free c given known.1
    obtain ⟨rfl, rfl, rfl⟩ := columnKey_inj schemaFree tableFree nameFree sameKey
    exact .exact known given rfl
  rcases table_cases placed schema table with ⟨t, member, sameKey, found⟩ | ⟨_, missing⟩
  · obtain ⟨known, rfl⟩ := tableAt_of_key free tables member sameKey
    have indexed : (tableAt columns blockList (schema, table)).reindex = tableAt columns blockList (schema, table) :=
      rfl
    have noExact : ∀ d ∈ columns, d.fullName ≠ (schema, table, column) := by
      rintro d given named
      obtain ⟨rfl, rfl, rfl⟩ : d.schema = schema ∧ d.table = table ∧ d.name = column := by
        simpa only [Column.fullName, Prod.mk.injEq] using named
      exact absent _ member d (mem_tableAt.mpr ⟨given, rfl⟩) rfl
    rw [column_of_table inexact found]
    rcases Table.column?_cases indexed column with ⟨c, inTable, alike, hit⟩ | ⟨unlike, miss⟩
    · obtain ⟨given, home⟩ := mem_tableAt.mp inTable
      rw [hit]
      exact .folded known given home alike noExact
    · rw [miss]
      exact .noColumn known fun d given home => unlike d (mem_tableAt.mpr ⟨given, home⟩)
  · rw [column_of_noTable inexact missing]
    have answer := table_answer placed tables free schema table
    rw [missing] at answer
    cases answer with
    | missing unknown => exact .noTable unknown

theorem ne_append_colon (x y : String) : x ≠ x ++ ":" ++ y := by
  intro same
  have length := congrArg (fun s : String => s.toList.length) same
  simp at length

theorem TableAnswer.of_ok {schema name : String} {t : Table}
    (answer : TableAnswer columns schema name (.ok t)) : t.schema = schema ∧ t.name = name := by
  cases answer with
  | found _ sameSchema sameName _ => exact ⟨sameSchema, sameName⟩

theorem ColumnAnswer.of_ok {schema table column : String} {c : Column}
    (answer : ColumnAnswer columns schema table column (.ok c)) : c.home = (schema, table) := by
  cases answer with
  | exact _ _ named => exact congrArg (fun names : String × String × String => (names.1, names.2.1)) named
  | folded _ _ home _ _ => exact home

theorem table_congr (s : Snapshot) {schema name schema' name' : String} {t : Table}
    (same : tableKey schema name = tableKey schema' name') (found : s.table schema name = .ok t) :
    s.table schema' name' = .ok t := by
  unfold table at found ⊢
  rw [same] at found
  split at found
  · exact found
  · cases found

/-- If all lookups are right, then no column that is shown has a name with a colon: cut at another colon, its key would
    find it under other names. -/
theorem colonFree_of_right (placed : s.Placed) (tables : s.tables = tablesOf columns blockList)
    (right : ∀ schema table column, TableAnswer columns schema table (s.table schema table) ∧
      ColumnAnswer columns schema table column (s.column schema table column))
    {c : Column} (given : c ∈ columns) (shown : isInternal c.table = false) : ColonFree c := by
  have known := known_of_shown given shown
  have inSnapshot : tableAt columns blockList c.home ∈ s.tables := by
    rw [tables]
    exact mem_tablesOf_iff.mpr ⟨c.schema, c.table, known, rfl⟩
  obtain ⟨t, found⟩ : ∃ t, s.table c.schema c.table = .ok t := by
    rcases table_cases placed c.schema c.table with ⟨t, _, _, found⟩ | ⟨absent, _⟩
    · exact ⟨t, found⟩
    · exact absurd rfl (absent _ inSnapshot)
  have answer := (right c.schema c.table c.name).1
  rw [found] at answer
  obtain ⟨sameSchema, sameName⟩ := answer.of_ok
  -- in each of the three names, a colon is another place to cut the key of the table or of the column at
  refine ⟨fun colon => ?_, fun colon => ?_, fun colon => ?_⟩
  · obtain ⟨x, y, cut⟩ := exists_split colon
    have other := (right x (y ++ ":" ++ c.table) c.name).1
    have sameKey : tableKey c.schema c.table = tableKey x (y ++ ":" ++ c.table) := by
      simp only [tableKey, cut, String.append_assoc]
    rw [s.table_congr sameKey found] at other
    exact ne_append_colon x y (by rw [← cut, ← sameSchema, other.of_ok.1])
  · obtain ⟨x, y, cut⟩ := exists_split colon
    have other := (right (c.schema ++ ":" ++ x) y c.name).1
    have sameKey : tableKey c.schema c.table = tableKey (c.schema ++ ":" ++ x) y := by
      simp only [tableKey, cut, String.append_assoc]
    rw [s.table_congr sameKey found] at other
    exact ne_append_colon c.schema x (by rw [← other.of_ok.1, sameSchema])
  · obtain ⟨x, y, cut⟩ := exists_split colon
    obtain ⟨d, exact⟩ : ∃ d, s.exactColumn? (columnKey c.schema c.table c.name) = some d := by
      rcases exactColumn?_cases placed (columnKey c.schema c.table c.name) with ⟨_, _, d, _, _, exact⟩ | ⟨absent, _⟩
      · exact ⟨d, exact⟩
      · exact absurd rfl (absent _ inSnapshot c (mem_tableAt.mpr ⟨given, rfl⟩))
    have sameKey : columnKey c.schema c.table c.name = columnKey c.schema (c.table ++ ":" ++ x) y := by
      simp only [columnKey, cut, String.append_assoc]
    have here := (right c.schema c.table c.name).2
    have there := (right c.schema (c.table ++ ":" ++ x) y).2
    rw [column_of_exact exact] at here
    rw [column_of_exact (sameKey ▸ exact)] at there
    exact ne_append_colon c.table x (Prod.mk.inj (here.of_ok.symm.trans there.of_ok)).2

end

/-- All lookups of a snapshot are right exactly when no column that it shows has a colon in one of its names. -/
theorem lookups_right_iff (engine : Catalog.Engine) (version : Int) (schemaName databaseName : String)
    (columns : List Column) (functions : List Function) (blockList : BlockList) :
    (∀ schema table column,
      TableAnswer columns schema table
        ((ofColumns engine version schemaName databaseName columns functions blockList).table schema table) ∧
      ColumnAnswer columns schema table column
        ((ofColumns engine version schemaName databaseName columns functions blockList).column schema table column)) ↔
    ∀ c ∈ columns, isInternal c.table = false → ColonFree c := by
  have placed : (ofColumns engine version schemaName databaseName columns functions blockList).Placed :=
    addTables_placed (blank_placed engine version schemaName databaseName functions []) _
  have tables : (ofColumns engine version schemaName databaseName columns functions blockList).tables =
      tablesOf columns blockList := ofColumns_tables
  constructor
  · exact fun right c given shown => colonFree_of_right placed tables right given shown
  · exact fun free schema table column =>
      ⟨table_answer placed tables free schema table, column_answer placed tables free schema table column⟩

def colonColumns : List Column := [Column.plain "a:b" "c" "x" "int"]

def colonSnapshot : Snapshot := ofColumns .postgres 160000 "public" "app" colonColumns [] []

/-- The table and its column are found under the names of another table, for which no column was given. -/
theorem colon_finds_other :
    colonSnapshot.table "a" "b:c" = .ok (tableAt colonColumns [] ("a:b", "c")) ∧
      colonSnapshot.column "a" "b:c" "x" = .ok (Column.plain "a:b" "c" "x" "int") ∧
      ¬ TableAnswer colonColumns "a" "b:c" (colonSnapshot.table "a" "b:c") ∧
      ¬ ColumnAnswer colonColumns "a" "b:c" "x" (colonSnapshot.column "a" "b:c" "x") := by
  have table : colonSnapshot.table "a" "b:c" = .ok (tableAt colonColumns [] ("a:b", "c")) := by decide +kernel
  have column : colonSnapshot.column "a" "b:c" "x" = .ok (Column.plain "a:b" "c" "x" "int") := by decide +kernel
  rw [table, column]
  refine ⟨rfl, rfl, fun answer => ?_, fun answer => ?_⟩
  · exact absurd answer.of_ok.1 (by decide +kernel)
  · exact absurd answer.of_ok (by decide +kernel)

end Snapshot

end SchemaMutation.Schema
