import SchemaMutation.Proofs.Lookup

/-!
# Columns and their tables

How a snapshot divides the columns that it is made of. A table stands for a schema and a name, in the order in which
they first appear, and holds the columns under them as they were given; a column is in exactly one table, unless its
table is internal and left out (`Snapshot.ofColumns_partitioned`). What a table tells of its columns as a whole is drawn
from the columns that it holds (`Table.Assembled`).
-/

namespace SchemaMutation.Schema

/-- A table made of those of the columns that belong to it. -/
structure Table.Assembled (columns : List Column) (blockList : BlockList) (t : Table) : Prop where
  shown : Snapshot.isInternal t.name = false
  /-- These columns and no others, in the order and in the state in which they were given. -/
  columns : t.columns = columns.filter (·.home = t.home)
  blocked : t.blocked = blockList.blocks t.name
  /-- Of several primary-key columns the last one counts, and a full-text column never does. -/
  primary : LastWith (fun c : Column => c.primaryKey = true ∧ c.fullText = false) t.columns t.primary
  fullText : t.fullText = t.columns.filter (·.fullText)
  secondary : t.secondary = none

theorem Table.primary_ofColumns (schema name type : String) (columns : List Column) :
    LastWith (fun c : Column => c.primaryKey = true ∧ c.fullText = false) columns
      (Table.ofColumns schema name type columns).primary := by
  have eligible : columns.filter Table.isPrimary =
      columns.filter fun c => decide (c.primaryKey = true ∧ c.fullText = false) := by
    refine List.filter_congr fun c _ => ?_
    cases primary : c.primaryKey <;> cases fullText : c.fullText <;> simp [Table.isPrimary, primary, fullText]
  have last : (Table.ofColumns schema name type columns).primary = (columns.filter Table.isPrimary).getLast? := rfl
  rw [last, eligible]
  exact LastWith.getLast?_filter _ columns

namespace Snapshot

def shownColumns (columns : List Column) : List Column := columns.filter fun c => !isInternal c.table

/-- A snapshot whose tables divide the columns that are shown. -/
structure Partitioned (columns : List Column) (blockList : BlockList) (s : Snapshot) : Prop where
  /-- There is a table for each schema and name with a column that is shown, in the order of the first such column. -/
  homes : s.tables.map Table.home = ((shownColumns columns).map Column.home).eraseDups
  distinct : (s.tables.map Table.home).Nodup
  each : ∀ t ∈ s.tables, t.Assembled columns blockList
  once : ∀ c ∈ shownColumns columns, ∃! t, t ∈ s.tables ∧ c ∈ t.columns
  /-- Columns that are given several times are held as often. -/
  all : (s.tables.flatMap (·.columns)).Perm (shownColumns columns)
  virtualTables : s.virtualTables = []

variable {columns : List Column} {blockList : BlockList}

theorem mem_shownColumns {c : Column} : c ∈ shownColumns columns ↔ c ∈ columns ∧ isInternal c.table = false := by
  rw [shownColumns, List.mem_filter, Bool.not_eq_true']

theorem filter_shown (columns : List Column) {home : String × String} (shown : isInternal home.2 = false) :
    columns.filter (·.home = home) = (shownColumns columns).filter (·.home = home) := by
  rw [shownColumns, List.filter_filter]
  refine List.filter_congr fun c _ => ?_
  by_cases same : c.home = home
  · have table : c.table = home.2 := congrArg Prod.snd same
    simp [same, table, shown]
  · simp [same]

theorem homes_shown (columns : List Column) :
    (homes columns).filter (fun key => !isInternal key.2) = ((shownColumns columns).map Column.home).eraseDups := by
  rw [homes, ← eraseDups_filter, List.filter_map]
  rfl

theorem tablesOf_shown (columns : List Column) (blockList : BlockList) :
    tablesOf columns blockList =
      ((shownColumns columns).map Column.home).eraseDups.map (tableAt columns blockList) := by
  rw [tablesOf_eq, homes_shown]

theorem tablesOf_homes (columns : List Column) (blockList : BlockList) :
    (tablesOf columns blockList).map Table.home = ((shownColumns columns).map Column.home).eraseDups := by
  rw [tablesOf_shown, List.map_map]
  exact List.map_id _

theorem mem_shown_homes {key : String × String} :
    key ∈ ((shownColumns columns).map Column.home).eraseDups ↔ ∃ c ∈ shownColumns columns, c.home = key := by
  rw [List.mem_eraseDups, List.mem_map]

theorem tableAt_assembled {key : String × String} (shown : isInternal key.2 = false) :
    (tableAt columns blockList key).Assembled columns blockList where
  shown := shown
  columns := rfl
  blocked := rfl
  primary := Table.primary_ofColumns key.1 key.2 "" _
  fullText := rfl
  secondary := rfl

theorem tablesOf_assembled {t : Table} (member : t ∈ tablesOf columns blockList) : t.Assembled columns blockList := by
  obtain ⟨schema, name, known, rfl⟩ := mem_tablesOf_iff.mp member
  exact tableAt_assembled known.1

theorem existsUnique_table {c : Column} (given : c ∈ shownColumns columns) (blockList : BlockList) :
    ∃! t, t ∈ tablesOf columns blockList ∧ c ∈ t.columns := by
  obtain ⟨inColumns, shown⟩ := mem_shownColumns.mp given
  refine ⟨tableAt columns blockList c.home, ⟨?_, mem_tableAt.mpr ⟨inColumns, rfl⟩⟩, ?_⟩
  · exact mem_tablesOf_iff.mpr ⟨c.schema, c.table, known_of_shown inColumns shown, rfl⟩
  · rintro t ⟨member, inTable⟩
    obtain ⟨schema, name, -, rfl⟩ := mem_tablesOf_iff.mp member
    rw [(mem_tableAt.mp inTable).2]

theorem tablesOf_columns_perm (columns : List Column) (blockList : BlockList) :
    ((tablesOf columns blockList).flatMap (·.columns)).Perm (shownColumns columns) := by
  have groups : ((tablesOf columns blockList).flatMap (·.columns)) =
      ((shownColumns columns).map Column.home).eraseDups.flatMap fun key =>
        (shownColumns columns).filter (·.home = key) := by
    rw [tablesOf_shown, List.flatMap_map]
    refine List.flatMap_congr fun key known => ?_
    obtain ⟨c, given, rfl⟩ := mem_shown_homes.mp known
    exact filter_shown columns (mem_shownColumns.mp given).2
  rw [groups]
  exact fibers_perm Column.home (nodup_eraseDups _) fun c given => mem_shown_homes.mpr ⟨c, given, rfl⟩

theorem nodup_names (distinct : (columns.map Column.fullName).Nodup)
    {t : Table} (member : t ∈ tablesOf columns blockList) : (t.columns.map (·.name)).Nodup := by
  obtain ⟨schema, name, _, rfl⟩ := mem_tablesOf_iff.mp member
  have apart := List.inj_on_of_nodup_map distinct
  refine List.Nodup.map_on ?_ (distinct.of_map.filter _)
  intro c inTable d inTable' same
  obtain ⟨given, home⟩ := mem_tableAt.mp inTable
  obtain ⟨given', home'⟩ := mem_tableAt.mp inTable'
  obtain ⟨sameSchema, sameTable⟩ := Prod.mk.inj (home.trans home'.symm)
  exact apart given given' (by rw [Column.fullName, Column.fullName, sameSchema, sameTable, same])

theorem ofColumns_virtualTables (engine : Catalog.Engine) (version : Int) (schema name : String)
    (functions : List Function) :
    (ofColumns engine version schema name columns functions blockList).virtualTables = [] :=
  (addTables_frame _ _).2.2.2.2.2

/-- The tables of a snapshot divide the columns that it is made of, those of internal tables apart. -/
theorem ofColumns_partitioned (engine : Catalog.Engine) (version : Int) (schema name : String) (columns : List Column)
    (functions : List Function) (blockList : BlockList) :
    (ofColumns engine version schema name columns functions blockList).Partitioned columns blockList := by
  have tables : (ofColumns engine version schema name columns functions blockList).tables =
      tablesOf columns blockList := ofColumns_tables
  have homes := tables ▸ tablesOf_homes columns blockList
  refine ⟨homes, homes ▸ nodup_eraseDups _, fun t member => ?_, fun c given => ?_, ?_,
    ofColumns_virtualTables engine version schema name functions⟩
  · rw [tables] at member
    exact tablesOf_assembled member
  · rw [tables]
    exact existsUnique_table given blockList
  · rw [tables]
    exact tablesOf_columns_perm columns blockList

end Snapshot

end SchemaMutation.Schema
