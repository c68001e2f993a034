import SchemaMutation.Proofs.Assembly
import SchemaMutation.Proofs.Merging
import SchemaMutation.Proofs.Partition

/-!
# Internal tables

Rows of internal tables leave no trace: two catalogs that differ in nothing else are discovered as the same snapshot,
with the same numbers, places, lookups and hash, and whatever that snapshot shows belongs to other tables
(`Discovery.internal_untraceable`). The rows are left out before they are merged, so that none of them can open a
column or be merged into one, and the assembly leaves out the columns of internal tables once more.
-/

namespace SchemaMutation

open Catalog (ColumnRow Identity Source Engine)

def Catalog.Source.withColumns (source : Source) (rows : List ColumnRow) : Source := { source with columns := .ok rows }

namespace Schema

/-- Neither a table nor anything that it has belongs to an internal table. -/
structure Table.External (t : Table) : Prop where
  name : Snapshot.isInternal t.name = false
  columns : ∀ c ∈ t.columns, Snapshot.isInternal c.table = false
  primary : ∀ c ∈ t.primary, Snapshot.isInternal c.table = false
  secondary : ∀ c ∈ t.secondary, Snapshot.isInternal c.table = false
  fullText : ∀ c ∈ t.fullText, Snapshot.isInternal c.table = false

namespace Snapshot

/-- No internal table is in a snapshot or is found in it, nor is one of its columns, under any names. -/
structure External (s : Snapshot) : Prop where
  tables : ∀ t ∈ s.tables, t.External
  table : ∀ schema name t, s.table schema name = .ok t → t.External
  column : ∀ schema table column c, s.column schema table column = .ok c → isInternal c.table = false

theorem external_of_tables {s : Snapshot} (tables : ∀ t ∈ s.tables, t.External) : s.External where
  tables := tables
  table _ _ t found := tables t (table_mem found)
  column _ _ _ c found := by
    obtain ⟨t, member, inTable⟩ := column_mem found
    exact (tables t member).columns c inTable

theorem tablesOf_external {columns : List Column} {blockList : BlockList} {t : Table}
    (member : t ∈ tablesOf columns blockList) : t.External := by
  obtain ⟨-, shown, own⟩ := mem_tablesOf member
  obtain ⟨-, primary, secondary, fullText⟩ := mem_tablesOf_parts member
  have columns (c : Column) (inTable : c ∈ t.columns) : isInternal c.table = false := by
    rw [(own c inTable).2.2]
    exact shown
  refine ⟨shown, columns, fun c last => columns c (primary c last), fun c reserved => ?_,
    fun c kept => columns c (fullText c kept)⟩
  rw [secondary] at reserved
  cases reserved

theorem shownColumns_shownColumns (columns : List Column) :
    shownColumns (shownColumns columns) = shownColumns columns := by
  simp only [shownColumns, List.filter_filter, Bool.and_self]

theorem tablesOf_shownColumns (columns : List Column) (blockList : BlockList) :
    tablesOf (shownColumns columns) blockList = tablesOf columns blockList := by
  rw [tablesOf_shown, tablesOf_shown, shownColumns_shownColumns]
  refine List.map_congr_left fun key known => ?_
  obtain ⟨c, given, rfl⟩ := mem_shown_homes.mp known
  rw [tableAt, tableAt, filter_shown columns (mem_shownColumns.mp given).2]

theorem ofColumns_shownColumns (engine : Engine) (version : Int) (schema name : String) (columns : List Column)
    (functions : List Function) (blockList : BlockList) :
    ofColumns engine version schema name (shownColumns columns) functions blockList =
      ofColumns engine version schema name columns functions blockList := by
  rw [ofColumns, ofColumns, tablesOf_shownColumns]

end Snapshot

namespace Discovery

/-- Without the rows of internal tables the columns are the same, down to their numbers. -/
theorem columns_shownRows (rows : List ColumnRow) (blockList : BlockList) :
    columns (shownRows rows) blockList = columns rows blockList := by
  simp only [columns, mergeRows, shownRows, List.filter_filter, Bool.and_self]

theorem snapshot_shownRows (source : Source) (engine : Engine) (blockList : BlockList) (rows : List ColumnRow) :
    snapshot (source.withColumns (shownRows rows)) engine blockList =
      snapshot (source.withColumns rows) engine blockList := by
  simp only [snapshot, Source.withColumns, ok_bind, columns_shownRows]

theorem snapshot_external {source : Source} {engine : Engine} {blockList : BlockList} {s : Snapshot}
    (discovered : snapshot source engine blockList = .ok s) : s.External := by
  obtain ⟨identity, columnRows, functionRows, -, -, -, rfl⟩ := snapshot_eq_ok_iff.mp discovered
  refine Snapshot.external_of_tables fun t member => ?_
  rw [Snapshot.ofColumns_tables] at member
  exact Snapshot.tablesOf_external member

/-- Catalogs whose rows differ only in those of internal tables have the same snapshot, and nothing in it belongs to an
    internal table; there is none only if another query fails. -/
theorem internal_untraceable (source : Source) (engine : Engine) (blockList : BlockList) {rows rows' : List ColumnRow}
    (alike : shownRows rows = shownRows rows') :
    snapshot (source.withColumns rows) engine blockList = snapshot (source.withColumns rows') engine blockList ∧
      ((∃ e, (source.withColumns rows).fault? = some e ∧
          snapshot (source.withColumns rows) engine blockList = .error e) ∨
        ∃ s, snapshot (source.withColumns rows) engine blockList = .ok s ∧ s.External) := by
  constructor
  · rw [← snapshot_shownRows source engine blockList rows, alike, snapshot_shownRows]
  · rcases snapshot_cases (source.withColumns rows) engine blockList with failed | ⟨-, s, discovered⟩
    · exact .inl failed
    · exact .inr ⟨s, discovered, snapshot_external discovered⟩

def userRows : List ColumnRow := [
  ⟨"public", "users", "id", "bigint", true, false, false, false, false, "", "", ""⟩,
  ⟨"public", "users", "pin", "text", false, false, false, false, false, "", "", ""⟩,
  ⟨"public", "users", "id", "", false, true, false, false, false, "", "", ""⟩]

def cursorRow (column : String) : ColumnRow :=
  ⟨"public", "_sq_cursor", column, "bigint", true, true, false, false, false, "public", "users", "id"⟩

def userSource : Source where
  identity := .ok ⟨160000, "public", "app"⟩
  columns := .ok userRows
  functions := .ok [⟨"touch", "touch_1", "text", none, 1⟩]
  tableColumns _ _ := .ok []

theorem internal_untraceable_users :
    shownRows (cursorRow "id" :: userRows) = shownRows (userRows.flatMap fun row => [row, cursorRow row.name]) ∧
    snapshot (userSource.withColumns (cursorRow "id" :: userRows)) .postgres ["pin"] =
      snapshot (userSource.withColumns (userRows.flatMap fun row => [row, cursorRow row.name])) .postgres ["pin"] ∧
    ∃ s, snapshot (userSource.withColumns (cursorRow "id" :: userRows)) .postgres ["pin"] = .ok s ∧ s.External := by
  have alike : shownRows (cursorRow "id" :: userRows) =
      shownRows (userRows.flatMap fun row => [row, cursorRow row.name]) := by decide +kernel
  obtain ⟨same, ⟨e, fault, -⟩ | shown⟩ := internal_untraceable userSource .postgres ["pin"] alike
  · cases fault
  · exact ⟨alike, same, shown⟩

end Discovery

end Schema

end SchemaMutation
