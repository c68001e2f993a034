import SchemaMutation.Proofs.FilterMeaning
import SchemaMutation.Proofs.Partition

/-!
# Columns under their exact names

Whether a column is found under the name that it has. Both lookups of a column go by keys that several columns can
share: a table asks for the name in lower case, a snapshot for the joined names. In either the last of the columns with
a key is found, so that a name finds its column exactly when no later column shadows it
(`exact_name_finds_iff`).
-/

namespace SchemaMutation

namespace Schema

def Column.foldedName (c : Column) : String := Text.lowercase c.name

def Column.joinedName (c : Column) : String := Snapshot.columnKey c.schema c.table c.name

def Snapshot.columns (s : Snapshot) : List Column := s.tables.flatMap (·.columns)

namespace Snapshot

/-- The columns of tables with their places, the first table standing at the place that is given. -/
def placedColumns (first : Nat) (ts : List Table) : List (Column × (Nat × Nat)) :=
  (ts.zipIdx first).flatMap fun (t, i) => t.columns.zipIdx.map fun (c, j) => (c, (i, j))

theorem placedColumns_cons (first : Nat) (t : Table) (ts : List Table) :
    placedColumns first (t :: ts) =
      (t.columns.zipIdx.map fun (c, j) => (c, (first, j))) ++ placedColumns (first + 1) ts := rfl

theorem placedColumns_fst (first : Nat) (ts : List Table) :
    (placedColumns first ts).map Prod.fst = ts.flatMap (·.columns) := by
  induction ts generalizing first with
  | nil => rfl
  | cons t ts ih =>
    have columns : (t.columns.zipIdx.map fun (c, j) => (c, (first, j))).map Prod.fst = t.columns := by
      rw [List.map_map]
      exact List.zipIdx_map_fst 0 t.columns
    rw [placedColumns_cons, List.map_append, columns, ih, List.flatMap_cons]

theorem columnIndex_addTables (s : Snapshot) (ts : List Table) :
    (s.addTables ts).columnIndex =
      s.columnIndex.insertAll ((placedColumns s.tables.length ts).map fun e => (e.1.joinedName, e.2)) := by
  induction ts generalizing s with
  | nil => rfl
  | cons t ts ih =>
    have step : s.addTables (t :: ts) = (s.addTable t).addTables ts := rfl
    have length : (s.addTable t).tables.length = s.tables.length + 1 := by simp [addTable]
    have index : (s.addTable t).columnIndex = s.columnIndex.insertAll (columnEntries s.tables.length t) := rfl
    have entries : columnEntries s.tables.length t =
        (t.columns.zipIdx.map fun (c, j) => (c, (s.tables.length, j))).map fun e => (e.1.joinedName, e.2) := by
      rw [List.map_map]
      rfl
    rw [step, ih, length, index, entries, placedColumns_cons, List.map_append]
    exact (List.foldl_append ..).symm

/-- Of the columns with the same joined names, a snapshot finds the last one. -/
theorem exactColumn?_last (engine : Catalog.Engine) (version : Int) (schema name : String) (columns : List Column)
    (functions : List Function) (blockList : BlockList) (key : String) :
    LastWith (Column.joinedName · = key)
      (ofColumns engine version schema name columns functions blockList).columns
      ((ofColumns engine version schema name columns functions blockList).exactColumn? key) := by
  have kept : ∀ e ∈ placedColumns 0 (tablesOf columns blockList),
      (ofColumns engine version schema name columns functions blockList).columnAt? e.2 = some e.1 := by
    intro e placed
    obtain ⟨⟨t, i⟩, tableAt, inTable⟩ := List.mem_flatMap.mp placed
    obtain ⟨⟨c, j⟩, columnAt, rfl⟩ := List.mem_map.mp inTable
    have tableAt := List.mem_zipIdx_iff_getElem?.mp tableAt
    have columnAt := List.mem_zipIdx_iff_getElem?.mp columnAt
    rw [columnAt?, ofColumns_tables, tableAt, Option.bind_some, columnAt]
  have index : (ofColumns engine version schema name columns functions blockList).columnIndex =
      Index.empty.insertAll ((placedColumns 0 (tablesOf columns blockList)).map fun e => (e.1.joinedName, e.2)) :=
    columnIndex_addTables _ _
  have last := Index.insertAll_last Column.joinedName kept key
  rw [placedColumns_fst] at last
  rw [Snapshot.columns, ofColumns_tables, exactColumn?, index]
  exact last

theorem ofColumns_columns_nodup (engine : Catalog.Engine) (version : Int) (schema name : String)
    {columns : List Column} (functions : List Function) (blockList : BlockList) (distinct : columns.Nodup) :
    (ofColumns engine version schema name columns functions blockList).columns.Nodup := by
  rw [Snapshot.columns, ofColumns_tables]
  exact (tablesOf_columns_perm columns blockList).nodup_iff.mpr (distinct.filter _)

theorem columnKey_eq_joinedName {columns : List Column} {blockList : BlockList} {schema name : String} {t : Table}
    {c : Column} (assembled : t.Assembled columns blockList) (sameKey : tableKey t.schema t.name = tableKey schema name)
    (member : c ∈ t.columns) : columnKey schema name c.name = c.joinedName := by
  have home : c.home = (t.schema, t.name) := by
    rw [assembled.columns, List.mem_filter, decide_eq_true_iff] at member
    exact member.2
  obtain ⟨inSchema, inTable⟩ := Prod.mk.inj home
  have joined (schema table : String) : columnKey schema table c.name = tableKey schema table ++ ":" ++ c.name := rfl
  rw [Column.joinedName, inSchema, inTable, joined, joined, sameKey]

theorem column_eq_ok_iff {s : Snapshot} {schema table column : String} {c d : Column}
    (last : LastWith (Column.joinedName · = columnKey schema table column) s.columns
      (s.exactColumn? (columnKey schema table column)))
    (member : d ∈ s.columns) (joined : d.joinedName = columnKey schema table column) :
    s.column schema table column = .ok c ↔ s.exactColumn? (columnKey schema table column) = some c := by
  cases found : s.exactColumn? (columnKey schema table column) with
  | none => exact absurd joined ((found ▸ last).never_of_none d member)
  | some e => rw [column_of_exact found, Except.ok.injEq, Option.some.injEq]

end Snapshot

end Schema

namespace Sql

open Query (Filter)
open Schema (Table Column Snapshot)
open Schema.Snapshot (ofColumns)

/-- The exact name of a column is accepted in filters, and stands for that column in the text that is written: where a
    condition of a filter names it, so does the condition that is read there. -/
structure NamedInFilters (t : Table) (c : Column) : Prop where
  accepted : renderFilter (.isNull c.name false) t = .ok (c.name ++ " IS NULL")
  kept : ∀ f text, renderFilter f t = .ok text → ∃ ps e, partsText ps = text ∧ Reads .expression ps e ∧
    List.Forall₂ (fun condition spelled => condition.column? = some c.name → Worded c.name condition spelled)
      (Filter.conditions f) e.atoms

theorem WordedFor.worded {t : Table} {c : Column} (found : t.column? c.name = some c) {condition : Filter}
    {text : String} (written : WordedFor t condition text) (about : condition.column? = some c.name) :
    Worded c.name condition text := by
  obtain ⟨name, d, named, hit, _, worded⟩ := written
  obtain rfl : name = c.name := Option.some.inj (named.symm.trans about)
  obtain rfl : d = c := Option.some.inj (hit.symm.trans found)
  exact worded

theorem namedInFilters_iff {t : Table} (distinct : (t.columns.map (·.name)).Nodup) {c : Column} (member : c ∈ t.columns)
    (shown : c.blocked = false) : NamedInFilters t c ↔ t.column? c.name = some c := by
  constructor
  · intro named
    obtain ⟨ts, laid, written⟩ := renderFilter_eq_ok.mp named.accepted
    obtain ⟨_, accepted, rfl⟩ := tokens_isNull.mp laid
    obtain ⟨d, found, _, rfl⟩ := columnName_eq_ok.mp accepted
    have sameName : d.name = c.name := by simpa [tokensText, Token.text, Atom.text] using written
    rw [found, List.inj_on_of_nodup_map distinct (Schema.Table.column?_mem found) member sameName]
  · intro found
    have accepted : columnName t c.name = .ok c.name := columnName_eq_ok.mpr ⟨c, found, shown, rfl⟩
    have written : tokensText [.atom (.isNull c.name false)] = c.name ++ " IS NULL" := by
      simp [tokensText, Token.text, Atom.text]
    refine ⟨renderFilter_eq_ok.mpr ⟨_, tokens_isNull.mpr ⟨_, accepted, rfl⟩, written⟩, fun f text rendered => ?_⟩
    obtain ⟨ts, laid, rfl⟩ := renderFilter_eq_ok.mp rendered
    obtain ⟨e, reads, conditions, _⟩ := layout_reads laid
    exact ⟨_, e, partsText_tokensParts ts, reads, conditions.imp fun _ _ written => written.worded found⟩

/-- A column of a table that is found is found under its exact name by the table exactly when no later column of the
    table has the same name in lower case, and by the snapshot exactly when no later column of the snapshot has the same
    joined names. Filters go by the table: a column that is not blocked is named in them under the same condition. -/
theorem exact_name_finds_iff (engine : Catalog.Engine) (version : Int) (schemaName databaseName : String)
    (functions : List Schema.Function) (blockList : BlockList) {columns : List Column}
    (distinct : (columns.map Column.fullName).Nodup) {schema name : String} {t : Table}
    (found : (ofColumns engine version schemaName databaseName columns functions blockList).table schema name = .ok t)
    {c : Column} (member : c ∈ t.columns) :
    (t.column? c.name = some c ↔ ¬ Shadowed Column.foldedName t.columns c) ∧
    ((ofColumns engine version schemaName databaseName columns functions blockList).column schema name c.name = .ok c ↔
      ¬ Shadowed Column.joinedName
        (ofColumns engine version schemaName databaseName columns functions blockList).columns c) ∧
    (c.blocked = false → (NamedInFilters t c ↔ ¬ Shadowed Column.foldedName t.columns c)) := by
  have placed : (ofColumns engine version schemaName databaseName columns functions blockList).Placed :=
    Snapshot.addTables_placed (Snapshot.blank_placed engine version schemaName databaseName functions []) _
  have inSnapshot := Snapshot.table_mem found
  have inTables := inSnapshot
  rw [Snapshot.ofColumns_tables] at inTables
  have assembled := Snapshot.tablesOf_assembled inTables
  have indexed : t.reindex = t := by
    obtain ⟨_, _, _, rfl⟩ := Snapshot.mem_tablesOf_iff.mp inTables
    rfl
  have byTable : t.column? c.name = some c ↔ ¬ Shadowed Column.foldedName t.columns c := by
    have once : t.columns.Nodup := assembled.columns ▸ distinct.of_map.filter _
    exact (Schema.Table.column?_last indexed c.name).eq_some_iff once member
  refine ⟨byTable, ?_, fun shown => ?_⟩
  · have inColumns := List.mem_flatMap.mpr ⟨t, inSnapshot, member⟩
    have sameKey : Snapshot.tableKey t.schema t.name = Snapshot.tableKey schema name := by
      rcases Snapshot.table_cases placed schema name with ⟨u, _, sameKey, found'⟩ | ⟨_, missing⟩
      · obtain rfl : t = u := Except.ok.inj (found.symm.trans found')
        exact sameKey
      · rw [missing] at found
        cases found
    have joined := Snapshot.columnKey_eq_joinedName assembled sameKey member
    have last :=
      Snapshot.exactColumn?_last engine version schemaName databaseName columns functions blockList c.joinedName
    rw [Snapshot.column_eq_ok_iff (joined ▸ last) inColumns joined.symm, joined]
    have apart := Snapshot.ofColumns_columns_nodup engine version schemaName databaseName functions blockList
      distinct.of_map
    exact last.eq_some_iff apart inColumns
  · rw [namedInFilters_iff (Snapshot.nodup_names distinct inTables) member shown, byTable]

/-- Two columns of a table whose names differ in case only, of which the second shadows the first. -/
def earlierTwin : Column := .plain "public" "users" "Id" "int"

def laterTwin : Column := .plain "public" "users" "ID" "text"

def twinTable : Table := Snapshot.tableAt [earlierTwin, laterTwin] [] ("public", "users")

def twinSnapshot : Snapshot := ofColumns .postgres 160000 "public" "app" [earlierTwin, laterTwin] [] []

theorem exact_name_finds_laterTwin :
    twinSnapshot.table "public" "users" = .ok twinTable ∧ twinSnapshot.column "public" "users" "ID" = .ok laterTwin ∧
      ¬ Shadowed Column.foldedName twinTable.columns laterTwin ∧
      ¬ Shadowed Column.joinedName twinSnapshot.columns laterTwin ∧ NamedInFilters twinTable laterTwin := by
  have distinct : ([earlierTwin, laterTwin].map Column.fullName).Nodup := by decide
  have found : twinSnapshot.table "public" "users" = .ok twinTable := by decide +kernel
  have member : laterTwin ∈ twinTable.columns := by decide +kernel
  have byTable : twinTable.column? "ID" = some laterTwin := by decide +kernel
  have bySnapshot : twinSnapshot.column "public" "users" "ID" = .ok laterTwin := by decide +kernel
  obtain ⟨table, snapshot, filters⟩ :=
    exact_name_finds_iff .postgres 160000 "public" "app" [] [] distinct found member
  exact ⟨found, bySnapshot, table.mp byTable, snapshot.mp bySnapshot, (filters rfl).mpr (table.mp byTable)⟩

/-- The exact name of the first column finds it in the snapshot, but the second one in the table, and a filter on it is
    written for the second one. -/
theorem exact_name_finds_other :
    ([earlierTwin, laterTwin].map Column.fullName).Nodup ∧ twinSnapshot.table "public" "users" = .ok twinTable ∧
      earlierTwin ∈ twinTable.columns ∧ earlierTwin.blocked = false ∧
      twinSnapshot.column "public" "users" earlierTwin.name = .ok earlierTwin ∧
      twinTable.column? earlierTwin.name = some laterTwin ∧
      renderFilter (.isNull earlierTwin.name false) twinTable = .ok "ID IS NULL" := by
  refine ⟨by decide, ?_, ?_, rfl, ?_, ?_, ?_⟩ <;> decide +kernel

/-- The snapshot is no better off where the joined names of two columns are the same: here it finds the second one under
    the exact name of the first, and the table the first. -/
example :
    let columns : List Column := [.plain "a" "b" "c:x" "int", .plain "a" "b:c" "x" "text"]
    let s := ofColumns .postgres 160000 "public" "app" columns [] []
    (s.table "a" "b").map (·.column? "c:x") = .ok columns.head? ∧
      s.column "a" "b" "c:x" = .ok (.plain "a" "b:c" "x" "text") := by
  decide +kernel

end Sql

end SchemaMutation
