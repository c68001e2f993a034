import Mathlib.Data.List.Nodup
import SchemaMutation.Proofs.Assembly
import SchemaMutation.Registry

/-!
# Merged columns

What discovery makes of the rows of a catalog: one column for each key among the rows that are shown, in the order of
the first row of each, and every column holds what the rows under its key say together (`Discovery.columns_eq`,
`Discovery.mergeAll_eq`). A key joins three names with colons. Columns are told apart as their names are exactly when
no two rows with different names have one key (`Discovery.columns_onePerName_iff`).
-/

namespace SchemaMutation

def Catalog.ColumnRow.fullName (row : ColumnRow) : String × String × String := (row.schema, row.table, row.name)

namespace Schema

open Catalog (ColumnRow)

namespace Discovery

/-- The rows of tables that are not internal. -/
def shownRows (rows : List ColumnRow) : List ColumnRow := rows.filter fun row => !Snapshot.isInternal row.table

def rowKeys (rows : List ColumnRow) : List String := (rows.map rowKey).eraseDups

def rowsUnder (rows : List ColumnRow) (key : String) : List ColumnRow := rows.filter (rowKey · = key)

/-- The column that rows are merged into; the first of them names it. -/
def mergeAll (blockList : BlockList) (id : Nat) (rows : List ColumnRow) : Column :=
  rows.foldl mergeRow (newColumn blockList id (rows.headD default))

theorem mem_rowKeys {rows : List ColumnRow} {key : String} : key ∈ rowKeys rows ↔ ∃ row ∈ rows, rowKey row = key := by
  rw [rowKeys, List.mem_eraseDups, List.mem_map]

theorem nodup_rowKeys (rows : List ColumnRow) : (rowKeys rows).Nodup := nodup_eraseDups _

theorem rowKey_congr {row row' : ColumnRow} (same : row.fullName = row'.fullName) : rowKey row = rowKey row' := by
  simp only [ColumnRow.fullName, Prod.mk.injEq] at same
  obtain ⟨schema, table, name⟩ := same
  rw [rowKey, rowKey, schema, table, name]

theorem rowKeys_concat (rows : List ColumnRow) (row : ColumnRow) :
    rowKeys (rows ++ [row]) = if rowKey row ∈ rowKeys rows then rowKeys rows else rowKeys rows ++ [rowKey row] :=
  eraseDups_map_concat rowKey rows row

theorem rowsUnder_concat (rows : List ColumnRow) (row : ColumnRow) (key : String) :
    rowsUnder (rows ++ [row]) key = if rowKey row = key then rowsUnder rows key ++ [row] else rowsUnder rows key := by
  by_cases same : rowKey row = key <;> simp [rowsUnder, List.filter_append, same]

theorem mergeAll_concat (blockList : BlockList) (id : Nat) {rows : List ColumnRow} (some : rows ≠ [])
    (row : ColumnRow) : mergeAll blockList id (rows ++ [row]) = mergeRow (mergeAll blockList id rows) row := by
  obtain ⟨first, rest, rfl⟩ := List.exists_cons_of_ne_nil some
  simp [mergeAll, List.foldl_append]

theorem addRow_eq (blockList : BlockList) (row : ColumnRow) (column : String → Nat → Column) {keys : List String}
    (distinct : keys.Nodup) (count : Nat) :
    addRow blockList row count ((keys.zipIdx count).map fun e => (e.1, column e.1 e.2)) =
      if rowKey row ∈ keys then
        (keys.zipIdx count).map fun e =>
          (e.1, if rowKey row = e.1 then mergeRow (column e.1 e.2) row else column e.1 e.2)
      else
        (keys.zipIdx count).map (fun e => (e.1, column e.1 e.2)) ++
          [(rowKey row, mergeRow (newColumn blockList (count + keys.length) row) row)] := by
  induction keys generalizing count with
  | nil => rfl
  | cons key keys ih =>
    obtain ⟨new, others⟩ := List.nodup_cons.mp distinct
    rw [List.zipIdx_cons, List.map_cons, List.map_cons, addRow]
    by_cases same : key = rowKey row
    · subst same
      have untouched : ∀ e ∈ keys.zipIdx (count + 1), rowKey row ≠ e.1 := by
        intro e member same
        rw [same] at new
        exact new (List.fst_mem_of_mem_zipIdx member)
      rw [if_pos rfl, if_pos List.mem_cons_self, if_pos rfl]
      refine congrArg _ (List.map_congr_left fun e member => ?_)
      rw [if_neg (untouched e member)]
    · rw [if_neg same, if_neg (Ne.symm same), ih others (count + 1)]
      by_cases known : rowKey row ∈ keys
      · rw [if_pos known, if_pos (List.mem_cons_of_mem _ known)]
      · rw [if_neg known, if_neg (List.not_mem_cons_of_ne_of_not_mem (Ne.symm same) known), List.length_cons,
          List.cons_append, Nat.add_right_comm, Nat.add_assoc]

theorem foldl_addRow_eq (blockList : BlockList) (rows : List ColumnRow) :
    rows.foldl (fun merged row => addRow blockList row 0 merged) [] =
      (rowKeys rows).zipIdx.map fun e => (e.1, mergeAll blockList e.2 (rowsUnder rows e.1)) := by
  induction rows using List.reverseRecOn with
  | nil => rfl
  | append_singleton rows row ih =>
    rw [List.foldl_append, ih, List.foldl_cons, List.foldl_nil,
      addRow_eq blockList row (fun key id => mergeAll blockList id (rowsUnder rows key)) (nodup_rowKeys rows),
      rowKeys_concat]
    by_cases known : rowKey row ∈ rowKeys rows
    · rw [if_pos known, if_pos known]
      refine List.map_congr_left fun e member => ?_
      rw [rowsUnder_concat]
      by_cases same : rowKey row = e.1
      · -- the row that names the column stays the first one, as the key was there before
        obtain ⟨other, inRows, sameKey⟩ := mem_rowKeys.mp (List.fst_mem_of_mem_zipIdx member)
        have some : rowsUnder rows e.1 ≠ [] :=
          List.ne_nil_of_mem (List.mem_filter.mpr ⟨inRows, decide_eq_true sameKey⟩)
        rw [if_pos same, if_pos same, mergeAll_concat blockList e.2 some]
      · rw [if_neg same, if_neg same]
    · have opened : rowsUnder rows (rowKey row) = [] :=
        List.filter_eq_nil_iff.mpr fun other inRows same =>
          known (mem_rowKeys.mpr ⟨other, inRows, of_decide_eq_true same⟩)
      rw [if_neg known, if_neg known, List.zipIdx_append, List.map_append]
      congr 1
      · refine List.map_congr_left fun e member => ?_
        have other : rowKey row ≠ e.1 := by
          rintro same
          exact known (same ▸ List.fst_mem_of_mem_zipIdx member)
        rw [rowsUnder_concat, if_neg other]
      · simp [rowsUnder_concat, opened, mergeAll]

/-- One column for each key among the rows that are shown, numbered in their order. -/
theorem columns_eq (rows : List ColumnRow) (blockList : BlockList) :
    columns rows blockList = (rowKeys (shownRows rows)).zipIdx.map fun e =>
      mergeAll blockList e.2 (rowsUnder (shownRows rows) e.1) := by
  rw [columns, mergeRows, ← shownRows, foldl_addRow_eq, List.map_map]
  rfl

def lastText (texts : List String) : String := texts.foldl later ""

theorem foldl_mergeRow (c : Column) (rows : List ColumnRow) :
    rows.foldl mergeRow c = { c with
      type := (rows.map (·.type)).foldl later c.type
      primaryKey := c.primaryKey || rows.any (·.primaryKey)
      uniqueKey := c.uniqueKey || rows.any fun row => row.primaryKey || row.uniqueKey
      notNull := c.notNull || rows.any (·.notNull)
      array := c.array || rows.any (·.array)
      fullText := c.fullText || rows.any (·.fullText)
      foreignSchema := (rows.map (·.foreignSchema)).foldl later c.foreignSchema
      foreignTable := (rows.map (·.foreignTable)).foldl later c.foreignTable
      foreignColumn := (rows.map (·.foreignColumn)).foldl later c.foreignColumn } := by
  induction rows generalizing c with
  | nil => simp
  | cons row rows ih => simp [ih, mergeRow, Bool.or_assoc]

/-- A column has the names of its first row, the flags of all of its rows, and of each text the last one that is not
    empty. A primary key is unique. -/
theorem mergeAll_eq (blockList : BlockList) (id : Nat) (rows : List ColumnRow) :
    mergeAll blockList id rows =
      { id := id
        schema := (rows.headD default).schema
        table := (rows.headD default).table
        name := (rows.headD default).name
        type := lastText (rows.map (·.type))
        array := rows.any (·.array)
        notNull := rows.any (·.notNull)
        primaryKey := rows.any (·.primaryKey)
        uniqueKey := rows.any fun row => row.primaryKey || row.uniqueKey
        fullText := rows.any (·.fullText)
        foreignSchema := lastText (rows.map (·.foreignSchema))
        foreignTable := lastText (rows.map (·.foreignTable))
        foreignColumn := lastText (rows.map (·.foreignColumn))
        blocked := blockList.blocks (rows.headD default).name } := by
  simp [mergeAll, foldl_mergeRow, newColumn, Column.plain, lastText]

def firstUnder (rows : List ColumnRow) (key : String) : ColumnRow := (rowsUnder rows key).headD default

theorem mem_rowsUnder {rows : List ColumnRow} {key : String} {row : ColumnRow} :
    row ∈ rowsUnder rows key ↔ row ∈ rows ∧ rowKey row = key := by
  rw [rowsUnder, List.mem_filter, decide_eq_true_iff]

theorem firstUnder_spec {rows : List ColumnRow} {key : String} (known : key ∈ rowKeys rows) :
    firstUnder rows key ∈ rows ∧ rowKey (firstUnder rows key) = key := by
  obtain ⟨row, inRows, sameKey⟩ := mem_rowKeys.mp known
  have some : rowsUnder rows key ≠ [] := List.ne_nil_of_mem (mem_rowsUnder.mpr ⟨inRows, sameKey⟩)
  obtain ⟨first, rest, split⟩ := List.exists_cons_of_ne_nil some
  have member : first ∈ rowsUnder rows key := by
    rw [split]
    exact List.mem_cons_self
  rw [firstUnder, split]
  exact mem_rowsUnder.mp member

theorem mem_columns {rows : List ColumnRow} {blockList : BlockList} {c : Column} :
    c ∈ columns rows blockList ↔ ∃ key id, (key, id) ∈ (rowKeys (shownRows rows)).zipIdx ∧
      mergeAll blockList id (rowsUnder (shownRows rows) key) = c := by
  rw [columns_eq, List.mem_map]
  exact Prod.exists

theorem mergeAll_fullName (blockList : BlockList) (id : Nat) (rows : List ColumnRow) :
    (mergeAll blockList id rows).fullName = (rows.headD default).fullName := by
  rw [mergeAll_eq]
  rfl

theorem columns_fullName (rows : List ColumnRow) (blockList : BlockList) :
    (columns rows blockList).map Column.fullName =
      (rowKeys (shownRows rows)).map fun key => (firstUnder (shownRows rows) key).fullName := by
  conv_rhs => rw [← List.zipIdx_map_fst 0 (rowKeys (shownRows rows))]
  rw [columns_eq, List.map_map, List.map_map]
  exact List.map_congr_left fun e _ => mergeAll_fullName blockList e.2 _

theorem nodup_columns_fullName (rows : List ColumnRow) (blockList : BlockList) :
    ((columns rows blockList).map Column.fullName).Nodup := by
  rw [columns_fullName]
  refine List.Nodup.map_on (fun key known key' known' same => ?_) (nodup_rowKeys _)
  rw [← (firstUnder_spec known).2, ← (firstUnder_spec known').2]
  exact rowKey_congr same

/-- The rows that are shown and have the same key have the same names. -/
def KeysTellNames (rows : List ColumnRow) : Prop :=
  ∀ row ∈ shownRows rows, ∀ row' ∈ shownRows rows, rowKey row = rowKey row' → row.fullName = row'.fullName

instance (rows : List ColumnRow) : Decidable (KeysTellNames rows) :=
  inferInstanceAs (Decidable (∀ row ∈ shownRows rows, ∀ row' ∈ shownRows rows,
    rowKey row = rowKey row' → row.fullName = row'.fullName))

def rowsOf (rows : List ColumnRow) (name : String × String × String) : List ColumnRow :=
  (shownRows rows).filter (·.fullName = name)

/-- The columns are those that the rows tell of: each name of a row that is shown has one column, no other name has
    one, and the rows that are merged into a column are the rows of its name. -/
structure OnePerName (blockList : BlockList) (rows : List ColumnRow) (cs : List Column) : Prop where
  distinct : (cs.map Column.fullName).Nodup
  complete : ∀ name, name ∈ cs.map Column.fullName ↔ ∃ row ∈ shownRows rows, row.fullName = name
  merged : ∀ c ∈ cs, ∃ id, c = mergeAll blockList id (rowsOf rows c.fullName)

theorem rowsUnder_eq_rowsOf {rows : List ColumnRow} (told : KeysTellNames rows) {row : ColumnRow}
    (shown : row ∈ shownRows rows) : rowsUnder (shownRows rows) (rowKey row) = rowsOf rows row.fullName := by
  rw [rowsUnder, rowsOf]
  exact List.filter_congr fun other member => decide_eq_decide.mpr ⟨told other member row shown, rowKey_congr⟩

theorem columns_onePerName {rows : List ColumnRow} (told : KeysTellNames rows) (blockList : BlockList) :
    OnePerName blockList rows (columns rows blockList) := by
  refine ⟨nodup_columns_fullName rows blockList, fun name => ?_, fun c member => ?_⟩
  · rw [columns_fullName, List.mem_map]
    constructor
    · rintro ⟨key, known, rfl⟩
      exact ⟨_, (firstUnder_spec known).1, rfl⟩
    · rintro ⟨row, shown, rfl⟩
      have known : rowKey row ∈ rowKeys (shownRows rows) := mem_rowKeys.mpr ⟨row, shown, rfl⟩
      obtain ⟨firstShown, sameKey⟩ := firstUnder_spec known
      exact ⟨rowKey row, known, told _ firstShown row shown sameKey⟩
  · obtain ⟨key, id, numbered, rfl⟩ := mem_columns.mp member
    obtain ⟨firstShown, sameKey⟩ := firstUnder_spec (List.fst_mem_of_mem_zipIdx numbered)
    refine ⟨id, ?_⟩
    rw [mergeAll_fullName, ← firstUnder, ← rowsUnder_eq_rowsOf told firstShown, sameKey]

/-- Discovery makes one column of the rows of each name, and of no others, exactly when no two names that are shown
    give the same key when they are joined. -/
theorem columns_onePerName_iff (rows : List ColumnRow) (blockList : BlockList) :
    OnePerName blockList rows (columns rows blockList) ↔ KeysTellNames rows := by
  refine ⟨fun one row shown row' shown' sameKey => ?_, fun told => columns_onePerName told blockList⟩
  -- each of the two names has a column, and both columns have the same key
  obtain ⟨key, known, named⟩ :=
    List.mem_map.mp <| (columns_fullName rows blockList) ▸ (one.complete _).mpr ⟨row, shown, rfl⟩
  obtain ⟨key', known', named'⟩ :=
    List.mem_map.mp <| (columns_fullName rows blockList) ▸ (one.complete _).mpr ⟨row', shown', rfl⟩
  have same : key = key' := by
    rw [← (firstUnder_spec known).2, ← (firstUnder_spec known').2, rowKey_congr named, rowKey_congr named', sameKey]
  rw [← named, ← named', same]

/-- Two columns of different tables whose joined names are both `a:b:c:x`. -/
def collidingRows : List ColumnRow := [
  ⟨"a:b", "c", "x", "int", false, true, false, false, false, "", "", ""⟩,
  ⟨"a", "b:c", "x", "text", false, false, false, false, false, "", "", ""⟩]

/-- The second column is lost: its row is merged into the first one. -/
theorem colliding_columns_lost :
    (columns collidingRows []).map Column.fullName = [("a:b", "c", "x")] ∧
      ¬ OnePerName [] collidingRows (columns collidingRows []) := by
  refine ⟨by decide +kernel, fun one => ?_⟩
  have both := (one.complete ("a", "b:c", "x")).mpr (by decide +kernel)
  revert both
  decide +kernel

end Discovery

end Schema

end SchemaMutation
