import Mathlib.Data.List.Forall2
import SchemaMutation.Proofs.Merging

/-!
# The facts of a column

What discovery tells of a column, in terms of the rows that are merged into it, wherever they stand among the rows of
other columns (`Discovery.columns_tell`). A flag is set if any row sets it. Of each text the last one counts, so that
the names that a foreign key refers to may come from different rows; if every row gives all of them or none, they come
from one.
-/

namespace SchemaMutation

def Catalog.ColumnRow.reference (row : ColumnRow) : String × String × String :=
  (row.foreignSchema, row.foreignTable, row.foreignColumn)

/-- A row gives all names of a reference, or none. -/
def Catalog.ColumnRow.RefersWholly (row : ColumnRow) : Prop :=
  (row.foreignSchema ≠ "" ∧ row.foreignTable ≠ "" ∧ row.foreignColumn ≠ "") ∨ row.reference = ("", "", "")

theorem Catalog.ColumnRow.RefersWholly.alike {row : ColumnRow} (whole : row.RefersWholly) :
    (row.foreignTable ≠ "" ↔ row.foreignSchema ≠ "") ∧ (row.foreignColumn ≠ "" ↔ row.foreignSchema ≠ "") := by
  rcases whole with ⟨schema, table, column⟩ | none
  · exact ⟨iff_of_true table schema, iff_of_true column schema⟩
  · obtain ⟨schema, table, column⟩ : row.foreignSchema = "" ∧ row.foreignTable = "" ∧ row.foreignColumn = "" := by
      simpa only [reference, Prod.mk.injEq] using none
    exact ⟨iff_of_false (not_not_intro table) (not_not_intro schema),
      iff_of_false (not_not_intro column) (not_not_intro schema)⟩

namespace Schema

open Catalog (ColumnRow)

def Column.reference (c : Column) : String × String × String := (c.foreignSchema, c.foreignTable, c.foreignColumn)

namespace Discovery

/-- The text that rows leave their column with: that of the last row that has one. -/
def Leaves (text : ColumnRow → String) (own : List ColumnRow) (left : String) : Prop :=
  ∃ last, LastWith (text · ≠ "") own last ∧ left = last.elim "" text

/-- A column with a number that tells what its rows say together. -/
structure Tells (blockList : BlockList) (own : List ColumnRow) (id : Nat) (c : Column) : Prop where
  id : c.id = id
  named : ∃ first rest, own = first :: rest ∧ c.fullName = first.fullName
  blocked : c.blocked = blockList.blocks c.name
  type : Leaves (·.type) own c.type
  notNull : c.notNull = own.any (·.notNull)
  array : c.array = own.any (·.array)
  fullText : c.fullText = own.any (·.fullText)
  primaryKey : c.primaryKey = own.any (·.primaryKey)
  uniqueKey : c.uniqueKey = own.any fun row => row.uniqueKey || row.primaryKey
  primary_unique : c.primaryKey = true → c.uniqueKey = true
  foreignSchema : Leaves (·.foreignSchema) own c.foreignSchema
  foreignTable : Leaves (·.foreignTable) own c.foreignTable
  foreignColumn : Leaves (·.foreignColumn) own c.foreignColumn
  reference : (∀ row ∈ own, row.RefersWholly) → ∃ row ∈ own, c.reference = row.reference

theorem lastText_concat (texts : List String) (text : String) :
    lastText (texts ++ [text]) = later (lastText texts) text := by
  rw [lastText, List.foldl_append]
  rfl

theorem leaves_lastText (text : ColumnRow → String) (own : List ColumnRow) :
    Leaves text own (lastText (own.map text)) := by
  induction own using List.reverseRecOn with
  | nil => exact ⟨none, .none (by simp), rfl⟩
  | append_singleton own row ih =>
    obtain ⟨last, found, left⟩ := ih
    rw [List.map_append, List.map_singleton, lastText_concat, later]
    by_cases empty : text row = ""
    · rw [if_pos empty]
      exact ⟨last, found.concat_without (not_not_intro empty), left⟩
    · rw [if_neg empty]
      exact ⟨some row, .concat empty, rfl⟩

theorem reference_of_whole {own : List ColumnRow} {c : Column} (some : own ≠ [])
    (whole : ∀ row ∈ own, row.RefersWholly) (foreignSchema : Leaves (·.foreignSchema) own c.foreignSchema)
    (foreignTable : Leaves (·.foreignTable) own c.foreignTable)
    (foreignColumn : Leaves (·.foreignColumn) own c.foreignColumn) : ∃ row ∈ own, c.reference = row.reference := by
  obtain ⟨last, found, schema⟩ := foreignSchema
  obtain ⟨last', found', table⟩ := foreignTable
  obtain ⟨last'', found'', column⟩ := foreignColumn
  -- on such rows it is the same question which of them is the last one with any of the names
  obtain rfl : last' = last := (found'.congr fun row member => (whole row member).alike.1).unique found
  obtain rfl : last'' = last' := (found''.congr fun row member => (whole row member).alike.2).unique found
  cases last'' with
  | some row =>
    refine ⟨row, found.mem, ?_⟩
    rw [Column.reference, schema, table, column]
    rfl
  | none =>
    obtain ⟨row, member⟩ := List.exists_mem_of_ne_nil own some
    have nothing : row.reference = ("", "", "") :=
      (whole row member).resolve_left fun given => found.never_of_none row member given.1
    refine ⟨row, member, ?_⟩
    rw [Column.reference, schema, table, column, nothing]
    rfl

theorem mergeAll_tells (blockList : BlockList) (id : Nat) {own : List ColumnRow} (some : own ≠ []) :
    Tells blockList own id (mergeAll blockList id own) := by
  have foreignSchema := leaves_lastText (·.foreignSchema) own
  have foreignTable := leaves_lastText (·.foreignTable) own
  have foreignColumn := leaves_lastText (·.foreignColumn) own
  rw [mergeAll_eq]
  refine
    { id := rfl
      named := ?_
      blocked := rfl
      type := leaves_lastText (·.type) own
      notNull := rfl
      array := rfl
      fullText := rfl
      primaryKey := rfl
      uniqueKey := by simp only [Bool.or_comm]
      primary_unique := ?_
      foreignSchema := foreignSchema
      foreignTable := foreignTable
      foreignColumn := foreignColumn
      reference := fun whole => reference_of_whole some whole foreignSchema foreignTable foreignColumn }
  · obtain ⟨first, rest, rfl⟩ := List.exists_cons_of_ne_nil some
    exact ⟨first, rest, rfl, rfl⟩
  · simp only [List.any_eq_true, Bool.or_eq_true]
    rintro ⟨row, member, primary⟩
    exact ⟨row, member, .inl primary⟩

/-- There is one column for each key of the rows that are shown, in the order in which the keys first appear; it has
    the number of its place, and tells what the rows under its key say. -/
theorem columns_tell (rows : List ColumnRow) (blockList : BlockList) :
    List.Forall₂ (fun (key, id) c => Tells blockList (rowsUnder (shownRows rows) key) id c)
      (rowKeys (shownRows rows)).zipIdx (columns rows blockList) := by
  rw [columns_eq, List.forall₂_map_right_iff, List.forall₂_same]
  rintro ⟨key, id⟩ numbered
  obtain ⟨row, shown, sameKey⟩ := mem_rowKeys.mp (List.fst_mem_of_mem_zipIdx numbered)
  exact mergeAll_tells blockList id (List.ne_nil_of_mem (mem_rowsUnder.mpr ⟨shown, sameKey⟩))

/-- Where a row gives a part of a reference only, the column refers to what no row refers to. -/
example : (columns [
    ⟨"public", "orders", "user", "bigint", true, false, false, false, false, "public", "users", "id"⟩,
    ⟨"public", "orders", "id", "bigint", true, true, false, false, false, "", "", ""⟩,
    ⟨"public", "orders", "user", "", false, false, true, false, false, "", "accounts", ""⟩] []).map
      (fun c => (c.id, c.name, c.type, c.reference)) =
    [(0, "user", "bigint", "public", "accounts", "id"), (1, "id", "bigint", "", "", "")] := by
  decide +kernel

end Discovery

end Schema

end SchemaMutation
