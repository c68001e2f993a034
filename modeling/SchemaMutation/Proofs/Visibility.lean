import SchemaMutation.Proofs.Assembly
import SchemaMutation.Proofs.Conditions
import SchemaMutation.Proofs.FunctionRows
import SchemaMutation.Proofs.Merging
import SchemaMutation.Proofs.Statement

/-!
# Hidden names

What the block list hides stays hidden from the catalog to the statement. Discovery marks every column and table whose
name is hidden and leaves hidden functions out (`snapshot_marked`); a statement over such a snapshot names only a table
and columns that are not hidden (`hidden_never_written`).
-/

namespace SchemaMutation.Schema

open Catalog (Identity ColumnRow FunctionRow Source Engine)

def Column.Marked (blockList : BlockList) (c : Column) : Prop := c.blocked = blockList.blocks c.name

/-- A snapshot in which hidden names are marked and hidden functions are missing. -/
structure Snapshot.Marked (blockList : BlockList) (s : Snapshot) : Prop where
  tables : ∀ t ∈ s.tables, t.blocked = blockList.blocks t.name
  columns : ∀ t ∈ s.tables, ∀ c ∈ t.columns, c.Marked blockList
  functions : ∀ f ∈ s.functions, blockList.blocks f.name = false

namespace Discovery

theorem columns_marked (rows : List ColumnRow) (blockList : BlockList) :
    ∀ c ∈ columns rows blockList, c.Marked blockList := by
  intro c member
  obtain ⟨key, id, -, rfl⟩ := mem_columns.mp member
  rw [mergeAll_eq]
  rfl

theorem functions_visible (rows : List FunctionRow) (blockList : BlockList) :
    ∀ f ∈ functions rows blockList, blockList.blocks f.name = false := by
  intro f member
  rw [functions_eq] at member
  obtain ⟨id, shown, rfl⟩ := List.mem_map.mp member
  exact (mem_keptIds.mp shown).2

theorem exists_snapshot (source : Source) (engine : Engine) (blockList : BlockList) {identity : Identity}
    {columnRows : List ColumnRow} {functionRows : List FunctionRow} (identified : source.identity = .ok identity)
    (columnsGiven : source.columns = .ok columnRows) (functionsGiven : source.functions = .ok functionRows) :
    ∃ s, snapshot source engine blockList = .ok s :=
  ⟨_, snapshot_eq_ok source identified columnsGiven functionsGiven engine blockList⟩

theorem snapshot_marked {source : Source} {engine : Engine} {blockList : BlockList} {s : Snapshot}
    (discovered : snapshot source engine blockList = .ok s) : s.Marked blockList := by
  obtain ⟨identity, columnRows, functionRows, -, -, -, rfl⟩ := snapshot_eq_ok_iff.mp discovered
  refine ⟨?_, ?_, ?_⟩
  · rw [Snapshot.ofColumns_tables]
    exact fun t member => (Snapshot.mem_tablesOf member).1
  · rw [Snapshot.ofColumns_tables]
    intro t member c inTable
    exact columns_marked columnRows blockList c ((Snapshot.mem_tablesOf member).2.2 c inTable).1
  · rw [Snapshot.ofColumns_functions]
    exact functions_visible functionRows blockList

end Discovery

def Table.Shows (blockList : BlockList) (t : Table) (column : String) : Prop :=
  (∃ c ∈ t.columns, c.name = column) ∧ blockList.blocks column = false

theorem Snapshot.Marked.shows {blockList : BlockList} {s : Snapshot} (marked : s.Marked blockList) {t : Table}
    (inSnapshot : t ∈ s.tables) {column : String} (known : ∃ c ∈ t.columns, c.blocked = false ∧ c.name = column) :
    t.Shows blockList column := by
  obtain ⟨c, inTable, visible, rfl⟩ := known
  exact ⟨⟨c, inTable, rfl⟩, (marked.columns t inSnapshot c inTable).symm.trans visible⟩

end SchemaMutation.Schema

namespace SchemaMutation.Sql

open Query (Filter Selection)
open Schema (Table Snapshot)
open Catalog (Source Engine Identity ColumnRow FunctionRow)

theorem Compiler.Concerns.laid {s : Snapshot} {root : Selection} {st : Statement} {t : Table}
    (concerns : (Compiler.standard s).Concerns root st t) {text : String}
    (conditional : st.change.condition? = some text) :
    ∃ f ts, root.filter = some f ∧ tokens t true f = .ok ts ∧ text = tokensText ts := by
  obtain ⟨f, filtered, rendered⟩ := Compiler.predicate_eq_ok.mp (concerns.condition text conditional)
  obtain ⟨ts, laid, same⟩ := renderFilter_eq_ok.mp rendered
  exact ⟨f, ts, filtered, laid, same.symm⟩

/-- A statement names nothing hidden: not its table, and no column in its list or in its condition, which is the layout
    of the filter of the root. -/
structure ShowsOnly (blockList : BlockList) (root : Selection) (t : Table) (st : Statement) : Prop where
  table : blockList.blocks t.name = false
  columns : ∀ column ∈ st.change.columns, t.Shows blockList column
  condition : ∀ text, st.change.condition? = some text →
    ∃ f ts, root.filter = some f ∧ text = tokensText ts ∧ List.Forall₂ (LaidAs t) f.conditions (atoms ts) ∧
      ∀ a ∈ atoms ts, t.Shows blockList a.column

theorem statement_showsOnly {blockList : BlockList} {s : Snapshot} (marked : s.Marked blockList) {root : Selection}
    {st : Statement} {t : Table} (concerns : (Compiler.standard s).Concerns root st t) :
    t ∈ s.tables ∧ ShowsOnly blockList root t st := by
  obtain ⟨found, visible⟩ := Compiler.targetTable_eq_ok.mp concerns.target
  have inSnapshot := Snapshot.table_mem found
  refine ⟨inSnapshot, (marked.tables t inSnapshot).symm.trans visible, ?_, ?_⟩
  · exact fun column listed => marked.shows inSnapshot (concerns.columns column listed)
  · intro text conditional
    obtain ⟨f, ts, filtered, laid, rfl⟩ := concerns.laid conditional
    have conditions := tokens_conditions f true ts laid
    exact ⟨f, ts, filtered, rfl, conditions, fun a member =>
      marked.shows inSnapshot (shown_of_laidAs conditions a member)⟩

/-- A catalog that answers gives a snapshot without hidden functions, and every statement that is compiled over it
    names only a table and columns of that table which are not hidden. -/
theorem hidden_never_written (source : Source) (engine : Engine) (blockList : BlockList) {identity : Identity}
    {columnRows : List ColumnRow} {functionRows : List FunctionRow} (identified : source.identity = .ok identity)
    (columnsGiven : source.columns = .ok columnRows) (functionsGiven : source.functions = .ok functionRows) :
    ∃ s, Schema.Discovery.snapshot source engine blockList = .ok s ∧
      (∀ f ∈ s.functions, blockList.blocks f.name = false) ∧
      ∀ vars q b plan, ((Compiler.standard s).compileMutation vars q b).result = .ok plan →
        ∃ root st t, q.root? = some root ∧ plan = ⟨root.action, t.name⟩ ∧
          ((Compiler.standard s).compileMutation vars q b).buffer = b.push st.text ∧
          (Compiler.standard s).Concerns root st t ∧ t ∈ s.tables ∧ ShowsOnly blockList root t st := by
  obtain ⟨s, discovered⟩ :=
    Schema.Discovery.exists_snapshot source engine blockList identified columnsGiven functionsGiven
  have marked := Schema.Discovery.snapshot_marked discovered
  refine ⟨s, discovered, marked.functions, ?_⟩
  intro vars q b plan succeeded
  obtain ⟨root, st, isRoot, stated, rfl, written⟩ := Compiler.exists_statement succeeded
  obtain ⟨t, concerns⟩ := (Compiler.statement_eq_ok.mp stated).concerns
  exact ⟨root, st, t, isRoot, by rw [concerns.name], written, concerns, statement_showsOnly marked concerns⟩

def usersCatalog : Source where
  identity := .ok ⟨160000, "public", "app"⟩
  columns := .ok [⟨"public", "users", "Id", "bigint", true, true, true, false, false, "", "", ""⟩,
    ⟨"public", "users", "pin", "text", false, false, false, false, false, "", "", ""⟩,
    ⟨"public", "vault", "pin", "text", false, false, false, false, false, "", "", ""⟩]
  functions := .ok [⟨"vault_open", "vault_open_1", "text", none, 1⟩, ⟨"touch", "touch_2", "text", none, 1⟩]
  tableColumns _ _ := .ok []

def usersUpdate : Query :=
  ⟨[(Selection.updating "users" "data").filtered (.not (.isIn "ID" [.value (.number (.int 1)), .var "last"] true))]⟩

theorem hidden_never_written_users :
    ∃ s, Schema.Discovery.snapshot usersCatalog .postgres ["pin", "vault.*"] = .ok s ∧
      (∀ f ∈ s.functions, BlockList.blocks ["pin", "vault.*"] f.name = false) ∧
      ∃ root st t, usersUpdate.root? = some root ∧
        ((Compiler.standard s).compileMutation [("data", .object [("Id", .null), ("pin", .null)])] usersUpdate
          .empty).buffer = Buffer.empty.push st.text ∧
        (Compiler.standard s).Concerns root st t ∧ t ∈ s.tables ∧ ShowsOnly ["pin", "vault.*"] root t st := by
  have ran : (Schema.Discovery.snapshot usersCatalog .postgres ["pin", "vault.*"] >>= fun s =>
      ((Compiler.standard s).compileMutation [("data", .object [("Id", .null), ("pin", .null)])] usersUpdate
        .empty).result) = .ok ⟨.update, "users"⟩ := by
    decide +kernel
  obtain ⟨s, discovered, visible, written⟩ :=
    hidden_never_written usersCatalog .postgres ["pin", "vault.*"] rfl rfl rfl
  rw [discovered, ok_bind] at ran
  obtain ⟨root, st, t, isRoot, _, appended, concerns, inSnapshot, shown⟩ := written _ _ _ _ ran
  exact ⟨s, discovered, visible, root, st, t, isRoot, appended, concerns, inSnapshot, shown⟩

end SchemaMutation.Sql
