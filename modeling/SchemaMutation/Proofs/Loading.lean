import SchemaMutation.Proofs.Assembly
import SchemaMutation.Proofs.Checks
import SchemaMutation.Proofs.Merging
import SchemaMutation.Proofs.Partition

/-!
# Loading rows

What an insertion and an update write for the rows of a payload. Which columns of which table are loaded, and from
where, is settled by the names of the table and of the variable alone (`Load.of?`); the two actions put the same load
into statements of their own, word for word (`load_written`).
-/

namespace SchemaMutation.Sql

open Query (Action Filter Selection)
open Schema (Table Column Snapshot)

/-- Rows of a payload on their way into a table. -/
structure Load where
  table : Table
  target : String
  var : String
  columns : List String
  batch : Bool

def Payload.isBatch : Json → Bool
  | .array _ => true
  | _ => false

/-- The names of the columns that are not blocked and occur as keys in a payload, in the order of the table. -/
def loadedColumns (t : Table) (value : Json) : List String :=
  (t.columns.filter fun c => !c.blocked && decide (c.name ∈ Payload.keys value)).map (·.name)

namespace Load

/-- The load of a value of a variable into a table. A table of the default schema is written to by its bare name. -/
def into (s : Snapshot) (t : Table) (var : String) (value : Json) : Load :=
  ⟨t, if t.schema = s.schema then t.name else t.schema ++ "." ++ t.name, var, loadedColumns t value,
    Payload.isBatch value⟩

def of? (s : Snapshot) (vars : Variables) (schema : Option String) (table var : String) : Option Load := do
  let t ← (s.table (schema.getD s.schema) table).toOption
  let value ← vars.lookup var
  return into s t var value

def input (l : Load) : String := "WITH \"input\" AS (SELECT \x7b\x7b" ++ l.var ++ "\x7d\x7d::json AS j)"

def list (l : Load) : String := ", ".intercalate l.columns

def expansion (l : Load) : String :=
  (if l.batch then "json_populate_recordset" else "json_populate_record") ++ "(NULL::" ++ l.target ++ ", i.j) t"

def insertion (l : Load) : String :=
  "WITH \"" ++ l.table.name ++ "\" AS (" ++ l.input ++ " INSERT INTO " ++ l.target ++ " (" ++ l.list ++ ") SELECT " ++
    l.list ++ " FROM input i, " ++ l.expansion ++ " RETURNING *) "

def update (l : Load) (condition : String) : String :=
  "WITH \"" ++ l.table.name ++ "\" AS (" ++ l.input ++ " UPDATE " ++ l.target ++ " SET (" ++ l.list ++ ") = (SELECT " ++
    l.list ++ " FROM input i, " ++ l.expansion ++ ") WHERE " ++ condition ++ " RETURNING *) "

/-- The texts that a root may have for its load: that of an insertion, or that of an update of the rows that the filter
    of the root lets through. -/
inductive Writes (l : Load) (root : Selection) : String → Prop
  | insertion (action : root.action = .insert) : Writes l root l.insertion
  | update {f : Filter} {condition : String} (action : root.action = .update) (filtered : root.filter = some f)
      (rendered : renderFilter f l.table = .ok condition) : Writes l root (l.update condition)

end Load

theorem Payload.batch_of_flatten {value : Json} {flat : Flattened} (flattened : flatten value = .ok flat) :
    flat.batch = isBatch value := by
  cases value with
  | object row =>
    cases flattened
    rfl
  | array rows =>
    obtain ⟨columns, _, rfl⟩ := map_eq_ok.mp flattened
    rfl
  | null => cases flattened
  | bool value => cases flattened
  | number value => cases flattened
  | string value => cases flattened

theorem loaded_of_written {s : Snapshot} {t : Table} {value : Json} {columns : List String} {batch : Bool}
    (written : (Compiler.standard s).writtenColumns t value = .ok (columns, batch)) :
    columns = loadedColumns t value ∧ columns ≠ [] ∧ batch = Payload.isBatch value := by
  obtain ⟨flat, flattened, listed, rfl⟩ := Compiler.writtenColumns_eq_ok.mp written
  have kept (c : Column) : (!c.blocked && flat.columns.any (·.1 == c.name)) =
      (!c.blocked && decide (c.name ∈ Payload.keys value)) := by
    rw [Bool.eq_iff_iff, Bool.and_eq_true, Bool.and_eq_true, Json.any_key, Payload.mem_keysOf_flatten flattened,
      decide_eq_true_iff]
  simp only [Compiler.payloadColumns, kept] at listed
  split at listed
  · cases listed
  · rename_i nonempty
    cases listed
    refine ⟨rfl, ?_, Payload.batch_of_flatten flattened⟩
    intro nothing
    exact nonempty (List.isEmpty_iff.mpr (List.map_eq_nil_iff.mp nothing))

theorem nodup_loadedColumns {source : Catalog.Source} {engine : Catalog.Engine} {blockList : BlockList} {s : Snapshot}
    (discovered : Schema.Discovery.snapshot source engine blockList = .ok s) {t : Table} (member : t ∈ s.tables)
    (value : Json) : (loadedColumns t value).Nodup := by
  obtain ⟨identity, rows, functionRows, _, _, _, rfl⟩ := Schema.Discovery.snapshot_eq_ok_iff.mp discovered
  rw [Snapshot.ofColumns_tables] at member
  have names := Snapshot.nodup_names (Schema.Discovery.nodup_columns_fullName rows blockList) member
  exact names.sublist (List.filter_sublist.map _)

theorem Load.opening_text (l : Load) :
    "WITH " ++ Buffer.quotedText l.table.name ++ " AS (" ++ inputText l.var =
      "WITH \"" ++ l.table.name ++ "\" AS (" ++ l.input := by
  unfold inputText Buffer.quotedText Buffer.placeholderText Load.input
  refine String.toList_inj.mp ?_
  simp

theorem Load.insertion_text (l : Load) :
    Statement.text ⟨l.table.name, l.target, .insert l.var l.columns l.batch⟩ = l.insertion := by
  simp only [Statement.text, Change.text, ← String.append_assoc, l.opening_text]
  rfl

theorem Load.update_text (l : Load) (condition : String) :
    Statement.text ⟨l.table.name, l.target, .update l.var l.columns l.batch condition⟩ = l.update condition := by
  simp only [Statement.text, Change.text, ← String.append_assoc, l.opening_text]
  rfl

theorem Load.of?_eq_some {s : Snapshot} {vars : Variables} {root : Selection} {t : Table} {value : Json}
    (target : (Compiler.standard s).targetTable root = .ok t) (bound : Compiler.payload root vars = .ok value) :
    Load.of? s vars root.schema root.table root.actionVar = some (Load.into s t root.actionVar value) := by
  have found : s.table (root.schema.getD s.schema) root.table = .ok t := (Compiler.targetTable_eq_ok.mp target).1
  rw [Load.of?, found, Compiler.payload_eq_ok.mp bound]
  rfl

theorem exists_load {s : Snapshot} {vars : Variables} {root : Selection} {st : Statement}
    (loads : root.action = .insert ∨ root.action = .update) (stated : (Compiler.standard s).Stated root vars st) :
    ∃ t value, t ∈ s.tables ∧
      Load.of? s vars root.schema root.table root.actionVar = some (Load.into s t root.actionVar value) ∧
      loadedColumns t value ≠ [] ∧ (Load.into s t root.actionVar value).Writes root st.text := by
  cases stated with
  | @insert value t columns batch action bound target written =>
    obtain ⟨rfl, some, rfl⟩ := loaded_of_written written
    have member := Snapshot.table_mem (Compiler.targetTable_eq_ok.mp target).1
    refine ⟨t, value, member, Load.of?_eq_some target bound, some, ?_⟩
    exact (Load.into s t root.actionVar value).insertion_text ▸ .insertion action
  | @update value t columns batch condition action bound target written filtered =>
    obtain ⟨rfl, some, rfl⟩ := loaded_of_written written
    obtain ⟨f, present, rendered⟩ := Compiler.predicate_eq_ok.mp filtered
    have member := Snapshot.table_mem (Compiler.targetTable_eq_ok.mp target).1
    refine ⟨t, value, member, Load.of?_eq_some target bound, some, ?_⟩
    exact (Load.into s t root.actionVar value).update_text condition ▸ .update action present rendered
  | delete action => simp [action] at loads

/-- An insertion or an update that compiles appends one statement for the load of its root. The table, the rows and the
    columns of the load depend on the names of the table and of the variable only, and not on which of the two actions
    it is; there is at least one column, and in a snapshot of a catalog no column twice. -/
theorem load_written {s : Snapshot} {vars : Variables} {q : Query} {b : Buffer} {plan : Plan} {root : Selection}
    (isRoot : q.root? = some root) (loads : root.action = .insert ∨ root.action = .update)
    (succeeded : ((Compiler.standard s).compileMutation vars q b).result = .ok plan) :
    ∃ l text, Load.of? s vars root.schema root.table root.actionVar = some l ∧ l.columns ≠ [] ∧
      (∀ source engine blockList, Schema.Discovery.snapshot source engine blockList = .ok s → l.columns.Nodup) ∧
      ((Compiler.standard s).compileMutation vars q b).buffer = b.push text ∧ l.Writes root text := by
  obtain ⟨root', st, isRoot', stated, -, appended⟩ := Compiler.exists_statement succeeded
  obtain rfl : root = root' := Option.some.inj (isRoot.symm.trans isRoot')
  obtain ⟨t, value, member, load, some, writes⟩ := exists_load loads (Compiler.statement_eq_ok.mp stated)
  refine ⟨_, st.text, load, some, ?_, appended, writes⟩
  intro source engine blockList discovered
  exact nodup_loadedColumns discovered member value

def itemsCatalog : Catalog.Source where
  identity := .ok ⟨160000, "public", "app"⟩
  columns := .ok [⟨"shop", "items", "id", "bigint", true, true, true, false, false, "", "", ""⟩,
    ⟨"shop", "items", "qty", "int", false, false, false, false, false, "", "", ""⟩,
    ⟨"shop", "items", "note", "text", false, false, false, false, false, "", "", ""⟩]
  functions := .ok []
  tableColumns _ _ := .ok []

def itemsUpdate : Selection :=
  ((Selection.updating "items" "rows").inSchema "shop").filtered (.compare "id" .gt (.var "last"))

def itemsRows : Variables :=
  [("rows", .array [.object [("qty", .number (.int 1)), ("note", .null)], .object [("id", .null), ("qty", .null)]])]

theorem load_written_items :
    ∃ s, Schema.Discovery.snapshot itemsCatalog .postgres ["note"] = .ok s ∧
      ∃ l text, Load.of? s itemsRows (some "shop") "items" "rows" = some l ∧ l.columns ≠ [] ∧ l.columns.Nodup ∧
        ((Compiler.standard s).compileMutation itemsRows ⟨[itemsUpdate]⟩ .empty).buffer = Buffer.empty.push text ∧
        l.Writes itemsUpdate text := by
  have ran : (Schema.Discovery.snapshot itemsCatalog .postgres ["note"] >>= fun s =>
      ((Compiler.standard s).compileMutation itemsRows ⟨[itemsUpdate]⟩ .empty).result) = .ok ⟨.update, "items"⟩ := by
    decide +kernel
  have discovered := Schema.Discovery.snapshot_eq_ok itemsCatalog rfl rfl rfl .postgres ["note"]
  rw [discovered, ok_bind] at ran
  obtain ⟨l, text, load, some, distinct, appended, writes⟩ := load_written rfl (.inr rfl) ran
  exact ⟨_, discovered, l, text, load, some, distinct _ _ _ discovered, appended, writes⟩

end SchemaMutation.Sql
