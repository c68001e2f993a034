import SchemaMutation.Proofs.Outcome
import SchemaMutation.Sql.Mutation

/-!
# Statements

What a mutation writes, as data: the table, the name that is written to, the columns and the condition, with the text
that they stand for. Every check comes before the first text is written, so that a compilation either appends the text
of a statement (`compileMutation_of_statement`) or leaves the buffer and the query as they were
(`compileMutation_of_error`).
-/

namespace SchemaMutation.Sql

open Query (Action Filter Selection)
open Schema (Table Snapshot)

namespace Buffer

theorem push_push (b : Buffer) (s r : String) : (b.push s).push r = b.push (s ++ r) := by
  simp [push, String.append_assoc]

@[simp] theorem push_empty (b : Buffer) : b.push "" = b := by
  simp [push]

def quotedText (name : String) : String := "\"" ++ name ++ "\""

theorem quoted_eq (b : Buffer) (name : String) : b.quoted name = b.push (quotedText name) := rfl

theorem placeholder_eq (b : Buffer) (name : String) : b.placeholder name = b.push (placeholderText name) := rfl

theorem list_eq (b : Buffer) (items : List String) : b.list items = b.push (listText items) := rfl

@[simp] theorem truncate_length (b : Buffer) : b.truncate? b.length = some b := by
  simp [truncate?]

end Buffer

/-- What is done to the rows of a table. -/
inductive Change where
  | insert (var : String) (columns : List String) (batch : Bool)
  | update (var : String) (columns : List String) (batch : Bool) (condition : String)
  | delete (condition : String)
deriving DecidableEq, Repr

structure Statement where
  /-- The name of the expression that holds the changed rows. -/
  name : String
  /-- The name of the table as it is written to. -/
  target : String
  change : Change
deriving DecidableEq, Repr

namespace Change

def action : Change → Action
  | .insert _ _ _ => .insert
  | .update _ _ _ _ => .update
  | .delete _ => .delete

def columns : Change → List String
  | .insert _ columns _ => columns
  | .update _ columns _ _ => columns
  | .delete _ => []

def condition? : Change → Option String
  | .insert _ _ _ => none
  | .update _ _ _ condition => some condition
  | .delete condition => some condition

end Change

def inputText (var : String) : String :=
  "WITH " ++ Buffer.quotedText "input" ++ " AS (SELECT " ++ Buffer.placeholderText var ++ "::json AS j)"

def expandText (target : String) (batch : Bool) : String :=
  (if batch then "json_populate_recordset" else "json_populate_record") ++ "(NULL::" ++ target ++ ", i.j) t"

/-- The text of a change of the table under a name. -/
def Change.text (target : String) : Change → String
  | .insert var columns batch =>
    inputText var ++ " INSERT INTO " ++ target ++ " (" ++ Buffer.listText columns ++ ") SELECT " ++
      Buffer.listText columns ++ " FROM input i, " ++ expandText target batch
  | .update var columns batch condition =>
    inputText var ++ " UPDATE " ++ target ++ " SET (" ++ Buffer.listText columns ++ ") = (SELECT " ++
      Buffer.listText columns ++ " FROM input i, " ++ expandText target batch ++ ") WHERE " ++ condition
  | .delete condition => "DELETE FROM " ++ target ++ " WHERE " ++ condition

def Statement.text (st : Statement) : String :=
  "WITH " ++ Buffer.quotedText st.name ++ " AS (" ++ st.change.text st.target ++ " RETURNING *) "

namespace Compiler

/-- The columns that the payload writes, and whether it holds many rows. -/
def writtenColumns (c : Compiler) (t : Table) (value : Json) : Except Error (List String × Bool) := do
  let flat ← c.flatten value
  return (← payloadColumns t flat, flat.batch)

/-- The statement of a root. The payload is asked for before the table, and the filter after both. -/
def statement (c : Compiler) (root : Selection) (vars : Variables) : Except Error Statement :=
  match root.action with
  | .insert => do
    let value ← payload root vars
    let t ← c.targetTable root
    let (columns, batch) ← c.writtenColumns t value
    return ⟨t.name, c.targetName t, .insert root.actionVar columns batch⟩
  | .update => do
    let value ← payload root vars
    let t ← c.targetTable root
    let (columns, batch) ← c.writtenColumns t value
    return ⟨t.name, c.targetName t, .update root.actionVar columns batch (← c.predicate root t)⟩
  | .delete => do
    let t ← c.targetTable root
    return ⟨t.name, c.targetName t, .delete (← c.predicate root t)⟩
  | other => .error (.unsupportedOperation other.name)

end Compiler

section
variable {α β : Type} (b : Buffer)

theorem run_write (f : Buffer → Buffer) (next : Unit → Writing β) :
    (write f >>= next).run.run b = (next ()).run.run (f b) := rfl

theorem run_pure (a : α) : (pure a : Writing α).run.run b = (.ok a, b) := rfl

end

namespace Compiler

theorem writeOpening_eq (t : Table) (b : Buffer) :
    writeOpening t b = b.push ("WITH " ++ Buffer.quotedText t.name ++ " AS (") := by
  simp only [writeOpening, Buffer.quoted_eq, Buffer.push_push, String.append_assoc]

theorem writeInput_eq (var : String) (b : Buffer) : writeInput var b = b.push (inputText var) := by
  simp only [writeInput, inputText, Buffer.quoted_eq, Buffer.placeholder_eq, Buffer.push_push, String.append_assoc]

theorem writeExpand_eq (target : String) (batch : Bool) (b : Buffer) :
    writeExpand target batch b = b.push (expandText target batch) := by
  simp only [writeExpand, expandText, Buffer.push_push, String.append_assoc]

/-- A statement is written whole, or nothing is written. -/
def ended (b : Buffer) : Except Error Statement → Except Error String × Buffer
  | .ok st => (.ok st.name, b.push st.text)
  | .error e => (.error e, b)

/-- A check before any text: if it fails nothing is written, and else the rest decides. -/
theorem settle_run {α : Type} {x : Except Error α} {next : α → Writing String} {rest : α → Except Error Statement}
    (b : Buffer) (each : ∀ a, (next a).run.run b = ended b (rest a)) :
    (settle x >>= next).run.run b = ended b (x >>= rest) := by
  cases x with
  | error e => rfl
  | ok a => exact each a

theorem writeInsert_run (c : Compiler) (root : Selection) (vars : Variables) (b : Buffer)
    (action : root.action = .insert) : (c.writeInsert root vars).run.run b = ended b (c.statement root vars) := by
  simp only [statement, action, writtenColumns, writeInsert, bind_assoc, pure_bind]
  refine settle_run b fun value => settle_run b fun t => settle_run b fun flat => settle_run b fun columns => ?_
  simp only [run_write, run_pure, writeOpening_eq, writeInput_eq, writeExpand_eq, Buffer.list_eq, Buffer.push_push,
    pure_eq_ok, ended, Statement.text, Change.text, String.append_assoc]

theorem writeUpdate_run (c : Compiler) (root : Selection) (vars : Variables) (b : Buffer)
    (action : root.action = .update) : (c.writeUpdate root vars).run.run b = ended b (c.statement root vars) := by
  simp only [statement, action, writtenColumns, writeUpdate, bind_assoc, pure_bind]
  refine settle_run b fun value => settle_run b fun t => settle_run b fun flat => settle_run b fun columns =>
    settle_run b fun condition => ?_
  simp only [run_write, run_pure, writeOpening_eq, writeInput_eq, writeExpand_eq, Buffer.list_eq, Buffer.push_push,
    pure_eq_ok, ended, Statement.text, Change.text, String.append_assoc]

theorem writeDelete_run (c : Compiler) (root : Selection) (vars : Variables) (b : Buffer)
    (action : root.action = .delete) : (c.writeDelete root).run.run b = ended b (c.statement root vars) := by
  simp only [statement, action, writeDelete]
  refine settle_run b fun t => settle_run b fun condition => ?_
  simp only [run_write, run_pure, writeOpening_eq, Buffer.push_push, pure_eq_ok, ended, Statement.text, Change.text,
    String.append_assoc]

theorem writeRoot_run (c : Compiler) (root : Selection) (vars : Variables) (b : Buffer) :
    (c.writeRoot root vars).run.run b = ended b (c.statement root vars) := by
  unfold writeRoot
  cases action : root.action with
  | insert => exact c.writeInsert_run root vars b action
  | update => exact c.writeUpdate_run root vars b action
  | delete => exact c.writeDelete_run root vars b action
  | query => simp only [statement, action]; rfl
  | upsert => simp only [statement, action]; rfl

/-- The statement of a root, with the results of the checks that it passed. -/
inductive Stated (c : Compiler) (root : Selection) (vars : Variables) : Statement → Prop
  | insert {value : Json} {t : Table} {columns : List String} {batch : Bool} (action : root.action = .insert)
      (bound : payload root vars = .ok value) (target : c.targetTable root = .ok t)
      (written : c.writtenColumns t value = .ok (columns, batch)) :
      Stated c root vars ⟨t.name, c.targetName t, .insert root.actionVar columns batch⟩
  | update {value : Json} {t : Table} {columns : List String} {batch : Bool} {condition : String}
      (action : root.action = .update) (bound : payload root vars = .ok value) (target : c.targetTable root = .ok t)
      (written : c.writtenColumns t value = .ok (columns, batch)) (filtered : c.predicate root t = .ok condition) :
      Stated c root vars ⟨t.name, c.targetName t, .update root.actionVar columns batch condition⟩
  | delete {t : Table} {condition : String} (action : root.action = .delete) (target : c.targetTable root = .ok t)
      (filtered : c.predicate root t = .ok condition) :
      Stated c root vars ⟨t.name, c.targetName t, .delete condition⟩

theorem statement_eq_ok {c : Compiler} {root : Selection} {vars : Variables} {st : Statement} :
    c.statement root vars = .ok st ↔ c.Stated root vars st := by
  constructor
  · intro stated
    cases action : root.action with
    | insert =>
      simp only [statement, action, bind_eq_ok] at stated
      obtain ⟨value, bound, t, target, ⟨columns, batch⟩, written, same⟩ := stated
      cases same
      exact .insert action bound target written
    | update =>
      simp only [statement, action, bind_eq_ok] at stated
      obtain ⟨value, bound, t, target, ⟨columns, batch⟩, written, condition, filtered, same⟩ := stated
      cases same
      exact .update action bound target written filtered
    | delete =>
      simp only [statement, action, bind_eq_ok] at stated
      obtain ⟨t, target, condition, filtered, same⟩ := stated
      cases same
      exact .delete action target filtered
    | query => simp [statement, action] at stated
    | upsert => simp [statement, action] at stated
  · rintro (⟨action, bound, target, written⟩ | ⟨action, bound, target, written, filtered⟩ |
      ⟨action, target, filtered⟩)
    · simp only [statement, action, bound, target, written, ok_bind, pure_eq_ok]
    · simp only [statement, action, bound, target, written, filtered, ok_bind, pure_eq_ok]
    · simp only [statement, action, target, filtered, ok_bind, pure_eq_ok]

theorem writtenColumns_eq_ok {c : Compiler} {t : Table} {value : Json} {columns : List String} {batch : Bool} :
    c.writtenColumns t value = .ok (columns, batch) ↔
      ∃ flat, c.flatten value = .ok flat ∧ payloadColumns t flat = .ok columns ∧ flat.batch = batch := by
  simp only [writtenColumns, bind_eq_ok, pure_eq_ok, Except.ok.injEq, Prod.mk.injEq]
  grind

theorem payload_eq_ok {root : Selection} {vars : Variables} {value : Json} :
    payload root vars = .ok value ↔ vars.lookup root.actionVar = some value := by
  unfold payload
  cases bound : vars.lookup root.actionVar with
  | none => simp
  | some other => simp

theorem predicate_eq_ok {c : Compiler} {root : Selection} {t : Table} {condition : String} :
    c.predicate root t = .ok condition ↔ ∃ f, root.filter = some f ∧ c.renderFilter f t = .ok condition := by
  unfold predicate
  cases filtered : root.filter with
  | none => simp
  | some f => simp

theorem targetTable_eq_ok {c : Compiler} {root : Selection} {t : Table} :
    c.targetTable root = .ok t ↔ c.snapshot.table (c.targetSchema root) root.table = .ok t ∧ t.blocked = false := by
  simp only [targetTable]
  cases c.snapshot.table (c.targetSchema root) root.table with
  | error e => simp
  | ok found =>
    cases hidden : found.blocked with
    | true =>
      simp only [hidden, if_true, reduceCtorEq, Except.ok.injEq, false_iff, not_and, Bool.not_eq_false]
      rintro rfl
      exact hidden
    | false =>
      simp only [hidden, Bool.false_eq_true, if_false, Except.ok.injEq, iff_self_and]
      rintro rfl
      exact hidden

theorem payloadColumns_shown {t : Table} {flat : Flattened} {columns : List String}
    (written : payloadColumns t flat = .ok columns) :
    ∀ column ∈ columns, ∃ c ∈ t.columns, c.blocked = false ∧ c.name = column := by
  simp only [payloadColumns] at written
  split at written
  · cases written
  · cases written
    intro column member
    obtain ⟨c, kept, rfl⟩ := List.mem_map.mp member
    obtain ⟨known, visible⟩ := List.mem_filter.mp kept
    exact ⟨c, known, by simpa using (Bool.and_eq_true_iff.mp visible).1, rfl⟩

/-- What a statement says about its table. -/
structure Concerns (c : Compiler) (root : Selection) (st : Statement) (t : Table) : Prop where
  target : c.targetTable root = .ok t
  name : st.name = t.name
  writes : st.target = c.targetName t
  action : st.change.action = root.action
  columns : ∀ column ∈ st.change.columns, ∃ known ∈ t.columns, known.blocked = false ∧ known.name = column
  condition : ∀ text, st.change.condition? = some text → c.predicate root t = .ok text

theorem Stated.concerns {c : Compiler} {root : Selection} {vars : Variables} {st : Statement}
    (stated : c.Stated root vars st) : ∃ t, c.Concerns root st t := by
  cases stated with
  | @insert _ t _ _ action _ target written =>
    obtain ⟨flat, _, listed, _⟩ := writtenColumns_eq_ok.mp written
    exact ⟨t, target, rfl, rfl, action.symm, payloadColumns_shown listed, by simp [Change.condition?]⟩
  | @update _ t _ _ _ action _ target written filtered =>
    obtain ⟨flat, _, listed, _⟩ := writtenColumns_eq_ok.mp written
    exact ⟨t, target, rfl, rfl, action.symm, payloadColumns_shown listed, by simpa [Change.condition?] using filtered⟩
  | @delete t _ action target filtered =>
    exact ⟨t, target, rfl, rfl, action.symm, by simp [Change.columns], by simpa [Change.condition?] using filtered⟩

section
variable {c : Compiler} {vars : Variables} {q : Query} {b : Buffer}

theorem compileMutation_of_noRoot (noRoot : q.root? = none) :
    c.compileMutation vars q b = ⟨.error .emptyQuery, q, b⟩ := by
  simp only [compileMutation, noRoot]

theorem compileMutation_of_statement {root : Selection} {st : Statement} (isRoot : q.root? = some root)
    (stated : c.statement root vars = .ok st) :
    c.compileMutation vars q b = ⟨.ok ⟨root.action, st.name⟩, q.setRoot root.cleared, b.push st.text⟩ := by
  simp only [compileMutation, isRoot, writeRoot_run, stated, ended]

theorem compileMutation_of_error {root : Selection} {e : Error} (isRoot : q.root? = some root)
    (refused : c.statement root vars = .error e) : c.compileMutation vars q b = ⟨.error e, q, b⟩ := by
  simp only [compileMutation, isRoot, writeRoot_run, refused, ended, rollback, Buffer.truncate_length, Option.getD_some]

theorem exists_statement {plan : Plan} (succeeded : (c.compileMutation vars q b).result = .ok plan) :
    ∃ root st, q.root? = some root ∧ c.statement root vars = .ok st ∧ plan = ⟨root.action, st.name⟩ ∧
      (c.compileMutation vars q b).buffer = b.push st.text := by
  cases isRoot : q.root? with
  | none => simp [compileMutation_of_noRoot isRoot] at succeeded
  | some root =>
    cases stated : c.statement root vars with
    | error e => simp [compileMutation_of_error isRoot stated] at succeeded
    | ok st =>
      rw [compileMutation_of_statement isRoot stated] at succeeded ⊢
      exact ⟨root, st, rfl, stated, (Except.ok.inj succeeded).symm, rfl⟩

end

end Compiler

end SchemaMutation.Sql
