import SchemaMutation.Proofs.Defects
import SchemaMutation.Proofs.PayloadKeys
import SchemaMutation.Proofs.Statement

/-!
# Checks

What a mutation has to pass before it is written. The checks have one order for all actions, though not every action
is subject to every check, and the first one that fails decides the outcome (`compileMutation_ends`).
-/

namespace SchemaMutation.Sql

open Query (Action Filter Operand Selection)
open Schema (Table Snapshot)

inductive IsRows : Json → Prop
  | row (members : List (String × Json)) : IsRows (.object members)
  | rows {rows : List Json} (each : ∀ row ∈ rows, ∃ members, row = .object members) : IsRows (.array rows)

/-- Rows with a key that is the name of a column of the table, and of one that is not blocked. -/
structure Writable (t : Table) (value : Json) : Prop where
  rows : IsRows value
  column : ∃ c ∈ t.columns, c.blocked = false ∧ c.name ∈ Payload.keys value

/-- The schema of the table that a root names: the default schema of the snapshot, unless the root names another. -/
def schemaOf (s : Snapshot) (root : Selection) : String := root.schema.getD s.schema

def tableOf (s : Snapshot) (root : Selection) : Except Error Table := s.table (schemaOf s root) root.table

/-- The snapshot does not find the table, or finds a blocked one. -/
def Invisible (s : Snapshot) (root : Selection) : Prop :=
  (∃ e, tableOf s root = .error e) ∨ ∃ t, tableOf s root = .ok t ∧ t.blocked = true

/-- There is no filter, or one that cannot be rendered. -/
def Unfiltered (root : Selection) (t : Table) : Prop :=
  root.filter = none ∨ ∃ f e, root.filter = some f ∧ renderFilter f t = .error e

inductive Check where
  | selection
  | action
  | variable
  | table
  | payload
  | filter

namespace Check

def order : List Check := [.selection, .action, .variable, .table, .payload, .filter]

/-- When a check fails. Only an insertion and an update have a payload, only an update and a deletion a filter. -/
def Fails (s : Snapshot) (vars : Variables) (q : Query) : Check → Prop
  | .selection => q.selections = []
  | .action => ∃ root ∈ q.root?, root.action ∈ [Action.query, .upsert]
  | .variable => ∃ root ∈ q.root?, root.action ∈ [Action.insert, .update] ∧ vars.lookup root.actionVar = none
  | .table => ∃ root ∈ q.root?, Invisible s root
  | .payload => ∃ root ∈ q.root?, root.action ∈ [Action.insert, .update] ∧
      ∃ value t, vars.lookup root.actionVar = some value ∧ tableOf s root = .ok t ∧ ¬ Writable t value
  | .filter => ∃ root ∈ q.root?, root.action ∈ [Action.update, .delete] ∧
      ∃ t, tableOf s root = .ok t ∧ Unfiltered root t

/-- The errors that stand for the failure of a check. -/
def Reports (s : Snapshot) (q : Query) (e : Error) : Check → Prop
  | .selection => e = .emptyQuery
  | .action => ∃ root ∈ q.root?, e = .unsupportedOperation root.action.name
  | .variable => ∃ root ∈ q.root?, e = .undefinedVariable root.actionVar
  | .table => ∃ root ∈ q.root?, e = .tableNotFound (schemaOf s root ++ "." ++ root.table)
  | .payload => ∃ fault, e = .payload fault
  | .filter => ∃ fault, e = .predicate fault

end Check

/-- The outcome of checks in their order: the error of the first one that fails, or a plan if all are passed. -/
inductive Ends (s : Snapshot) (vars : Variables) (q : Query) : List Check → Except Error Plan → Prop
  | fails {check : Check} {later : List Check} {e : Error} (failed : check.Fails s vars q)
      (reported : check.Reports s q e) : Ends s vars q (check :: later) (.error e)
  | passes {check : Check} {later : List Check} {result : Except Error Plan} (passed : ¬ check.Fails s vars q)
      (rest : Ends s vars q later result) : Ends s vars q (check :: later) result
  | planned {root : Selection} {t : Table} (isRoot : root ∈ q.root?) (found : tableOf s root = .ok t) :
      Ends s vars q [] (.ok ⟨root.action, t.name⟩)

theorem flattenRows_cases (rows : List Json) : ∀ index columns,
    ((∀ row ∈ rows, ∃ members, row = .object members) ∧ ∃ flat, Payload.flattenRows index columns rows = .ok flat) ∨
    ((¬ ∀ row ∈ rows, ∃ members, row = .object members) ∧
      ∃ fault, Payload.flattenRows index columns rows = .error (.payload fault)) := by
  induction rows with
  | nil => exact fun index columns => .inl ⟨by simp, columns, rfl⟩
  | cons row rest ih =>
    intro index columns
    cases row with
    | object members =>
      simp only [List.forall_mem_cons, Json.object.injEq, exists_eq', true_and]
      exact ih (index + 1) (Payload.addRow columns members)
    | _ => exact .inr ⟨by simp, _, rfl⟩

theorem flatten_cases (value : Json) :
    (IsRows value ∧ ∃ flat, Payload.flatten value = .ok flat) ∨
    (¬ IsRows value ∧ ∃ fault, Payload.flatten value = .error (.payload fault)) := by
  cases value with
  | object members => exact .inl ⟨.row members, ⟨members, false⟩, rfl⟩
  | array rows =>
    rcases flattenRows_cases rows 0 [] with ⟨each, columns, united⟩ | ⟨other, fault, refused⟩
    · exact .inl ⟨.rows each, ⟨columns, true⟩, by simp only [Payload.flatten, united, Except.map]⟩
    · exact .inr ⟨fun | .rows each => other each, fault, by simp only [Payload.flatten, refused, Except.map]⟩
  | _ => exact .inr ⟨nofun, _, rfl⟩

theorem payloadColumns_cases (t : Table) {value : Json} {flat : Flattened}
    (flattened : Payload.flatten value = .ok flat) :
    ((∃ c ∈ t.columns, c.blocked = false ∧ c.name ∈ Payload.keys value) ∧
      ∃ columns, Compiler.payloadColumns t flat = .ok columns) ∨
    ((¬ ∃ c ∈ t.columns, c.blocked = false ∧ c.name ∈ Payload.keys value) ∧
      ∃ fault, Compiler.payloadColumns t flat = .error (.payload fault)) := by
  have written (c : Schema.Column) : (!c.blocked && flat.columns.any (·.1 == c.name)) = true ↔
      c.blocked = false ∧ c.name ∈ Payload.keys value := by
    rw [Bool.and_eq_true, Json.any_key, Payload.mem_keysOf_flatten flattened, Bool.not_eq_true']
  simp only [Compiler.payloadColumns]
  split
  · rename_i none
    refine .inr ⟨?_, _, rfl⟩
    rintro ⟨c, known, shown⟩
    exact List.filter_eq_nil_iff.mp (List.isEmpty_iff.mp none) c known ((written c).mpr shown)
  · rename_i some
    obtain ⟨c, kept⟩ := List.exists_mem_of_ne_nil _ (mt List.isEmpty_iff.mpr some)
    obtain ⟨known, shown⟩ := List.mem_filter.mp kept
    exact .inl ⟨⟨c, known, (written c).mp shown⟩, _, rfl⟩

theorem writtenColumns_cases (s : Snapshot) (t : Table) (value : Json) :
    (Writable t value ∧ ∃ written, (Compiler.standard s).writtenColumns t value = .ok written) ∨
    (¬ Writable t value ∧ ∃ fault, (Compiler.standard s).writtenColumns t value = .error (.payload fault)) := by
  simp only [Compiler.writtenColumns, Compiler.standard]
  rcases flatten_cases value with ⟨rows, flat, flattened⟩ | ⟨other, fault, refused⟩
  · rcases payloadColumns_cases t flattened with ⟨shared, columns, listed⟩ | ⟨none, fault, refused⟩
    · exact .inl ⟨⟨rows, shared⟩, (columns, flat.batch), by simp only [flattened, listed, ok_bind, pure_eq_ok]⟩
    · exact .inr ⟨fun writable => none writable.column, fault, by simp only [flattened, refused, ok_bind, error_bind]⟩
  · exact .inr ⟨fun writable => other writable.rows, fault, by simp only [refused, error_bind]⟩

theorem predicate_cases (s : Snapshot) (root : Selection) (t : Table) :
    (¬ Unfiltered root t ∧ ∃ condition, (Compiler.standard s).predicate root t = .ok condition) ∨
    (Unfiltered root t ∧ ∃ fault, (Compiler.standard s).predicate root t = .error (.predicate fault)) := by
  simp only [Compiler.predicate, Compiler.standard, Unfiltered]
  cases filtered : root.filter with
  | none => exact .inr ⟨.inl rfl, _, rfl⟩
  | some f =>
    cases rendered : renderFilter f t with
    | ok condition => exact .inl ⟨by simp [rendered], condition, rendered⟩
    | error e =>
      obtain ⟨fault, _, _, rfl⟩ := (rendered ▸ renderFilter_stops f t).of_error
      exact .inr ⟨.inr ⟨f, _, rfl, rendered⟩, fault, rendered⟩

theorem targetTable_cases (s : Snapshot) (root : Selection) :
    (¬ Invisible s root ∧ ∃ t, tableOf s root = .ok t ∧ (Compiler.standard s).targetTable root = .ok t) ∨
    (Invisible s root ∧
      (Compiler.standard s).targetTable root = .error (.tableNotFound (schemaOf s root ++ "." ++ root.table))) := by
  have looked : (Compiler.standard s).snapshot.table ((Compiler.standard s).targetSchema root) root.table =
    tableOf s root := rfl
  simp only [Compiler.targetTable, looked]
  cases found : tableOf s root with
  | error e => exact .inr ⟨.inl ⟨e, found⟩, rfl⟩
  | ok t =>
    cases blocked : t.blocked with
    | true => exact .inr ⟨.inr ⟨t, found, blocked⟩, by simp only [blocked, if_true]; rfl⟩
    | false => exact .inl ⟨by simp [Invisible, found, blocked], t, rfl, by simp [blocked]⟩

section
variable {s : Snapshot} {vars : Variables} {q : Query} {root : Selection}

theorem exists_root {P : Selection → Prop} (isRoot : q.root? = some root) : (∃ r ∈ q.root?, P r) ↔ P root := by
  simp [isRoot]

variable {α : Type} {plan : α → Plan} {later : List Check}

theorem Ends.variable {next : Json → Except Error α} (isRoot : q.root? = some root)
    (action : root.action ∈ [Action.insert, .update])
    (rest : ∀ value, vars.lookup root.actionVar = some value → Ends s vars q later ((next value).map plan)) :
    Ends s vars q (.variable :: later) ((Compiler.payload root vars >>= next).map plan) := by
  unfold Compiler.payload
  cases bound : vars.lookup root.actionVar with
  | none => exact .fails ((exists_root isRoot).mpr ⟨action, bound⟩) ((exists_root isRoot).mpr rfl)
  | some value =>
    refine .passes ?_ (rest value bound)
    rw [Check.Fails, exists_root isRoot, bound]
    simp

theorem Ends.table {next : Table → Except Error α} (isRoot : q.root? = some root)
    (rest : ∀ t, tableOf s root = .ok t → Ends s vars q later ((next t).map plan)) :
    Ends s vars q (.table :: later) (((Compiler.standard s).targetTable root >>= next).map plan) := by
  rcases targetTable_cases s root with ⟨visible, t, found, target⟩ | ⟨invisible, target⟩
  · rw [target]
    exact .passes ((exists_root isRoot).not.mpr visible) (rest t found)
  · rw [target]
    exact .fails ((exists_root isRoot).mpr invisible) ((exists_root isRoot).mpr rfl)

theorem Ends.payload {next : List String × Bool → Except Error α} {value : Json} {t : Table}
    (isRoot : q.root? = some root) (action : root.action ∈ [Action.insert, .update])
    (bound : vars.lookup root.actionVar = some value) (found : tableOf s root = .ok t)
    (rest : ∀ written, Ends s vars q later ((next written).map plan)) :
    Ends s vars q (.payload :: later) (((Compiler.standard s).writtenColumns t value >>= next).map plan) := by
  rcases writtenColumns_cases s t value with ⟨writable, written, listed⟩ | ⟨unwritable, fault, refused⟩
  · rw [listed]
    refine .passes ((exists_root isRoot).not.mpr ?_) (rest written)
    rintro ⟨_, value', t', bound', found', unwritable⟩
    rw [bound] at bound'
    rw [found] at found'
    cases bound'
    cases found'
    exact unwritable writable
  · rw [refused]
    exact .fails ((exists_root isRoot).mpr ⟨action, value, t, bound, found, unwritable⟩) ⟨fault, rfl⟩

theorem Ends.filter {next : String → Except Error α} {t : Table} (isRoot : q.root? = some root)
    (action : root.action ∈ [Action.update, .delete]) (found : tableOf s root = .ok t)
    (rest : ∀ condition, Ends s vars q later ((next condition).map plan)) :
    Ends s vars q (.filter :: later) (((Compiler.standard s).predicate root t >>= next).map plan) := by
  rcases predicate_cases s root t with ⟨filtered, condition, rendered⟩ | ⟨unfiltered, fault, refused⟩
  · rw [rendered]
    refine .passes ((exists_root isRoot).not.mpr ?_) (rest condition)
    rintro ⟨_, t', found', unfiltered⟩
    rw [found] at found'
    cases found'
    exact filtered unfiltered
  · rw [refused]
    exact .fails ((exists_root isRoot).mpr ⟨action, t, found, unfiltered⟩) ⟨fault, rfl⟩

/-- The statement of a root is refused by the first of the checks behind the one for a root that fails. -/
theorem statement_ends (isRoot : q.root? = some root) :
    Ends s vars q [.action, .variable, .table, .payload, .filter]
      (((Compiler.standard s).statement root vars).map fun st => ⟨root.action, st.name⟩) := by
  cases action : root.action with
  | insert =>
    simp only [Compiler.statement, action]
    refine .passes ((exists_root isRoot).not.mpr (by simp [action])) ?_
    refine .variable isRoot (by simp [action]) fun value bound => .table isRoot fun t found => ?_
    refine .payload isRoot (by simp [action]) bound found fun written => ?_
    refine .passes ((exists_root isRoot).not.mpr (by simp [action])) ?_
    exact action ▸ .planned isRoot found
  | update =>
    simp only [Compiler.statement, action]
    refine .passes ((exists_root isRoot).not.mpr (by simp [action])) ?_
    refine .variable isRoot (by simp [action]) fun value bound => .table isRoot fun t found => ?_
    refine .payload isRoot (by simp [action]) bound found fun written => ?_
    refine .filter isRoot (by simp [action]) found fun condition => ?_
    exact action ▸ .planned isRoot found
  | delete =>
    simp only [Compiler.statement, action]
    refine .passes ((exists_root isRoot).not.mpr (by simp [action])) ?_
    refine .passes ((exists_root isRoot).not.mpr (by simp [action])) ?_
    refine .table isRoot fun t found => ?_
    refine .passes ((exists_root isRoot).not.mpr (by simp [action])) ?_
    refine .filter isRoot (by simp [action]) found fun condition => ?_
    exact action ▸ .planned isRoot found
  | query =>
    simp only [Compiler.statement, action]
    exact .fails ((exists_root isRoot).mpr (by simp [action])) ((exists_root isRoot).mpr (by rw [action]))
  | upsert =>
    simp only [Compiler.statement, action]
    exact .fails ((exists_root isRoot).mpr (by simp [action])) ((exists_root isRoot).mpr (by rw [action]))

end

theorem Compiler.compileMutation_result (c : Compiler) {vars : Variables} {q : Query} {root : Selection}
    (isRoot : q.root? = some root) (b : Buffer) :
    (c.compileMutation vars q b).result = (c.statement root vars).map fun st => ⟨root.action, st.name⟩ := by
  cases stated : c.statement root vars with
  | error e => rw [compileMutation_of_error isRoot stated]; rfl
  | ok st => rw [compileMutation_of_statement isRoot stated]; rfl

/-- The first check that fails decides the error of a compilation, and no other error comes out of it; if none fails
    there is a plan, with the action of the root and the name of its table. -/
theorem compileMutation_ends (s : Snapshot) (vars : Variables) (q : Query) (b : Buffer) :
    Ends s vars q Check.order ((Compiler.standard s).compileMutation vars q b).result := by
  cases isRoot : q.root? with
  | none =>
    rw [Compiler.compileMutation_of_noRoot isRoot]
    exact .fails (List.head?_eq_none_iff.mp isRoot) rfl
  | some root =>
    rw [Compiler.compileMutation_result _ isRoot]
    refine .passes ?_ (statement_ends isRoot)
    rintro (empty : q.selections = [])
    simp [Query.root?, empty] at isRoot

end SchemaMutation.Sql
