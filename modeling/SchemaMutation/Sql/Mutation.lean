import SchemaMutation.Error
import SchemaMutation.Query.Basic
import SchemaMutation.Schema.Snapshot
import SchemaMutation.Sql.Predicate

/-!
# Mutations

The root of a query becomes a statement that inserts, updates or deletes inside a common table expression named after
the table. The payload is never written out: the statement refers to the variable that holds it, to be bound later. A
payload is a row, an object of its fields, or an array of rows; what is written of it is which fields occur, and whether
there may be many rows. The values themselves are not looked into.

The statement stays open behind the expression, for a read of the changed rows. When anything fails, the buffer is cut
back to the length that it had before.
-/

namespace SchemaMutation.Sql

structure Flattened where
  columns : List (String × Json)
  /-- Whether the payload holds many rows. -/
  batch : Bool
deriving Repr, Inhabited

namespace Payload

def kind : Json → String
  | .null => "null"
  | .bool _ => "a boolean"
  | .number _ => "a number"
  | .string _ => "a string"
  | .array _ => "an array"
  | .object _ => "an object"

def addRow (columns : List (String × Json)) (row : List (String × Json)) : List (String × Json) :=
  row.foldl (fun cols m => if cols.any (·.1 == m.1) then cols else Json.setMember m.1 m.2 cols) columns

/-- The fields of rows, the first of which has this number. -/
def flattenRows (index : Nat) (columns : List (String × Json)) : List Json → Except Error (List (String × Json))
  | [] => .ok columns
  | .object row :: rest => flattenRows (index + 1) (addRow columns row) rest
  | other :: _ => .error (.payload (.badRow index (kind other)))

def flatten : Json → Except Error Flattened
  | .object row => .ok ⟨row, false⟩
  | .array rows => (flattenRows 0 [] rows).map (⟨·, true⟩)
  | other => .error (.payload (.notRows (kind other)))

end Payload

open Query (Action Filter Selection)
open Schema (Table Snapshot)

abbrev Variables := List (String × Json)

/-- What has been compiled: the action, and the name of the expression that holds the changed rows. -/
structure Plan where
  action : Action
  cte : String
deriving DecidableEq, Repr, Inhabited

/-- A snapshot to compile against, with the ways to flatten payloads and to render filters. -/
structure Compiler where
  snapshot : Snapshot
  flatten : Json → Except Error Flattened
  renderFilter : Filter → Table → Except Error String

/-- Writes the read that closes a statement. -/
abbrev SelectCompiler := Query → Writing Unit

namespace Compiler

def standard (snapshot : Snapshot) : Compiler := ⟨snapshot, Payload.flatten, Sql.renderFilter⟩

def targetSchema (c : Compiler) (root : Selection) : String := root.schema.getD c.snapshot.schema

/-- The table that a selection changes. One that is blocked is not visible. -/
def targetTable (c : Compiler) (root : Selection) : Except Error Table :=
  let schema := c.targetSchema root
  let unknown : Except Error Table := .error (.tableNotFound (schema ++ "." ++ root.table))
  match c.snapshot.table schema root.table with
  | .ok t => if t.blocked then unknown else .ok t
  | .error _ => unknown

/-- The name that a statement writes to. A table of another schema than the default one is written with its schema. -/
def targetName (c : Compiler) (t : Table) : String :=
  if t.schema = c.snapshot.schema then t.name else t.qualifiedName

def payload (root : Selection) (vars : Variables) : Except Error Json :=
  match vars.lookup root.actionVar with
  | some value => .ok value
  | none => .error (.undefinedVariable root.actionVar)

def predicate (c : Compiler) (root : Selection) (t : Table) : Except Error String :=
  match root.filter with
  | some f => c.renderFilter f t
  | none => .error (.predicate (.noFilter root.action.name t.qualifiedName))

/-- The columns that a payload writes, in the order of the table: those it has fields for, unless they are blocked. -/
def payloadColumns (t : Table) (flat : Flattened) : Except Error (List String) :=
  let written := t.columns.filter fun c => !c.blocked && flat.columns.any (·.1 == c.name)
  if written.isEmpty then .error (.payload (.noColumn t.qualifiedName)) else .ok (written.map (·.name))

def writeInput (var : String) (b : Buffer) : Buffer :=
  (((b.push "WITH ").quoted "input").push " AS (SELECT ").placeholder var |>.push "::json AS j)"

def writeExpand (target : String) (batch : Bool) (b : Buffer) : Buffer :=
  ((b.push (if batch then "json_populate_recordset" else "json_populate_record")).push "(NULL::").push target
    |>.push ", i.j) t"

def writeOpening (t : Table) (b : Buffer) : Buffer := ((b.push "WITH ").quoted t.name).push " AS ("

def writeInsert (c : Compiler) (root : Selection) (vars : Variables) : Writing String := do
  let value ← settle (payload root vars)
  let t ← settle (c.targetTable root)
  let target := c.targetName t
  let flat ← settle (c.flatten value)
  let columns ← settle (payloadColumns t flat)
  write (writeOpening t)
  write (writeInput root.actionVar)
  write fun b => ((b.push " INSERT INTO ").push target).push " ("
  write fun b => ((b.list columns).push ") SELECT ").list columns
  write (·.push " FROM input i, ")
  write (writeExpand target flat.batch)
  write (·.push " RETURNING *) ")
  return t.name

def writeUpdate (c : Compiler) (root : Selection) (vars : Variables) : Writing String := do
  let value ← settle (payload root vars)
  let t ← settle (c.targetTable root)
  let target := c.targetName t
  let flat ← settle (c.flatten value)
  let columns ← settle (payloadColumns t flat)
  let condition ← settle (c.predicate root t)
  write (writeOpening t)
  write (writeInput root.actionVar)
  write fun b => ((b.push " UPDATE ").push target).push " SET ("
  write fun b => ((b.list columns).push ") = (SELECT ").list columns
  write (·.push " FROM input i, ")
  write (writeExpand target flat.batch)
  write fun b => ((b.push ") WHERE ").push condition).push " RETURNING *) "
  return t.name

def writeDelete (c : Compiler) (root : Selection) : Writing String := do
  let t ← settle (c.targetTable root)
  let target := c.targetName t
  let condition ← settle (c.predicate root t)
  write (writeOpening t)
  write fun b => ((b.push "DELETE FROM ").push target).push " WHERE "
  write fun b => (b.push condition).push " RETURNING *) "
  return t.name

/-- Writes the statement of a root and gives the name of its expression. -/
def writeRoot (c : Compiler) (root : Selection) (vars : Variables) : Writing String :=
  match root.action with
  | .insert => c.writeInsert root vars
  | .update => c.writeUpdate root vars
  | .delete => c.writeDelete root
  | other => settle (.error (.unsupportedOperation other.name))

structure Outcome where
  result : Except Error Plan
  query : Query
  buffer : Buffer

def rollback (b : Buffer) (length : Nat) : Buffer := (b.truncate? length).getD b

/-- Writes the mutation of the root. Afterwards the root keeps only what a read of the changed rows needs. -/
def compileMutation (c : Compiler) (vars : Variables) (q : Query) (b : Buffer) : Outcome :=
  match q.root? with
  | none => ⟨.error .emptyQuery, q, b⟩
  | some root =>
    match (c.writeRoot root vars).run.run b with
    | (.ok cte, written) => ⟨.ok ⟨root.action, cte⟩, q.setRoot root.cleared, written⟩
    | (.error e, written) => ⟨.error e, q, rollback written b.length⟩

/-- Writes the mutation of the root, and then lets `select` close the statement. -/
def compile (c : Compiler) (select : SelectCompiler) (vars : Variables) (q : Query) (b : Buffer) : Outcome :=
  let first := c.compileMutation vars q b
  match first.result with
  | .error _ => first
  | .ok plan =>
    match (select first.query).run.run first.buffer with
    | (.ok _, written) => ⟨.ok plan, first.query, written⟩
    | (.error e, written) => ⟨.error e, first.query, written⟩

end Compiler

end SchemaMutation.Sql
