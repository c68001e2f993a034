import SchemaMutation.Proofs.Assembly
import SchemaMutation.Proofs.PayloadKeys
import SchemaMutation.Proofs.Statement

/-!
# What a statement does not depend on

Of a payload only its shape and the columns that it has keys for reach a statement, and of a query only the table, the
action, the variable and the filter of the root. Two runs that agree on these have the same outcome
(`payload_never_inlined`).
-/

namespace SchemaMutation.Query

/-- The selection without what only shapes the read of the result. -/
def Selection.essence (root : Selection) : Selection :=
  { root with fields := [], paging := .unlimited, orderBy := [], distinctOn := [], args := [] }

end SchemaMutation.Query

namespace SchemaMutation.Sql

open Query (Selection)
open Schema (Table Snapshot)

/-- Two payloads that are both a row, or both an array of rows. -/
inductive SameShape : Json → Json → Prop
  | row (row row' : List (String × Json)) : SameShape (.object row) (.object row')
  | rows (rows rows' : List (List (String × Json))) : SameShape (.array (rows.map .object)) (.array (rows'.map .object))

/-- Two payloads with keys for the same columns of a table, blocked ones aside. -/
def SameKeys (t : Table) (value value' : Json) : Prop :=
  ∀ c ∈ t.columns, c.blocked = false → (c.name ∈ Payload.keys value ↔ c.name ∈ Payload.keys value')

/-- Variables that a root cannot tell apart. -/
inductive SamePayload (s : Snapshot) (root : Selection) (vars vars' : Variables) : Prop
  | unread (action : root.action = .delete)
  | same (lookup : vars.lookup root.actionVar = vars'.lookup root.actionVar)
  | alike {value value' : Json} (bound : vars.lookup root.actionVar = some value)
      (bound' : vars'.lookup root.actionVar = some value') (shape : SameShape value value')
      (keys : ∀ t, (Compiler.standard s).targetTable root = .ok t → SameKeys t value value')

theorem flatten_sameShape {value value' : Json} (shape : SameShape value value') :
    ∃ flat flat', Payload.flatten value = .ok flat ∧ Payload.flatten value' = .ok flat' ∧ flat.batch = flat'.batch := by
  cases shape with
  | row row row' => exact ⟨_, _, rfl, rfl, rfl⟩
  | rows rows rows' =>
    obtain ⟨columns, united⟩ := Payload.exists_flattenRows rows 0 []
    obtain ⟨columns', united'⟩ := Payload.exists_flattenRows rows' 0 []
    exact ⟨⟨columns, true⟩, ⟨columns', true⟩, map_eq_ok.mpr ⟨columns, united, rfl⟩,
      map_eq_ok.mpr ⟨columns', united', rfl⟩, rfl⟩

theorem payloadColumns_congr {t : Table} {flat flat' : Flattened}
    (agree : ∀ c ∈ t.columns, c.blocked = false →
      (c.name ∈ Json.keysOf flat.columns ↔ c.name ∈ Json.keysOf flat'.columns)) :
    Compiler.payloadColumns t flat = Compiler.payloadColumns t flat' := by
  have kept : (t.columns.filter fun c => !c.blocked && flat.columns.any (·.1 == c.name)) =
      t.columns.filter fun c => !c.blocked && flat'.columns.any (·.1 == c.name) := by
    refine List.filter_congr fun c member => ?_
    cases visible : c.blocked with
    | true => rfl
    | false =>
      have same := agree c member visible
      rw [← Json.any_key, ← Json.any_key] at same
      simp [Bool.eq_iff_iff.mpr same]
  unfold Compiler.payloadColumns
  rw [kept]

theorem writtenColumns_congr {s : Snapshot} {t : Table} {value value' : Json} (shape : SameShape value value')
    (keys : SameKeys t value value') :
    (Compiler.standard s).writtenColumns t value = (Compiler.standard s).writtenColumns t value' := by
  obtain ⟨flat, flat', flattened, flattened', batch⟩ := flatten_sameShape shape
  have columns : Compiler.payloadColumns t flat = Compiler.payloadColumns t flat' := by
    refine payloadColumns_congr fun c member visible => ?_
    rw [Payload.mem_keysOf_flatten flattened, Payload.mem_keysOf_flatten flattened']
    exact keys c member visible
  simp only [Compiler.writtenColumns, Compiler.standard, flattened, flattened', ok_bind, columns, batch]

theorem statement_essence (c : Compiler) (root : Selection) (vars : Variables) :
    c.statement root vars = c.statement root.essence vars := rfl

theorem statement_congr {s : Snapshot} {root : Selection} {vars vars' : Variables}
    (agree : SamePayload s root vars vars') :
    (Compiler.standard s).statement root vars = (Compiler.standard s).statement root vars' := by
  cases agree with
  | unread action => simp only [Compiler.statement, action]
  | same lookup =>
    have payloads : Compiler.payload root vars = Compiler.payload root vars' := by
      simp only [Compiler.payload, lookup]
    simp only [Compiler.statement, payloads]
  | @alike value value' bound bound' shape keys =>
    have payload : Compiler.payload root vars = .ok value := by simp only [Compiler.payload, bound]
    have payload' : Compiler.payload root vars' = .ok value' := by simp only [Compiler.payload, bound']
    simp only [Compiler.statement, payload, payload', ok_bind]
    cases target : (Compiler.standard s).targetTable root with
    | error e => rfl
    | ok t => simp only [ok_bind, writtenColumns_congr shape (keys t target)]

/-- Two runs whose roots have the same statement, or fail to have one in the same way, end alike. -/
theorem outcome_congr {c : Compiler} {vars vars' : Variables} {q q' : Query} {root root' : Selection}
    (isRoot : q.root? = some root) (isRoot' : q'.root? = some root') (action : root.action = root'.action)
    (statement : c.statement root vars = c.statement root' vars') (b b' : Buffer) :
    (c.compileMutation vars q b).result = (c.compileMutation vars' q' b').result ∧
      (∃ text, (c.compileMutation vars q b).buffer = b.push text ∧
        (c.compileMutation vars' q' b').buffer = b'.push text) ∧
      (q = q' → (c.compileMutation vars q b).query = (c.compileMutation vars' q' b').query) := by
  cases stated : c.statement root vars with
  | error e =>
    rw [Compiler.compileMutation_of_error isRoot stated,
      Compiler.compileMutation_of_error isRoot' (statement.symm.trans stated)]
    exact ⟨rfl, ⟨"", (b.push_empty).symm, (b'.push_empty).symm⟩, id⟩
  | ok st =>
    rw [Compiler.compileMutation_of_statement isRoot stated,
      Compiler.compileMutation_of_statement isRoot' (statement.symm.trans stated)]
    refine ⟨by rw [action], ⟨st.text, rfl, rfl⟩, ?_⟩
    rintro rfl
    rw [isRoot] at isRoot'
    cases isRoot'
    rfl

/-- Two runs end with the same plan or error and append the same text if their roots agree in what a statement is made
    of and cannot tell the payloads apart; over one query, the query afterwards is the same too. The values of a
    payload, the order and the number of its rows, fields that are no columns or blocked ones, other variables, other
    selections and the text before have no part in it. -/
theorem payload_never_inlined (s : Snapshot) {vars vars' : Variables} {q q' : Query} (b b' : Buffer)
    (sameRoot : q.root?.map Selection.essence = q'.root?.map Selection.essence)
    (samePayload : ∀ root, q.root? = some root → SamePayload s root vars vars') :
    ((Compiler.standard s).compileMutation vars q b).result =
        ((Compiler.standard s).compileMutation vars' q' b').result ∧
      (∃ text, ((Compiler.standard s).compileMutation vars q b).buffer = b.push text ∧
        ((Compiler.standard s).compileMutation vars' q' b').buffer = b'.push text) ∧
      (q = q' → ((Compiler.standard s).compileMutation vars q b).query =
        ((Compiler.standard s).compileMutation vars' q' b').query) := by
  cases isRoot : q.root? with
  | none =>
    have isRoot' : q'.root? = none := Option.map_eq_none_iff.mp (by rw [← sameRoot, isRoot]; rfl)
    rw [Compiler.compileMutation_of_noRoot isRoot, Compiler.compileMutation_of_noRoot isRoot']
    exact ⟨rfl, ⟨"", (b.push_empty).symm, (b'.push_empty).symm⟩, id⟩
  | some root =>
    obtain ⟨root', isRoot', essence⟩ : ∃ root', q'.root? = some root' ∧ root'.essence = root.essence := by
      rw [isRoot] at sameRoot
      exact Option.map_eq_some_iff.mp sameRoot.symm
    refine outcome_congr isRoot isRoot' (congrArg Selection.action essence).symm ?_ b b'
    rw [statement_congr (samePayload root isRoot), statement_essence, ← essence, ← statement_essence]

def usersSnapshot : Snapshot :=
  Snapshot.ofColumns .postgres 160000 "public" "app" [.plain "public" "users" "Id" "bigint",
    .plain "public" "users" "name" "text", { Schema.Column.plain "public" "users" "pin" "text" with blocked := true }]
    [] []

def usersInsertion : Query := ⟨[Selection.inserting "users" "data"]⟩

def usersInsertionPaged : Query := ⟨[(Selection.inserting "users" "data").limited 5, Selection.reading "posts"]⟩

def usersRows : Json := .array [.object [("Id", .null), ("age", .bool true)], .object [("name", .string "x")]]

def usersRow : Json := .array [.object [("Id", .string "7"), ("name", .null), ("pin", .null)]]

instance (t : Table) (value value' : Json) : Decidable (SameKeys t value value') :=
  inferInstanceAs (Decidable (∀ c ∈ t.columns, _))

theorem payload_never_inlined_users :
    (usersInsertion.root?.map Selection.essence = usersInsertionPaged.root?.map Selection.essence ∧
      ∀ root, usersInsertion.root? = some root →
        SamePayload usersSnapshot root [("data", usersRows)] [("data", usersRow), ("least", .null)]) ∧
    ((Compiler.standard usersSnapshot).compileMutation [("data", usersRows)] usersInsertion .empty).result =
        ((Compiler.standard usersSnapshot).compileMutation [("data", usersRow), ("least", .null)] usersInsertionPaged
          ⟨"SELECT 1; "⟩).result ∧
      (∃ text,
        ((Compiler.standard usersSnapshot).compileMutation [("data", usersRows)] usersInsertion .empty).buffer =
          Buffer.empty.push text ∧
        ((Compiler.standard usersSnapshot).compileMutation [("data", usersRow), ("least", .null)] usersInsertionPaged
          ⟨"SELECT 1; "⟩).buffer = Buffer.push ⟨"SELECT 1; "⟩ text) ∧
      (usersInsertion = usersInsertionPaged →
        ((Compiler.standard usersSnapshot).compileMutation [("data", usersRows)] usersInsertion .empty).query =
          ((Compiler.standard usersSnapshot).compileMutation [("data", usersRow), ("least", .null)]
            usersInsertionPaged ⟨"SELECT 1; "⟩).query) := by
  have keys : ∀ t ∈ usersSnapshot.tables, SameKeys t usersRows usersRow := by decide +kernel
  have shape : SameShape usersRows usersRow :=
    .rows [[("Id", .null), ("age", .bool true)], [("name", .string "x")]]
      [[("Id", .string "7"), ("name", .null), ("pin", .null)]]
  have samePayload : ∀ root, usersInsertion.root? = some root →
      SamePayload usersSnapshot root [("data", usersRows)] [("data", usersRow), ("least", .null)] := by
    intro root isRoot
    cases isRoot
    exact .alike rfl rfl shape fun t target => keys t (Snapshot.table_mem (Compiler.targetTable_eq_ok.mp target).1)
  exact ⟨⟨rfl, samePayload⟩, payload_never_inlined usersSnapshot .empty ⟨"SELECT 1; "⟩ rfl samePayload⟩

end SchemaMutation.Sql
