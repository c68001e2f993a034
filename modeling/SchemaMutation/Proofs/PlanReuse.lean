import SchemaMutation.Proofs.Conditions
import SchemaMutation.Proofs.Content
import SchemaMutation.Proofs.Lookup
import SchemaMutation.Proofs.Statement

/-!
# Reuse of plans

Whether a plan that was compiled against one snapshot holds for another one of the same columns in another order. The
two have the same hash, but what their lookups find can depend on the order: of two columns whose names differ in case
only the later one is found, and so is the later of two tables whose joined names are the same. A plan holds for all
orders exactly when no column and no table that can be written to is in doubt in this way
(`plans_stay_right_iff`).
-/

namespace SchemaMutation.Schema

theorem Table.column?_of_last {t : Table} (indexed : t.reindex = t) {before : List Column} {c : Column}
    (last : t.columns = before ++ [c]) {name : String} (alike : Text.lowercase c.name = Text.lowercase name) :
    t.column? name = some c :=
  (column?_last indexed name).unique (last ▸ .concat alike)

namespace Snapshot

theorem table_of_last (s : Snapshot) (ts : List Table) (t : Table) :
    (s.addTables (ts ++ [t])).table t.schema t.name = .ok t := by
  have split : s.addTables (ts ++ [t]) = (s.addTables ts).addTable t := by
    simp [addTables]
  simp [split, table, addTable, Index.insert, Index.get?]

theorem homes_append {home : String × String} {before after : List Column} (outside : ∀ c ∈ before, c.home ≠ home)
    (inside : ∀ c ∈ after, c.home = home) (some_inside : after ≠ []) :
    homes (before ++ after) = homes before ++ [home] := by
  induction after using List.reverseRecOn with
  | nil => exact absurd rfl some_inside
  | append_singleton after c ih =>
    rw [← List.append_assoc, homes_concat, inside c (by simp)]
    by_cases first : after = []
    · rw [first, List.append_nil, if_neg]
      rw [mem_homes]
      rintro ⟨d, given, same⟩
      exact outside d given same
    · rw [ih (fun d given => inside d (by simp [given])) first, if_pos (by simp)]

/-- The same columns, those of one table after all others. -/
def tableLast (home : String × String) (columns : List Column) : List Column :=
  columns.filter (·.home ≠ home) ++ columns.filter (·.home = home)

theorem tableLast_perm (home : String × String) (columns : List Column) :
    columns.Perm (tableLast home columns) := by
  have parts := List.filter_append_perm (fun c : Column => decide (c.home ≠ home)) columns
  simp only [ne_eq, decide_not, Bool.not_not] at parts
  simpa [tableLast] using parts.symm

/-- No column and no table that can be written to shares its key with another one. -/
structure Unambiguous (blockList : BlockList) (columns : List Column) : Prop where
  tables : ∀ c ∈ columns, ∀ d ∈ columns, isInternal c.table = false → isInternal d.table = false →
    blockList.blocks c.table = false → tableKey c.schema c.table = tableKey d.schema d.table → c.home = d.home
  columns : ∀ c ∈ columns, ∀ d ∈ columns, isInternal c.table = false → blockList.blocks c.table = false →
    c.home = d.home → c.blocked = false → Text.lowercase c.name = Text.lowercase d.name → c.name = d.name

section
variable {blockList : BlockList} {columns columns' : List Column}

theorem Unambiguous.perm (reordered : columns.Perm columns') (clear : Unambiguous blockList columns) :
    Unambiguous blockList columns' where
  tables c given d given' := clear.tables c (reordered.symm.subset given) d (reordered.symm.subset given')
  columns c given d given' := clear.columns c (reordered.symm.subset given) d (reordered.symm.subset given')

theorem tableAt_last {before : List Column} {c : Column} :
    (tableAt (before ++ [c]) blockList c.home).columns = before.filter (·.home = c.home) ++ [c] := by
  simp [tableAt, Table.ofColumns, Table.reindex]

end

section
variable (engine : Catalog.Engine) (version : Int) (schema name : String) (functions : List Function)
variable (blockList : BlockList) (columns : List Column)

theorem table_ofColumns_cases (wanted table : String) :
    (∃ c ∈ columns, isInternal c.table = false ∧ tableKey c.schema c.table = tableKey wanted table ∧
      (ofColumns engine version schema name columns functions blockList).table wanted table =
        .ok (tableAt columns blockList c.home)) ∨
    ((∀ c ∈ columns, isInternal c.table = false → tableKey c.schema c.table ≠ tableKey wanted table) ∧
      (ofColumns engine version schema name columns functions blockList).table wanted table =
        .error (.notFound .table (wanted ++ "." ++ table))) := by
  have placed : (ofColumns engine version schema name columns functions blockList).Placed :=
    addTables_placed (blank_placed engine version schema name functions []) _
  rcases table_cases placed wanted table with ⟨t, member, sameKey, found⟩ | ⟨absent, missing⟩
  · rw [ofColumns_tables] at member
    obtain ⟨_, _, ⟨shown, c, given, home⟩, rfl⟩ := mem_tablesOf_iff.mp member
    obtain ⟨rfl, rfl⟩ := Prod.mk.inj home
    exact .inl ⟨c, given, shown, sameKey, found⟩
  · refine .inr ⟨fun c given shown => absent (tableAt columns blockList c.home) ?_, missing⟩
    rw [ofColumns_tables]
    exact mem_tablesOf_iff.mpr ⟨c.schema, c.table, known_of_shown given shown, rfl⟩

theorem table_of_unshared {c : Column} (given : c ∈ columns) (shown : isInternal c.table = false)
    (unshared : ∀ d ∈ columns, isInternal d.table = false →
      tableKey c.schema c.table = tableKey d.schema d.table → c.home = d.home) :
    (ofColumns engine version schema name columns functions blockList).table c.schema c.table =
      .ok (tableAt columns blockList c.home) := by
  rcases table_ofColumns_cases engine version schema name functions blockList columns c.schema c.table with
    ⟨d, given', shown', sameKey, found⟩ | ⟨absent, _⟩
  · rw [found, unshared d given' shown' sameKey.symm]
  · exact absurd rfl (absent c given shown)

theorem table_tableLast {c : Column} (given : c ∈ columns) (shown : isInternal c.table = false) :
    (ofColumns engine version schema name (tableLast c.home columns) functions blockList).table c.schema c.table =
      .ok (tableAt (tableLast c.home columns) blockList c.home) := by
  have home : homes (tableLast c.home columns) = homes (columns.filter (·.home ≠ c.home)) ++ [c.home] := by
    refine homes_append (fun d kept => ?_) (fun d kept => ?_) (List.ne_nil_of_mem (a := c) ?_)
    · simpa using (List.mem_filter.mp kept).2
    · simpa using (List.mem_filter.mp kept).2
    · simpa using given
  have visible : (!isInternal c.home.2) = true := by simp [Column.home, shown]
  rw [ofColumns, tablesOf_eq, home, List.filter_append, List.filter_singleton, visible, cond_true, List.map_append]
  exact table_of_last _ _ _

end

end Snapshot

end SchemaMutation.Schema

namespace SchemaMutation.Sql

open Query (Action Filter Selection)
open Schema (Table Snapshot Column Function)
open Schema.Snapshot (Unambiguous)

/-- The changes are the same but for the order of the columns that are written to. -/
inductive Change.Reordered : Change → Change → Prop
  | insert {var : String} {columns columns' : List String} {batch : Bool} (reordered : columns.Perm columns') :
      Reordered (.insert var columns batch) (.insert var columns' batch)
  | update {var : String} {columns columns' : List String} {batch : Bool} {condition : String}
      (reordered : columns.Perm columns') :
      Reordered (.update var columns batch condition) (.update var columns' batch condition)
  | delete {condition : String} : Reordered (.delete condition) (.delete condition)

theorem Change.Reordered.condition? {change change' : Change} (reordered : change.Reordered change') :
    change.condition? = change'.condition? := by
  cases reordered <;> rfl

structure Statement.Reordered (st st' : Statement) : Prop where
  name : st.name = st'.name
  target : st.target = st'.target
  change : st.change.Reordered st'.change

/-- Compilations against two snapshots are refused with the same error, or they succeed with the same plan and append
    statements that are the same but for the order of the columns. -/
inductive PlanHolds (s s' : Snapshot) (vars : Variables) (q : Query) (b : Buffer) : Prop
  | refused (e : Error) (first : (Compiler.standard s).compileMutation vars q b = ⟨.error e, q, b⟩)
      (second : (Compiler.standard s').compileMutation vars q b = ⟨.error e, q, b⟩)
  | planned (root : Selection) (plan : Plan) (after : Query) (st st' : Statement) (isRoot : q.root? = some root)
      (stated : (Compiler.standard s).statement root vars = .ok st)
      (stated' : (Compiler.standard s').statement root vars = .ok st')
      (first : (Compiler.standard s).compileMutation vars q b = ⟨.ok plan, after, b.push st.text⟩)
      (second : (Compiler.standard s').compileMutation vars q b = ⟨.ok plan, after, b.push st'.text⟩)
      (reordered : st.Reordered st')

/-- Whatever is compiled against a snapshot of columns in one order holds for their snapshots in all other orders. -/
def PlansHold (engine : Catalog.Engine) (version : Int) (schema name : String) (functions : List Function)
    (blockList : BlockList) (columns : List Column) : Prop :=
  ∀ first second, columns.Perm first → columns.Perm second → ∀ vars q b,
    PlanHolds (.ofColumns engine version schema name first functions blockList)
      (.ofColumns engine version schema name second functions blockList) vars q b

theorem planHolds_of_statements {s s' : Snapshot} {root : Selection} {vars : Variables} {q : Query} {b : Buffer}
    (isRoot : q.root? = some root)
    (ends : SameEnd Statement.Reordered ((Compiler.standard s).statement root vars)
      ((Compiler.standard s').statement root vars)) : PlanHolds s s' vars q b := by
  generalize stated : (Compiler.standard s).statement root vars = x at ends
  generalize stated' : (Compiler.standard s').statement root vars = x' at ends
  cases ends with
  | error e =>
    exact .refused e (Compiler.compileMutation_of_error isRoot stated)
      (Compiler.compileMutation_of_error isRoot stated')
  | @ok st st' reordered =>
    refine .planned root ⟨root.action, st.name⟩ (q.setRoot root.cleared) st st' isRoot stated stated'
      (Compiler.compileMutation_of_statement isRoot stated) ?_ reordered
    rw [reordered.name]
    exact Compiler.compileMutation_of_statement isRoot stated'

theorem PlanHolds.statement {s s' : Snapshot} {vars : Variables} {q : Query} {b : Buffer}
    (holds : PlanHolds s s' vars q b) {root : Selection} (isRoot : q.root? = some root) {st : Statement}
    (stated : (Compiler.standard s).statement root vars = .ok st) :
    ∃ st', (Compiler.standard s').statement root vars = .ok st' ∧ st.Reordered st' := by
  cases holds with
  | refused e first second =>
    rw [Compiler.compileMutation_of_statement isRoot stated] at first
    cases first
  | planned root' plan after st₁ st' isRoot' stated₁ stated' first second reordered =>
    obtain rfl : root = root' := Option.some.inj (isRoot.symm.trans isRoot')
    obtain rfl : st = st₁ := Except.ok.inj (stated.symm.trans stated₁)
    exact ⟨st', stated', reordered⟩

/-- Tables with the same columns in another order that find the same column for every name, or none. -/
structure Alike (t t' : Table) : Prop where
  schema : t.schema = t'.schema
  name : t.name = t'.name
  columns : t.columns.Perm t'.columns
  found : ∀ name, columnName t name = columnName t' name

namespace Alike
variable {t t' : Table}

theorem qualifiedName (alike : Alike t t') : t.qualifiedName = t'.qualifiedName := by
  rw [Table.qualifiedName, Table.qualifiedName, alike.schema, alike.name]

theorem joinedTokens {joiner : Token} {parts : List Filter}
    (each : ∀ part ∈ parts, ∀ top, tokens t top part = tokens t' top part) :
    joinedTokens t joiner parts = joinedTokens t' joiner parts := by
  induction parts with
  | nil => simp only [Sql.joinedTokens]
  | cons part rest ih =>
    simp only [Sql.joinedTokens, each part (by simp), ih fun other member => each other (by simp [member])]

theorem groupTokens {top : Bool} {joiner : Token} {neutral : Bool} {parts : List Filter}
    (each : ∀ part ∈ parts, ∀ top, tokens t top part = tokens t' top part) :
    groupTokens t top joiner neutral parts = groupTokens t' top joiner neutral parts := by
  rcases parts with _ | ⟨part, _ | ⟨next, rest⟩⟩
  · simp only [Sql.groupTokens]
  · simp only [Sql.groupTokens, each part (by simp)]
  · simp only [Sql.groupTokens, each part (by simp),
      joinedTokens fun other member => each other (List.mem_cons_of_mem part member)]

theorem tokens (alike : Alike t t') (f : Filter) : ∀ top, tokens t top f = tokens t' top f := by
  induction f using Filter.induct with
  | and parts each => exact fun top => by rw [tokens_and, tokens_and, groupTokens each]
  | or parts each => exact fun top => by rw [tokens_or, tokens_or, groupTokens each]
  | not part ih => exact fun top => by simp only [Sql.tokens, ih]
  | compare column op value => exact fun top => by simp only [Sql.tokens, alike.found]
  | isNull column negated => exact fun top => by simp only [Sql.tokens, alike.found]
  | isIn column values negated => exact fun top => by simp only [Sql.tokens, alike.found]

theorem predicate (alike : Alike t t') (s s' : Snapshot) (root : Selection) :
    (Compiler.standard s).predicate root t = (Compiler.standard s').predicate root t' := by
  simp only [Compiler.predicate, Compiler.standard, renderFilter, alike.tokens, alike.qualifiedName]

theorem payloadColumns (alike : Alike t t') (flat : Flattened) :
    SameEnd List.Perm (Compiler.payloadColumns t flat) (Compiler.payloadColumns t' flat) := by
  have written := alike.columns.filter fun c => !c.blocked && flat.columns.any (·.1 == c.name)
  simp only [Compiler.payloadColumns, written.isEmpty_eq, alike.qualifiedName]
  split
  · exact .error _
  · exact .ok (written.map _)

theorem writtenColumns (alike : Alike t t') (s s' : Snapshot) (value : Json) :
    SameEnd (fun written written' => written.1.Perm written'.1 ∧ written.2 = written'.2)
      ((Compiler.standard s).writtenColumns t value) ((Compiler.standard s').writtenColumns t' value) := by
  refine SameEnd.bind_same (Payload.flatten value) fun flat => ?_
  exact (alike.payloadColumns flat).bind fun _ _ reordered => .ok ⟨reordered, rfl⟩

theorem targetName (alike : Alike t t') {s s' : Snapshot} (schema : s.schema = s'.schema) :
    (Compiler.standard s).targetName t = (Compiler.standard s').targetName t' := by
  have inside : t.schema = s.schema ↔ t'.schema = s'.schema := by rw [alike.schema, schema]
  exact if_congr inside alike.name alike.qualifiedName

end Alike

theorem statement_reordered {s s' : Snapshot} (schema : s.schema = s'.schema) (root : Selection) (vars : Variables)
    (targets : SameEnd Alike ((Compiler.standard s).targetTable root) ((Compiler.standard s').targetTable root)) :
    SameEnd Statement.Reordered ((Compiler.standard s).statement root vars)
      ((Compiler.standard s').statement root vars) := by
  cases action : root.action with
  | insert =>
    simp only [Compiler.statement, action]
    refine SameEnd.bind_same (Compiler.payload root vars) fun value => targets.bind fun t t' alike => ?_
    refine (alike.writtenColumns s s' value).bind ?_
    rintro ⟨columns, batch⟩ ⟨columns', _⟩ ⟨perm, rfl⟩
    exact .ok ⟨alike.name, alike.targetName schema, .insert perm⟩
  | update =>
    simp only [Compiler.statement, action]
    refine SameEnd.bind_same (Compiler.payload root vars) fun value => targets.bind fun t t' alike => ?_
    refine (alike.writtenColumns s s' value).bind ?_
    rintro ⟨columns, batch⟩ ⟨columns', _⟩ ⟨perm, rfl⟩
    rw [alike.predicate s s']
    exact SameEnd.bind_same _ fun condition => .ok ⟨alike.name, alike.targetName schema, .update perm⟩
  | delete =>
    simp only [Compiler.statement, action]
    refine targets.bind fun t t' alike => ?_
    rw [alike.predicate s s']
    exact SameEnd.bind_same _ fun condition => .ok ⟨alike.name, alike.targetName schema, .delete⟩
  | query =>
    simp only [Compiler.statement, action]
    exact .error _
  | upsert =>
    simp only [Compiler.statement, action]
    exact .error _

section
variable {engine : Catalog.Engine} {version : Int} {schema name : String} {functions : List Function}
variable {blockList : BlockList} {columns columns' : List Column}

theorem alike_tableAt (reordered : columns.Perm columns') (distinct : (columns.map Column.fullName).Nodup)
    (clear : Unambiguous blockList columns) {home : String × String} (shown : Snapshot.isInternal home.2 = false)
    (visible : blockList.blocks home.2 = false) :
    Alike (Snapshot.tableAt columns blockList home) (Snapshot.tableAt columns' blockList home) where
  schema := rfl
  name := rfl
  columns := reordered.filter _
  found column := by
    have indexed (cs : List Column) :
        (Snapshot.tableAt cs blockList home).reindex = Snapshot.tableAt cs blockList home := rfl
    have sameMembers (c : Column) : c ∈ (Snapshot.tableAt columns' blockList home).columns ↔
        c ∈ (Snapshot.tableAt columns blockList home).columns := (reordered.filter _).mem_iff.symm
    unfold columnName
    rcases Table.column?_cases (indexed columns) column with ⟨c, inTable, alike, hit⟩ | ⟨unlike, miss⟩
    · rcases Table.column?_cases (indexed columns') column with ⟨d, inTable', alike', hit'⟩ | ⟨unlike', miss'⟩
      · obtain ⟨given, rfl⟩ := Snapshot.mem_tableAt.mp inTable
        obtain ⟨given', home'⟩ := Snapshot.mem_tableAt.mp ((sameMembers d).mp inTable')
        -- two columns that the name stands for, of which one is shown, are the same one
        have same (either : c.blocked = false ∨ d.blocked = false) : c = d := by
          have named : c.name = d.name := by
            rcases either with open_ | open_
            · exact clear.columns c given d given' shown visible home'.symm open_ (alike.trans alike'.symm)
            · refine (clear.columns d given' c given ?_ ?_ home' open_ (alike'.trans alike.symm)).symm
              · rwa [← congrArg Prod.snd home'] at shown
              · rwa [← congrArg Prod.snd home'] at visible
          refine List.inj_on_of_nodup_map distinct given given' ?_
          obtain ⟨schema, table⟩ := Prod.mk.inj home'
          simp only [Column.fullName, schema, table, named]
        by_cases either : c.blocked = false ∨ d.blocked = false
        · obtain rfl := same either
          rw [hit, hit']
          rfl
        · obtain ⟨hidden, hidden'⟩ := not_or.mp either
          simp only [hit, hit', eq_true_of_ne_false hidden, eq_true_of_ne_false hidden', if_true]
          rfl
      · exact absurd alike (unlike' c ((sameMembers c).mpr inTable))
    · rcases Table.column?_cases (indexed columns') column with ⟨d, inTable', alike', hit'⟩ | ⟨unlike', miss'⟩
      · exact absurd alike' (unlike d ((sameMembers d).mp inTable'))
      · rw [miss, miss']
        rfl

theorem targets_alike (reordered : columns.Perm columns') (distinct : (columns.map Column.fullName).Nodup)
    (clear : Unambiguous blockList columns) (root : Selection) :
    SameEnd Alike
      ((Compiler.standard (.ofColumns engine version schema name columns functions blockList)).targetTable root)
      ((Compiler.standard (.ofColumns engine version schema name columns' functions blockList)).targetTable root) := by
  have sameSchema (cs : List Column) :
      (Snapshot.ofColumns engine version schema name cs functions blockList).schema = schema :=
    (Snapshot.addTables_frame _ _).2.2.1
  simp only [Compiler.targetTable, Compiler.targetSchema, Compiler.standard, sameSchema]
  generalize root.schema.getD schema = wanted
  have lookup (cs : List Column) :=
    Snapshot.table_ofColumns_cases engine version schema name functions blockList cs wanted root.table
  rcases lookup columns with ⟨c, given, shown, sameKey, found⟩ | ⟨absent, missing⟩
  · rcases lookup columns' with ⟨d, given', shown', sameKey', found'⟩ | ⟨absent', missing'⟩
    · rw [found, found']
      have marked (cs : List Column) (e : Column) :
          (Snapshot.tableAt cs blockList e.home).blocked = blockList.blocks e.table := rfl
      simp only [marked]
      -- if either of the two is visible they are the same table, and else both are refused
      by_cases either : blockList.blocks c.table = false ∨ blockList.blocks d.table = false
      · have home : c.home = d.home := by
          have given'' := reordered.symm.subset given'
          rcases either with visible | visible
          · exact clear.tables c given d given'' shown shown' visible (sameKey.trans sameKey'.symm)
          · exact (clear.tables d given'' c given shown' shown visible (sameKey'.trans sameKey.symm)).symm
        have table : c.table = d.table := congrArg Prod.snd home
        have visible : blockList.blocks d.table = false := either.elim (table ▸ ·) id
        rw [table, home, visible]
        exact .ok (alike_tableAt reordered distinct clear shown' visible)
      · obtain ⟨hidden, hidden'⟩ := not_or.mp either
        rw [eq_true_of_ne_false hidden, eq_true_of_ne_false hidden']
        exact .error _
    · exact absurd sameKey (absent' c (reordered.subset given) shown)
  · rcases lookup columns' with ⟨d, given', shown', sameKey', found'⟩ | ⟨absent', missing'⟩
    · exact absurd sameKey' (absent d (reordered.symm.subset given') shown')
    · rw [missing, missing']
      exact .error _

/-- A plan holds for all orders of columns if it is clear which table and which columns names stand for. -/
theorem planHolds_of_unambiguous (reordered : columns.Perm columns') (distinct : (columns.map Column.fullName).Nodup)
    (clear : Unambiguous blockList columns) (vars : Variables) (q : Query) (b : Buffer) :
    PlanHolds (.ofColumns engine version schema name columns functions blockList)
      (.ofColumns engine version schema name columns' functions blockList) vars q b := by
  cases isRoot : q.root? with
  | none =>
    exact .refused .emptyQuery (Compiler.compileMutation_of_noRoot isRoot) (Compiler.compileMutation_of_noRoot isRoot)
  | some root =>
    refine planHolds_of_statements isRoot (statement_reordered ?_ root vars ?_)
    swap
    · exact targets_alike reordered distinct clear root
    rw [Snapshot.ofColumns, Snapshot.ofColumns, (Snapshot.addTables_frame _ _).2.2.1,
      (Snapshot.addTables_frame _ _).2.2.1]

end

def deletionFrom (schema table : String) (f : Filter) : Selection :=
  ((Selection.deleting table).inSchema schema).filtered f

theorem statement_deletionFrom_iff {s : Snapshot} {schema table : String} {f : Filter} {st : Statement} :
    (Compiler.standard s).statement (deletionFrom schema table f) [] = .ok st ↔
      ∃ t condition, s.table schema table = .ok t ∧ t.blocked = false ∧ renderFilter f t = .ok condition ∧
        st = ⟨t.name, (Compiler.standard s).targetName t, .delete condition⟩ := by
  rw [Compiler.statement_eq_ok]
  constructor
  · intro stated
    cases stated with
    | insert action => cases action
    | update action => cases action
    | @delete t condition _ target filtered =>
      obtain ⟨found, visible⟩ := Compiler.targetTable_eq_ok.mp target
      exact ⟨t, condition, found, visible, filtered, rfl⟩
  · rintro ⟨t, condition, found, visible, rendered, rfl⟩
    exact .delete rfl (Compiler.targetTable_eq_ok.mpr ⟨found, visible⟩) rendered

theorem renderFilter_nothing (t : Table) : renderFilter (.and []) t = .ok "true" := by
  rw [renderFilter_eq_ok, tokens_and]
  exact ⟨[.constant true], by simp only [groupTokens], rfl⟩

theorem renderFilter_isNull {t : Table} {column condition : String} :
    renderFilter (.isNull column false) t = .ok condition ↔
      ∃ known, columnName t column = .ok known ∧ known ++ " IS NULL" = condition := by
  simp only [renderFilter_eq_ok, tokens_isNull]
  constructor
  · rintro ⟨_, ⟨known, named, rfl⟩, rfl⟩
    exact ⟨known, named, by simp [tokensText, Token.text, Atom.text]⟩
  · rintro ⟨known, named, rfl⟩
    exact ⟨_, ⟨known, named, rfl⟩, by simp [tokensText, Token.text, Atom.text]⟩

section
variable {engine : Catalog.Engine} {version : Int} {schema name : String} {functions : List Function}
variable {blockList : BlockList} {columns : List Column}

/-- A table that can be written to is the only one with its key if plans hold for all orders of columns. -/
theorem home_eq_of_planHolds (holds : PlansHold engine version schema name functions blockList columns)
    {c d : Column} (given : c ∈ columns) (given' : d ∈ columns) (shown : Snapshot.isInternal c.table = false)
    (shown' : Snapshot.isInternal d.table = false) (visible : blockList.blocks c.table = false)
    (sameKey : Snapshot.tableKey c.schema c.table = Snapshot.tableKey d.schema d.table) : c.home = d.home := by
  -- with its columns last, each of the two tables is the one that is found
  have found := Snapshot.table_tableLast engine version schema name functions blockList columns given shown
  have found' := Snapshot.table_tableLast engine version schema name functions blockList columns given' shown'
  have stated := statement_deletionFrom_iff.mpr ⟨_, _, found, visible, renderFilter_nothing _, rfl⟩
  obtain ⟨st', stated', reordered⟩ := (holds _ _ (Snapshot.tableLast_perm c.home columns)
    (Snapshot.tableLast_perm d.home columns) [] ⟨[deletionFrom c.schema c.table (.and [])]⟩ .empty).statement rfl stated
  obtain ⟨t, _, other, _, _, rfl⟩ := statement_deletionFrom_iff.mp stated'
  have same : Snapshot.tableAt (Snapshot.tableLast d.home columns) blockList d.home = t :=
    Except.ok.inj (found'.symm.trans (Snapshot.table_congr _ sameKey other))
  have table : c.table = d.table := by
    rw [← same] at reordered
    exact reordered.name
  have schema : c.schema = d.schema := by
    rw [Snapshot.tableKey, Snapshot.tableKey, table] at sameKey
    simpa using sameKey
  rw [Column.home, Column.home, schema, table]

theorem name_eq_of_planHolds (holds : PlansHold engine version schema name functions blockList columns)
    {c d : Column} (given : c ∈ columns) (given' : d ∈ columns) (shown : Snapshot.isInternal c.table = false)
    (visible : blockList.blocks c.table = false) (home : c.home = d.home) (unblocked : c.blocked = false)
    (alike : Text.lowercase c.name = Text.lowercase d.name) : c.name = d.name := by
  -- the columns in an order in which one of them is the last
  have ending (e : Column) (known : e ∈ columns) : columns.Perm (columns.erase e ++ [e]) :=
    (List.perm_cons_erase known).trans (List.perm_append_singleton e _).symm
  have lookup (e : Column) (known : e ∈ columns) :
      (Snapshot.ofColumns engine version schema name (columns.erase e ++ [e]) functions blockList).table
        c.schema c.table = .ok (Snapshot.tableAt (columns.erase e ++ [e]) blockList c.home) :=
    Snapshot.table_of_unshared engine version schema name functions blockList _ ((ending e known).subset given) shown
      fun f kept shown' => home_eq_of_planHolds holds given ((ending e known).symm.subset kept) shown shown' visible
  have last (e : Column) (same : e.home = c.home) (folded : Text.lowercase e.name = Text.lowercase c.name) :
      (Snapshot.tableAt (columns.erase e ++ [e]) blockList c.home).column? c.name = some e := by
    rw [← same]
    exact Table.column?_of_last rfl Snapshot.tableAt_last folded
  have named : columnName (Snapshot.tableAt (columns.erase c ++ [c]) blockList c.home) c.name = .ok c.name :=
    columnName_eq_ok.mpr ⟨c, last c rfl rfl, unblocked, rfl⟩
  have stated := statement_deletionFrom_iff.mpr
    ⟨_, _, lookup c given, visible, renderFilter_isNull.mpr ⟨c.name, named, rfl⟩, rfl⟩
  obtain ⟨st', stated', reordered⟩ := (holds _ _ (ending c given) (ending d given') []
    ⟨[deletionFrom c.schema c.table (.isNull c.name false)]⟩ .empty).statement rfl stated
  obtain ⟨t, condition, found, _, rendered, rfl⟩ := statement_deletionFrom_iff.mp stated'
  obtain rfl : _ = t := Except.ok.inj ((lookup d given').symm.trans found)
  obtain ⟨known, named', rfl⟩ := renderFilter_isNull.mp rendered
  obtain ⟨e, hit, _, rfl⟩ := columnName_eq_ok.mp named'
  obtain rfl : d = e := Option.some.inj ((last d home.symm alike.symm).symm.trans hit)
  have conditions : c.name ++ " IS NULL" = d.name ++ " IS NULL" := Option.some.inj reordered.change.condition?
  simpa using conditions

end

/-- Snapshots of the same columns in different orders have the same hash. What is compiled against one of them holds for
    all others exactly when no table and no column that can be written to is in doubt. -/
theorem plans_stay_right_iff (engine : Catalog.Engine) (version : Int) (schema name : String)
    (functions : List Function) (blockList : BlockList) (columns : List Column)
    (distinct : (columns.map Column.fullName).Nodup) :
    PlansHold engine version schema name functions blockList columns ↔ Unambiguous blockList columns := by
  constructor
  · intro holds
    exact {
      tables := fun c given d given' => home_eq_of_planHolds holds given given'
      columns := fun c given d given' => name_eq_of_planHolds holds given given' }
  · intro clear first second toFirst toSecond vars q b
    exact planHolds_of_unambiguous (toFirst.symm.trans toSecond) ((toFirst.map _).nodup_iff.mp distinct)
      (clear.perm toFirst) vars q b

def shopColumns : List Column := [
  .plain "public" "users" "Id" "int", .plain "public" "_sq_users" "ID" "int",
  .plain "sales" "orders" "id" "int", { Column.plain "sales" "orders" "pin" "text" with blocked := true },
  .plain "public" "users" "name" "text", .plain "sales" "tokens" "id" "int"]

theorem plans_stay_right_shop :
    (shopColumns.map Column.fullName).Nodup ∧ Unambiguous ["tokens"] shopColumns ∧
    PlansHold .postgres 160000 "public" "app" [] ["tokens"] shopColumns := by
  have distinct : (shopColumns.map Column.fullName).Nodup := by decide +kernel
  have clear : Unambiguous ["tokens"] shopColumns := ⟨by decide +kernel, by decide +kernel⟩
  exact ⟨distinct, clear,
    (plans_stay_right_iff .postgres 160000 "public" "app" [] ["tokens"] shopColumns distinct).mpr clear⟩

def caseColumns : List Column := [.plain "public" "users" "Id" "int", .plain "public" "users" "ID" "int"]

def caseSnapshot (columns : List Column) : Snapshot := .ofColumns .postgres 160000 "public" "app" columns [] []

def caseDeletion : Query := ⟨[deletionFrom "public" "users" (.isNull "Id" false)]⟩

/-- The names of the columns differ and the hashes of the snapshots do not, yet the condition on the rows that are
    deleted depends on the order of the columns. -/
theorem order_decides_condition :
    (caseColumns.map Column.fullName).Nodup ∧ caseColumns.Perm caseColumns.reverse ∧
    (caseSnapshot caseColumns).hash = (caseSnapshot caseColumns.reverse).hash ∧
    ((Compiler.standard (caseSnapshot caseColumns)).compileMutation [] caseDeletion .empty).buffer =
      ⟨"WITH \"users\" AS (DELETE FROM users WHERE ID IS NULL RETURNING *) "⟩ ∧
    ((Compiler.standard (caseSnapshot caseColumns.reverse)).compileMutation [] caseDeletion .empty).buffer =
      ⟨"WITH \"users\" AS (DELETE FROM users WHERE Id IS NULL RETURNING *) "⟩ ∧
    ¬ PlanHolds (caseSnapshot caseColumns) (caseSnapshot caseColumns.reverse) [] caseDeletion .empty := by
  have reversed : caseColumns.Perm caseColumns.reverse := (List.reverse_perm caseColumns).symm
  have content := Snapshot.ofColumns_content .postgres 160000 "public" "app" [] (reversed.map Column.unnumbered)
    (.refl [])
  refine ⟨by decide +kernel, reversed, Snapshot.hash_congr content, by decide +kernel, by decide +kernel, ?_⟩
  intro holds
  have stated : (Compiler.standard (caseSnapshot caseColumns)).statement
      (deletionFrom "public" "users" (.isNull "Id" false)) [] = .ok ⟨"users", "users", .delete "ID IS NULL"⟩ := by
    decide +kernel
  have stated' : (Compiler.standard (caseSnapshot caseColumns.reverse)).statement
      (deletionFrom "public" "users" (.isNull "Id" false)) [] = .ok ⟨"users", "users", .delete "Id IS NULL"⟩ := by
    decide +kernel
  obtain ⟨_, other, reordered⟩ := holds.statement rfl stated
  obtain rfl := Except.ok.inj (stated'.symm.trans other)
  exact absurd reordered.change.condition? (by decide)

end SchemaMutation.Sql
