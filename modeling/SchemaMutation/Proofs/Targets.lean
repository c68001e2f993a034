import Mathlib.Tactic.MkIffOfInductiveProp
import SchemaMutation.Proofs.Assembly
import SchemaMutation.Proofs.Statement

/-!
# Targets

Under which name a statement writes to a table. A table of the default schema is written to under its bare name and any
other one under its joined names, without quotes, so that a dot inside a name cannot be told from the dot that joins two
names. Two statements have the same target exactly when they are about the same table or about two tables that clash in
this way (`same_target_iff`), which takes a table whose name has a dot (`Clash.dotted`).
-/

namespace SchemaMutation.Schema

/-- The second pair of names is cut from the same joined text as the first, at a later dot. -/
def CutLater (x y x' y' : String) : Prop := ∃ z, x' = x ++ "." ++ z ∧ y = z ++ "." ++ y'

theorem cutLater_of_chars {x y x' y' : String} {z : List Char} (front : x'.toList = x.toList ++ '.' :: z)
    (back : y.toList = z ++ '.' :: y'.toList) : CutLater x y x' y' := by
  refine ⟨String.ofList z, String.toList_inj.mp ?_, String.toList_inj.mp ?_⟩
  · simp [front]
  · simp [back]

theorem joined_eq_iff {x y x' y' : String} :
    x ++ "." ++ y = x' ++ "." ++ y' ↔ (x = x' ∧ y = y') ∨ CutLater x y x' y' ∨ CutLater x' y' x y := by
  constructor
  · intro same
    have chars : x.toList ++ '.' :: y.toList = x'.toList ++ '.' :: y'.toList := by
      simpa using congrArg String.toList same
    -- the dot of one pair is at the dot of the other, behind it or before it
    rcases List.append_eq_append_iff.mp chars with ⟨z, front, back⟩ | ⟨z, front, back⟩
    · cases z with
      | nil =>
        rw [List.append_nil] at front
        exact .inl ⟨(String.toList_inj.mp front).symm, String.toList_inj.mp (List.cons.inj back).2⟩
      | cons c z =>
        obtain ⟨rfl, rest⟩ := List.cons.inj back
        exact .inr (.inl (cutLater_of_chars front rest))
    · cases z with
      | nil =>
        rw [List.append_nil] at front
        exact .inl ⟨String.toList_inj.mp front, (String.toList_inj.mp (List.cons.inj back).2).symm⟩
      | cons c z =>
        obtain ⟨rfl, rest⟩ := List.cons.inj back
        exact .inr (.inr (cutLater_of_chars front rest))
  · rintro (⟨rfl, rfl⟩ | ⟨z, rfl, rfl⟩ | ⟨z, rfl, rfl⟩)
    · rfl
    · simp only [String.append_assoc]
    · simp only [String.append_assoc]

end SchemaMutation.Schema

namespace SchemaMutation.Sql

open Query (Selection)
open Schema (Table Snapshot Column CutLater)

/-- Two different tables that are written to under one name. -/
@[mk_iff]
inductive Clash (defaultSchema : String) (t u : Table) : Prop
  /-- The name of a table of the default schema is the joined names of a table of another schema. -/
  | joined (inside : t.schema = defaultSchema) (outside : u.schema ≠ defaultSchema) (same : t.name = u.qualifiedName)
  /-- The joined names of two tables of other schemas are one text, cut at two dots. -/
  | cut (outside : t.schema ≠ defaultSchema) (outside' : u.schema ≠ defaultSchema)
      (later : CutLater t.schema t.name u.schema u.name)

theorem Clash.dotted {defaultSchema : String} {t u : Table} (clash : Clash defaultSchema t u) :
    '.' ∈ t.name.toList := by
  cases clash with
  | joined _ _ same => simp [same, Table.qualifiedName]
  | cut _ _ later =>
    obtain ⟨z, _, name⟩ := later
    simp [name]

theorem targetName_eq_iff (c : Compiler) (t u : Table) :
    c.targetName t = c.targetName u ↔
      t.home = u.home ∨ Clash c.snapshot.schema t u ∨ Clash c.snapshot.schema u t := by
  unfold Compiler.targetName Table.home
  rw [Prod.mk.injEq]
  by_cases inside : t.schema = c.snapshot.schema
  · by_cases inside' : u.schema = c.snapshot.schema
    · simp [clash_iff, inside, inside']
    · simp [clash_iff, inside, inside', Ne.symm inside']
  · by_cases inside' : u.schema = c.snapshot.schema
    · simp [clash_iff, inside, inside', eq_comm]
    · simp only [clash_iff, inside, inside', if_false, Table.qualifiedName, Schema.joined_eq_iff, false_and, false_or,
        ne_eq, not_false_eq_true, true_and]

/-- A compilation that appends a statement over a table of the snapshot. -/
structure Writes (s : Snapshot) (vars : Variables) (q : Query) (b : Buffer) (st : Statement) (t : Table) : Prop where
  root : ∃ root, q.root? = some root ∧ (Compiler.standard s).Concerns root st t
  known : t ∈ s.tables
  appended : ((Compiler.standard s).compileMutation vars q b).buffer = b.push st.text

theorem exists_writes {s : Snapshot} {vars : Variables} {q : Query} {b : Buffer} {plan : Plan}
    (succeeded : ((Compiler.standard s).compileMutation vars q b).result = .ok plan) :
    ∃ st t, Writes s vars q b st t := by
  obtain ⟨root, st, isRoot, stated, _, appended⟩ := Compiler.exists_statement succeeded
  obtain ⟨t, concerns⟩ := (Compiler.statement_eq_ok.mp stated).concerns
  have found := (Compiler.targetTable_eq_ok.mp concerns.target).1
  exact ⟨st, t, ⟨root, isRoot, concerns⟩, Snapshot.table_mem found, appended⟩

/-- Two statements write to the same target exactly when they are about the same table, or about two that clash. -/
theorem same_target_iff (s : Snapshot) {vars vars' : Variables} {q q' : Query} {b b' : Buffer} {plan plan' : Plan}
    (succeeded : ((Compiler.standard s).compileMutation vars q b).result = .ok plan)
    (succeeded' : ((Compiler.standard s).compileMutation vars' q' b').result = .ok plan') :
    ∃ st t st' t', Writes s vars q b st t ∧ Writes s vars' q' b' st' t' ∧
      (st.target = st'.target ↔ t.home = t'.home ∨ Clash s.schema t t' ∨ Clash s.schema t' t) := by
  obtain ⟨st, t, writes⟩ := exists_writes succeeded
  obtain ⟨st', t', writes'⟩ := exists_writes succeeded'
  refine ⟨st, t, st', t', writes, writes', ?_⟩
  obtain ⟨_, _, concerns⟩ := writes.root
  obtain ⟨_, _, concerns'⟩ := writes'.root
  rw [concerns.writes, concerns'.writes]
  exact targetName_eq_iff (Compiler.standard s) t t'

/-- Tables in three schemas. The name of one in the default schema has a dot. -/
def auditSnapshot : Snapshot :=
  Snapshot.ofColumns .postgres 160000 "public" "app" [.plain "public" "audit.log" "id" "int",
    .plain "audit" "log" "id" "int", .plain "sales" "log" "id" "int"] [] []

def deletion (schema : Option String) (table : String) : Query :=
  ⟨[{ (Selection.deleting table).filtered (.and []) with schema := schema }]⟩

theorem same_target_iff_logs :
    (((Compiler.standard auditSnapshot).compileMutation [] (deletion (some "sales") "log") .empty).result =
        .ok ⟨.delete, "log"⟩ ∧
      ((Compiler.standard auditSnapshot).compileMutation [] (deletion (some "audit") "log") .empty).result =
        .ok ⟨.delete, "log"⟩) ∧
    ∃ st t st' t', Writes auditSnapshot [] (deletion (some "sales") "log") .empty st t ∧
      Writes auditSnapshot [] (deletion (some "audit") "log") .empty st' t' ∧
      (st.target = st'.target ↔
        t.home = t'.home ∨ Clash auditSnapshot.schema t t' ∨ Clash auditSnapshot.schema t' t) := by
  have succeeded : ((Compiler.standard auditSnapshot).compileMutation [] (deletion (some "sales") "log")
      .empty).result = .ok ⟨.delete, "log"⟩ := by decide +kernel
  have succeeded' : ((Compiler.standard auditSnapshot).compileMutation [] (deletion (some "audit") "log")
      .empty).result = .ok ⟨.delete, "log"⟩ := by decide +kernel
  exact ⟨⟨succeeded, succeeded'⟩, same_target_iff auditSnapshot succeeded succeeded'⟩

/-- Deletions from two tables both delete from `audit.log`. -/
theorem dotted_names_share_target :
    (∃ t ∈ auditSnapshot.tables, ∃ u ∈ auditSnapshot.tables, t.home ≠ u.home ∧
      (Compiler.standard auditSnapshot).targetName t = (Compiler.standard auditSnapshot).targetName u) ∧
    ((Compiler.standard auditSnapshot).compileMutation [] (deletion none "audit.log") .empty).buffer =
      ⟨"WITH \"audit.log\" AS (DELETE FROM audit.log WHERE true RETURNING *) "⟩ ∧
    ((Compiler.standard auditSnapshot).compileMutation [] (deletion (some "audit") "log") .empty).buffer =
      ⟨"WITH \"log\" AS (DELETE FROM audit.log WHERE true RETURNING *) "⟩ := by
  decide +kernel

end SchemaMutation.Sql
