import SchemaMutation.Proofs.Replay

/-!
# The second phase

What is left when a statement cannot be closed. The first phase undoes its own failures. When the second phase fails
nobody undoes the first one: the open statement stays in the buffer, with what was written behind it, and the root
stays without its filter, so that an update or a deletion which is tried again is refused for want of a filter
(`compile_again_of_abandoned`). A compilation fails without a trace exactly when it is not the second phase that fails
(`compile_failsClean_iff`).
-/

namespace SchemaMutation.Sql

open Query (Selection)
open Schema (Table)

/-- A select compiler that only appends, whether it succeeds or fails. -/
def Appends (select : SelectCompiler) : Prop := ∀ q b, ∃ text, ((select q).run.run b).2 = b.push text

theorem Statement.text_ne_empty (st : Statement) : st.text ≠ "" := by
  simp [Statement.text]

theorem Buffer.push_statement_ne (b : Buffer) (st : Statement) (text : String) : (b.push st.text).push text ≠ b := by
  intro same
  rw [push_push] at same
  have nothing : st.text ++ text = "" := push_inj (same.trans b.push_empty.symm)
  exact st.text_ne_empty (String.append_eq_empty_iff.mp nothing).1

namespace Compiler

section
variable (c : Compiler) (select : SelectCompiler) (vars : Variables) (q : Query) (b : Buffer)

/-- If the compilation fails, the query and the buffer are what they were, and another attempt with them fails with
    the same error. -/
structure FailsClean : Prop where
  query : ∀ e, (c.compile select vars q b).result = .error e → (c.compile select vars q b).query = q
  buffer : ∀ e, (c.compile select vars q b).result = .error e → (c.compile select vars q b).buffer = b
  again : ∀ e, (c.compile select vars q b).result = .error e →
    (c.compile select vars (c.compile select vars q b).query (c.compile select vars q b).buffer).result = .error e

/-- The statement of the root is written, and then the second phase fails and leaves this buffer. -/
structure Abandons (root : Selection) (st : Statement) (e : Error) (after : Buffer) : Prop where
  isRoot : q.root? = some root
  stated : c.statement root vars = .ok st
  failed : (select (q.setRoot root.cleared)).run.run (b.push st.text) = (.error e, after)

/-- The outcomes that a compilation in two phases may have. -/
inductive Compiled : Outcome → Prop
  | refused {e : Error} (first : (c.compileMutation vars q b).result = .error e) : Compiled ⟨.error e, q, b⟩
  | closed {root : Selection} {st : Statement} {after : Buffer} (isRoot : q.root? = some root)
      (stated : c.statement root vars = .ok st)
      (second : (select (q.setRoot root.cleared)).run.run (b.push st.text) = (.ok (), after)) :
      Compiled ⟨.ok ⟨root.action, st.name⟩, q.setRoot root.cleared, after⟩
  | abandoned {root : Selection} {st : Statement} {e : Error} {after : Buffer}
      (abandons : Abandons c select vars q b root st e after) : Compiled ⟨.error e, q.setRoot root.cleared, after⟩

theorem compile_compiled : Compiled c select vars q b (c.compile select vars q b) := by
  cases isRoot : q.root? with
  | none =>
    rw [compile, compileMutation_of_noRoot isRoot]
    exact .refused (by rw [compileMutation_of_noRoot isRoot])
  | some root =>
    cases stated : c.statement root vars with
    | error e =>
      rw [compile, compileMutation_of_error isRoot stated]
      exact .refused (by rw [compileMutation_of_error isRoot stated])
    | ok st =>
      rw [compile, compileMutation_of_statement isRoot stated]
      rcases second : (select (q.setRoot root.cleared)).run.run (b.push st.text) with ⟨e | done, after⟩
      · exact .abandoned ⟨isRoot, stated, second⟩
      · exact .closed isRoot stated second

end

section
variable {c : Compiler} {select : SelectCompiler} {vars : Variables} {q : Query} {b after : Buffer} {root : Selection}
variable {st : Statement} {e : Error}

theorem Abandons.compile_eq (abandons : Abandons c select vars q b root st e after) :
    c.compile select vars q b = ⟨.error e, q.setRoot root.cleared, after⟩ := by
  rw [compile, compileMutation_of_statement abandons.isRoot abandons.stated]
  simp only [abandons.failed]

/-- When an update or a deletion is tried again with the query that its second phase left behind, the filter is
    missing, whatever the second phase and the buffer are now. -/
theorem compile_again_of_abandoned (abandons : Abandons c select vars q b root st e after)
    (action : root.action ∈ [Query.Action.update, .delete]) (select' : SelectCompiler) (b' : Buffer) :
    ∃ fault, (c.compile select' vars (c.compile select vars q b).query b').result = .error (.predicate fault) := by
  have same : vars.lookup root.actionVar = vars.lookup root.actionVar := rfl
  obtain ⟨t, unfiltered⟩ := statement_cleared_unfiltered abandons.stated action same
  have next : (q.setRoot root.cleared).root? = some root.cleared := Query.root?_setRoot q root.cleared
  rw [abandons.compile_eq, compile, compileMutation_of_error next unfiltered]
  exact ⟨_, rfl⟩

/-- Whatever is compiled in two phases, of which the second only appends: a failure leaves no trace, and comes back when
    the same is tried again, exactly when it is not a second phase that fails behind a statement. -/
theorem compile_failsClean_iff (c : Compiler) (select : SelectCompiler) (vars : Variables) (q : Query) (b : Buffer)
    (appends : Appends select) :
    FailsClean c select vars q b ↔ ¬ ∃ root st e after, Abandons c select vars q b root st e after := by
  constructor
  · rintro clean ⟨root, st, e, after, abandons⟩
    have buffer := clean.buffer e (by rw [abandons.compile_eq])
    obtain ⟨text, appended⟩ := appends (q.setRoot root.cleared) (b.push st.text)
    have left : after = (b.push st.text).push text := (congrArg Prod.snd abandons.failed).symm.trans appended
    rw [abandons.compile_eq] at buffer
    exact b.push_statement_ne st text (left.symm.trans buffer)
  · intro never
    rcases outcome : c.compile select vars q b with ⟨result, query, buffer⟩
    have compiled := compile_compiled c select vars q b
    rw [outcome] at compiled
    cases compiled with
    | @refused e first =>
      refine ⟨fun _ _ => by rw [outcome], fun _ _ => by rw [outcome], fun e' failed => ?_⟩
      rw [outcome] at failed ⊢
      rw [outcome, failed]
    | closed isRoot stated second =>
      refine ⟨fun e failed => ?_, fun e failed => ?_, fun e failed => ?_⟩
      all_goals
        rw [outcome] at failed
        cases failed
    | abandoned abandons => exact absurd ⟨_, _, _, _, abandons⟩ never

def brokenRead : SelectCompiler := fun _ => do
  write (·.push "SELECT")
  settle (.error (.predicate (.reported "no read")))

theorem appends_brokenRead : Appends brokenRead := fun _ _ => ⟨"SELECT", rfl⟩

def userCompiler : Compiler :=
  .standard (.ofColumns .postgres 160000 "public" "app" [.plain "public" "users" "id" "int"] [] [])

def userDeletion (id : Nat) : Query :=
  ⟨[(Selection.deleting "users").filtered (.equals "id" (.value (.ofInt id)))]⟩

theorem compile_failsClean_iff_users : Appends brokenRead ∧
    (FailsClean userCompiler brokenRead [] (userDeletion 5) .empty ↔
      ¬ ∃ root st e after, Abandons userCompiler brokenRead [] (userDeletion 5) .empty root st e after) :=
  ⟨appends_brokenRead, compile_failsClean_iff userCompiler brokenRead [] (userDeletion 5) .empty appends_brokenRead⟩

/-- A deletion that its read abandons stays in the buffer, and its filter is lost to the next attempt. -/
theorem abandoned_deletion_leaves_statement :
    let outcome := userCompiler.compile brokenRead [] (userDeletion 5) .empty
    outcome.result = .error (.predicate (.reported "no read")) ∧
    outcome.buffer = ⟨"WITH \"users\" AS (DELETE FROM users WHERE id = 5 RETURNING *) SELECT"⟩ ∧
    outcome.query.root?.map (·.filter.isNone) = some true ∧
    (userCompiler.compile brokenRead [] outcome.query outcome.buffer).result =
      .error (.predicate (.noFilter "delete" "public.users")) ∧
    ¬ FailsClean userCompiler brokenRead [] (userDeletion 5) .empty := by
  have result : (userCompiler.compile brokenRead [] (userDeletion 5) .empty).result =
      .error (.predicate (.reported "no read")) := by decide +kernel
  have buffer : (userCompiler.compile brokenRead [] (userDeletion 5) .empty).buffer =
      ⟨"WITH \"users\" AS (DELETE FROM users WHERE id = 5 RETURNING *) SELECT"⟩ := by decide +kernel
  refine ⟨result, buffer, by decide +kernel, by decide +kernel, fun clean => ?_⟩
  have kept := clean.buffer _ result
  rw [buffer] at kept
  revert kept
  decide

end

end Compiler

end SchemaMutation.Sql
