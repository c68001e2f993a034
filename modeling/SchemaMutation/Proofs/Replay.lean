import SchemaMutation.Proofs.Conditions
import SchemaMutation.Proofs.Rollback

/-!
# Compiling a query again

What comes of mutations that are compiled one after the other from the same query. The first one that succeeds takes
the filter from the root. An update and a deletion are refused from then on, whatever variables they get; an insertion,
which needs no filter, is written with the same text again (`replay_guarded`). So no statement changes rows that a
filter did not select.
-/

namespace SchemaMutation.Query

@[simp] theorem root?_setRoot (q : Query) (root : Selection) : (q.setRoot root).root? = some root := rfl

theorem setRoot_of_root? {q : Query} {root : Selection} (isRoot : q.root? = some root) : q.setRoot root = q := by
  obtain ⟨selections⟩ := q
  cases selections with
  | nil => cases isRoot
  | cons first rest =>
    cases isRoot
    rfl

@[simp] theorem Selection.cleared_cleared (s : Selection) : s.cleared.cleared = s.cleared := rfl

end SchemaMutation.Query

namespace SchemaMutation.Sql

open Query (Filter Selection)
open Schema (Table)

namespace Buffer

theorem push_inj {b : Buffer} {s r : String} (same : b.push s = b.push r) : s = r := by
  have chars : b.text.toList ++ s.toList = b.text.toList ++ r.toList := by
    rw [← String.toList_append, ← String.toList_append]
    exact congrArg (·.text.toList) same
  exact String.toList_inj.mp (List.append_cancel_left chars)

end Buffer

theorem Atom.text_ne_empty (a : Atom) : a.text ≠ "" := by
  cases a with
  | compare column op value => simp [Atom.text]
  | isNull column negated => cases negated <;> simp [Atom.text]
  | isIn column values negated => simp [Atom.text]

theorem tokensText_ne_empty {ts : List Token} (shown : ∃ token ∈ ts, token.text ≠ "") : tokensText ts ≠ "" := by
  obtain ⟨token, member, shown⟩ := shown
  obtain ⟨before, after, rfl⟩ := List.append_of_mem member
  simp [tokensText, shown]

theorem exists_shown_atom (a : Atom) : ∃ token ∈ [Token.atom a], token.text ≠ "" :=
  ⟨.atom a, List.mem_singleton_self _, a.text_ne_empty⟩

/-- Among the tokens of a filter there is one that leaves a trace in the text. -/
theorem tokens_shown {t : Table} (f : Filter) :
    ∀ top ts, tokens t top f = .ok ts → ∃ token ∈ ts, token.text ≠ "" := by
  have group {top : Bool} {joiner : Token} {neutral : Bool} {parts : List Filter} {ts : List Token}
      (each : ∀ part ∈ parts, ∀ top ts, tokens t top part = .ok ts → ∃ token ∈ ts, token.text ≠ "")
      (laid : groupTokens t top joiner neutral parts = .ok ts) : ∃ token ∈ ts, token.text ≠ "" := by
    rcases groupTokens_cases laid with
      ⟨-, rfl⟩ | ⟨part, rfl, only⟩ | ⟨part, rest, first, others, rfl, firstLaid, -, rfl⟩
    · exact ⟨_, List.mem_singleton_self _, by cases neutral <;> simp [Token.text]⟩
    · exact each part (List.mem_singleton_self part) top ts only
    · obtain ⟨token, member, shown⟩ := each part List.mem_cons_self false first firstLaid
      exact ⟨token, by cases top <;> simp [member], shown⟩
  induction f using Filter.induct with
  | and parts each => exact fun top ts laid => group each (tokens_and parts ▸ laid)
  | or parts each => exact fun top ts laid => group each (tokens_or parts ▸ laid)
  | not part _ =>
    intro top ts laid
    obtain ⟨inner, -, rfl⟩ := tokens_not.mp laid
    exact ⟨.not, by simp, by simp [Token.text]⟩
  | compare column op value =>
    intro top ts laid
    obtain ⟨name, -, s, -, rfl⟩ := tokens_compare.mp laid
    exact exists_shown_atom _
  | isNull column negated =>
    intro top ts laid
    obtain ⟨name, -, rfl⟩ := tokens_isNull.mp laid
    exact exists_shown_atom _
  | isIn column values negated =>
    intro top ts laid
    obtain ⟨-, name, -, ss, -, rfl⟩ := tokens_isIn.mp laid
    exact exists_shown_atom _

theorem renderFilter_ne_empty {f : Filter} {t : Table} {condition : String}
    (rendered : renderFilter f t = .ok condition) : condition ≠ "" := by
  obtain ⟨ts, laid, rfl⟩ := map_eq_ok.mp rendered
  exact tokensText_ne_empty (tokens_shown f true ts laid)

namespace Compiler

section
variable {c : Compiler} {root : Selection} {vars vars' : Variables}

theorem predicate_cleared (c : Compiler) (root : Selection) (t : Table) :
    c.predicate root.cleared t = .error (.predicate (.noFilter root.action.name t.qualifiedName)) := rfl

theorem statement_cleared_insert (action : root.action = .insert)
    (same : vars'.lookup root.actionVar = vars.lookup root.actionVar) :
    c.statement root.cleared vars' = c.statement root vars := by
  have payload_same : payload root.cleared vars' = payload root vars := by
    simp only [payload, Selection.cleared, same]
  have target_same : c.targetTable root.cleared = c.targetTable root := rfl
  have action_cleared : root.cleared.action = .insert := action
  simp only [statement, action, action_cleared, payload_same, target_same]
  rfl

theorem statement_cleared_refused (c : Compiler) (vars : Variables)
    (action : root.action ∈ [Query.Action.update, .delete]) :
    ∃ e, c.statement root.cleared vars = .error e := by
  cases stated : c.statement root.cleared vars with
  | error e => exact ⟨e, rfl⟩
  | ok st =>
    have action_cleared : root.cleared.action = root.action := rfl
    rcases statement_eq_ok.mp stated with ⟨insert, _, _, _⟩ | ⟨_, _, _, _, filtered⟩ | ⟨_, _, filtered⟩
    · rw [← action_cleared, insert] at action
      simp at action
    · rw [predicate_cleared] at filtered
      cases filtered
    · rw [predicate_cleared] at filtered
      cases filtered

/-- With the payload that was accepted before, it is the filter that an update or a deletion lacks. -/
theorem statement_cleared_unfiltered {st : Statement} (stated : c.statement root vars = .ok st)
    (action : root.action ∈ [Query.Action.update, .delete])
    (same : vars'.lookup root.actionVar = vars.lookup root.actionVar) :
    ∃ t : Table, c.statement root.cleared vars' =
      .error (.predicate (.noFilter root.action.name t.qualifiedName)) := by
  have payload_same : payload root.cleared vars' = payload root vars := by
    simp only [payload, Selection.cleared, same]
  have action_cleared : root.cleared.action = root.action := rfl
  have target_same : c.targetTable root.cleared = c.targetTable root := rfl
  cases statement_eq_ok.mp stated with
  | insert insert _ _ _ => simp [insert] at action
  | @update value t columns batch condition update bound target written _ =>
    refine ⟨t, ?_⟩
    simp only [statement, action_cleared, update, payload_same, bound, target_same, target, written, ok_bind,
      predicate_cleared, error_bind]
  | @delete t condition delete target _ =>
    refine ⟨t, ?_⟩
    simp only [statement, action_cleared, delete, target_same, target, ok_bind, predicate_cleared, error_bind]

end

section
variable {c : Compiler} {vars : Variables} {q : Query} {b : Buffer}

theorem compileMutation_query_of_ok {root : Selection} {plan : Plan} (isRoot : q.root? = some root)
    (succeeded : (c.compileMutation vars q b).result = .ok plan) :
    (c.compileMutation vars q b).query = q.setRoot root.cleared := by
  obtain ⟨root', st, isRoot', stated, -, -⟩ := exists_statement succeeded
  rw [isRoot] at isRoot'
  cases isRoot'
  rw [compileMutation_of_statement isRoot stated]

theorem compileMutation_query_of_cleared {root : Selection} (isRoot : q.root? = some root)
    (spent : root.cleared = root) : (c.compileMutation vars q b).query = q := by
  cases stated : c.statement root vars with
  | error e => rw [compileMutation_of_error isRoot stated]
  | ok st => rw [compileMutation_of_statement isRoot stated, spent, Query.setRoot_of_root? isRoot]

end

end Compiler

structure Call where
  vars : Variables
  buffer : Buffer

/-- A call with the query that it found and its outcome. -/
structure Attempt where
  before : Query
  call : Call
  outcome : Compiler.Outcome

namespace Compiler

def attempt (c : Compiler) (q : Query) (call : Call) : Attempt := ⟨q, call, c.compileMutation call.vars q call.buffer⟩

/-- Calls one after the other, each with the query that the one before left behind. -/
def replay (c : Compiler) (q : Query) : List Call → List Attempt
  | [] => []
  | call :: rest => c.attempt q call :: c.replay (c.attempt q call).outcome.query rest

theorem exists_attempt_of_mem {c : Compiler} {q : Query} {calls : List Call} {a : Attempt}
    (member : a ∈ c.replay q calls) : ∃ before call, a = c.attempt before call := by
  induction calls generalizing q with
  | nil => cases member
  | cons call rest ih =>
    rcases List.mem_cons.mp member with first | later
    · exact ⟨q, call, first⟩
    · exact ih later

theorem replay_of_cleared {c : Compiler} {q : Query} {root : Selection} (isRoot : q.root? = some root)
    (spent : root.cleared = root) {calls : List Call} {a : Attempt} (member : a ∈ c.replay q calls) :
    a = c.attempt q a.call := by
  induction calls with
  | nil => cases member
  | cons call rest ih =>
    rw [replay, attempt, compileMutation_query_of_cleared isRoot spent] at member
    rcases List.mem_cons.mp member with rfl | later
    · rfl
    · exact ih later

end Compiler

def SameBindings (vars vars' : Variables) : Prop := ∀ name, vars'.lookup name = vars.lookup name

namespace Attempt

/-- The call succeeded with this plan, and appended this text. -/
structure Wrote (a : Attempt) (plan : Plan) (text : String) : Prop where
  result : a.outcome.result = .ok plan
  buffer : a.outcome.buffer = a.call.buffer.push text

/-- The call failed with this error, and left everything as it was. -/
structure Refused (a : Attempt) (e : Error) : Prop where
  result : a.outcome.result = .error e
  query : a.outcome.query = a.before
  buffer : a.outcome.buffer = a.call.buffer

end Attempt

/-- A text that ends with the condition that the filter of a root stands for. As this library renders filters, there is
    no filter without a condition. -/
inductive Restricted (c : Compiler) (root : Selection) : String → Prop
  | intro {f : Filter} {t : Table} {condition opening : String} (filtered : root.filter = some f)
      (target : c.targetTable root = .ok t) (rendered : c.renderFilter f t = .ok condition)
      (shown : c.renderFilter = renderFilter → condition ≠ "") :
      Restricted c root (opening ++ " WHERE " ++ condition ++ " RETURNING *) ")

/-- What an attempt comes to behind one that succeeded. An insertion is written again. An update or a deletion is not,
    and with the same variables it is the filter that is missing. -/
structure Attempt.Follows (done later : Attempt) (plan : Plan) (text : String) : Prop where
  again : plan.action = .insert → SameBindings done.call.vars later.call.vars → later.Wrote plan text
  refused : plan.action ∈ [Query.Action.update, .delete] → ∃ e, later.Refused e ∧
    (SameBindings done.call.vars later.call.vars → ∃ fault, e = .predicate fault)

/-- What holds of the calls of a run: an update or a deletion that succeeds is restricted by the filter that the call
    found, and what succeeded decides about all later calls. -/
structure Guarded (c : Compiler) (attempts : List Attempt) : Prop where
  written : ∀ a ∈ attempts, ∀ plan, a.outcome.result = .ok plan → ∃ root text, a.before.root? = some root ∧
    root.action = plan.action ∧ a.Wrote plan text ∧
    (plan.action ∈ [Query.Action.update, .delete] → Restricted c root text)
  decided : attempts.Pairwise fun done later =>
    ∀ plan text, done.Wrote plan text → done.Follows later plan text

namespace Compiler

theorem Stated.restricted {c : Compiler} {root : Selection} {vars : Variables} {st : Statement}
    (stated : c.Stated root vars st) (action : root.action ∈ [Query.Action.update, .delete]) :
    Restricted c root st.text := by
  have of_predicate {t : Table} {condition : String} (target : c.targetTable root = .ok t)
      (rendered : c.predicate root t = .ok condition) (opening : String) :
      Restricted c root (opening ++ " WHERE " ++ condition ++ " RETURNING *) ") := by
    obtain ⟨f, filtered, rendered⟩ := predicate_eq_ok.mp rendered
    exact .intro filtered target rendered fun standard => renderFilter_ne_empty (standard ▸ rendered)
  cases stated with
  | insert insert _ _ _ => simp [insert] at action
  | @update value t columns batch condition _ _ target _ filtered =>
    have text := of_predicate target filtered ("WITH " ++ Buffer.quotedText t.name ++ " AS (" ++
      (inputText root.actionVar ++ " UPDATE " ++ c.targetName t ++ " SET (" ++ Buffer.listText columns ++
        ") = (SELECT " ++ Buffer.listText columns ++ " FROM input i, " ++ expandText (c.targetName t) batch ++ ")"))
    have same : ")" ++ " WHERE " = ") WHERE " := rfl
    simpa only [Statement.text, Change.text, String.append_assoc, same] using text
  | @delete t condition _ target filtered =>
    have text := of_predicate target filtered
      ("WITH " ++ Buffer.quotedText t.name ++ " AS (" ++ ("DELETE FROM " ++ c.targetName t))
    simpa only [Statement.text, Change.text, String.append_assoc] using text

theorem attempt_written (c : Compiler) (q : Query) (call : Call) {plan : Plan}
    (succeeded : (c.attempt q call).outcome.result = .ok plan) :
    ∃ root text, q.root? = some root ∧ root.action = plan.action ∧ (c.attempt q call).Wrote plan text ∧
      (plan.action ∈ [Query.Action.update, .delete] → Restricted c root text) := by
  obtain ⟨root, st, isRoot, stated, rfl, appended⟩ := exists_statement succeeded
  exact ⟨root, st.text, isRoot, rfl, ⟨succeeded, appended⟩, (statement_eq_ok.mp stated).restricted⟩

theorem attempt_follows (c : Compiler) (q : Query) (first second : Call) {plan : Plan} {text : String}
    (wrote : (c.attempt q first).Wrote plan text) :
    (c.attempt q first).Follows (c.attempt (c.attempt q first).outcome.query second) plan text := by
  obtain ⟨root, st, isRoot, stated, rfl, appended⟩ := exists_statement wrote.result
  have query : (c.attempt q first).outcome.query = q.setRoot root.cleared :=
    compileMutation_query_of_ok isRoot wrote.result
  have next : (q.setRoot root.cleared).root? = some root.cleared := Query.root?_setRoot q root.cleared
  obtain rfl : st.text = text := Buffer.push_inj (appended.symm.trans wrote.buffer)
  rw [query]
  refine ⟨fun insert same => ?_, fun restricted => ?_⟩
  · have stated_again : c.statement root.cleared second.vars = .ok st :=
      (statement_cleared_insert insert (same root.actionVar)).trans stated
    have outcome := compileMutation_of_statement (b := second.buffer) next stated_again
    exact ⟨by rw [attempt, outcome]; rfl, by rw [attempt, outcome]⟩
  · obtain ⟨e, refused⟩ := statement_cleared_refused c second.vars restricted
    have outcome := compileMutation_of_error (b := second.buffer) next refused
    refine ⟨e, ⟨by rw [attempt, outcome], by rw [attempt, outcome], by rw [attempt, outcome]⟩, fun same => ?_⟩
    obtain ⟨t, unfiltered⟩ := statement_cleared_unfiltered stated restricted (same root.actionVar)
    exact ⟨_, Except.error.inj (refused.symm.trans unfiltered)⟩

/-- Whatever is called with whatever buffers and variables: no update and no deletion is written without the condition
    of the filter that its root had, none is written a second time, and an insertion is written alike each time. -/
theorem replay_guarded (c : Compiler) (q : Query) (calls : List Call) : Guarded c (c.replay q calls) where
  written := by
    intro a member plan succeeded
    obtain ⟨before, call, rfl⟩ := exists_attempt_of_mem member
    exact c.attempt_written before call succeeded
  decided := by
    induction calls generalizing q with
    | nil => exact .nil
    | cons call rest ih =>
      refine List.pairwise_cons.mpr ⟨fun later member plan text wrote => ?_, ih _⟩
      obtain ⟨root, -, isRoot, -⟩ := exists_statement wrote.result
      have query : (c.attempt q call).outcome.query = q.setRoot root.cleared :=
        compileMutation_query_of_ok isRoot wrote.result
      have next : (q.setRoot root.cleared).root? = some root.cleared := Query.root?_setRoot q root.cleared
      rw [query] at member
      rw [replay_of_cleared next root.cleared_cleared member, ← query]
      exact c.attempt_follows q call later.call wrote

end Compiler

end SchemaMutation.Sql
