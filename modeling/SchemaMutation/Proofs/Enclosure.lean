import SchemaMutation.Proofs.FilterMeaning
import SchemaMutation.Proofs.Literals
import SchemaMutation.Proofs.Placeholders

/-!
# Enclosure

How deep in parentheses the text of a statement is, from its beginning to its end. A condition closes whatever it opens,
and no string literal in it opens or closes anything (`Reads.balanced`). So the expression that a statement opens
stays open up to the last parenthesis of the statement, and what is written behind it stands outside of everything
(`closes_last`).
-/

namespace SchemaMutation.Sql

open Query (Filter Selection)
open Schema (Table Snapshot)

/-- Where a scan of a text stands: how many parentheses are open, and which quote has to come to close a name or a
    literal, if one is open. -/
structure Nesting where
  depth : Int
  quote : Option Char
deriving DecidableEq, Repr

namespace Nesting

def outside : Nesting := ⟨0, none⟩

/-- Parentheses count outside of quotes only. A quote that stands twice in a literal closes it and opens it again at
    once. -/
def next (n : Nesting) (c : Char) : Nesting :=
  match n.quote with
  | some quote => if c = quote then ⟨n.depth, none⟩ else n
  | none =>
    if c = '(' then ⟨n.depth + 1, none⟩
    else if c = ')' then ⟨n.depth - 1, none⟩
    else if c = '\'' ∨ c = '"' then ⟨n.depth, some c⟩
    else n

def after (n : Nesting) (cs : List Char) : Nesting := cs.foldl next n

theorem after_append (n : Nesting) (cs ds : List Char) : n.after (cs ++ ds) = (n.after cs).after ds :=
  List.foldl_append

end Nesting

/-- A character that opens and closes nothing. -/
def isInert (c : Char) : Bool := c ∉ ['(', ')', '\'', '"']

def Inert (text : String) : Prop := ∀ c ∈ text.toList, isInert c = true

instance (text : String) : Decidable (Inert text) := List.decidableBAll (isInert · = true) text.toList

theorem inert_of_class {P : Char → Prop} (others : ∀ c ∈ ['(', ')', '\'', '"'], ¬ P c) {text : String}
    (each : ∀ c ∈ text.toList, P c) : Inert text := by
  intro c member
  by_contra marked
  have mark : c ∈ ['(', ')', '\'', '"'] := Decidable.of_not_not fun other => marked (decide_eq_true other)
  exact others c mark (each c member)

theorem inert_of_identifier {name : String} (identifier : ∀ c ∈ name.toList, c.isAlphanum = true ∨ c = '_') :
    Inert name :=
  inert_of_class (by simp) identifier

theorem inert_number (n : Json.Number) : Inert n.text :=
  inert_of_class (by simp [Decimal.isNumeric]) n.numeric_text

theorem Inert.append {s r : String} (first : Inert s) (second : Inert r) : Inert (s ++ r) := by
  intro c member
  rw [String.toList_append, List.mem_append] at member
  exact member.elim (first c) (second c)

/-- From one place on, a text leads to another place, and never below a depth. -/
structure Leads (least : Int) (n : Nesting) (cs : List Char) (m : Nesting) : Prop where
  after : n.after cs = m
  above : ∀ before, before <+: cs → least ≤ (n.after before).depth

namespace Leads
variable {least : Int} {n m k : Nesting} {c : Char} {cs ds : List Char}

theorem nil (above : least ≤ n.depth) : Leads least n [] n where
  after := rfl
  above before initial := by
    rw [List.prefix_nil.mp initial]
    exact above

theorem cons (above : least ≤ n.depth) (step : n.next c = k) (rest : Leads least k cs m) :
    Leads least n (c :: cs) m := by
  subst step
  constructor
  · exact rest.after
  · intro before initial
    rcases List.prefix_cons_iff.mp initial with rfl | ⟨before', rfl, initial'⟩
    · exact above
    · exact rest.above before' initial'

theorem append (first : Leads least n cs m) (second : Leads least m ds k) : Leads least n (cs ++ ds) k where
  after := by rw [Nesting.after_append, first.after, second.after]
  above before initial := by
    rcases List.prefix_or_prefix_of_prefix initial (List.prefix_append cs ds) with inside | ⟨rest, rfl⟩
    · exact first.above before inside
    · rw [Nesting.after_append, first.after]
      exact second.above rest ((List.prefix_append_right_inj cs).mp initial)

theorem weaken {least' : Int} (leads : Leads least n cs m) (lower : least' ≤ least) : Leads least' n cs m where
  after := leads.after
  above before initial := Int.le_trans lower (leads.above before initial)

end Leads

/-- What is read as the rest of a literal leads out of it, at the depth at which the literal stands. -/
theorem leads_of_scanQuoted {d : Int} {cs value rest : List Char} (read : scanQuoted cs = some (value, rest)) :
    ∃ inside, cs = inside ++ rest ∧ Leads d ⟨d, some '\''⟩ inside ⟨d, none⟩ := by
  induction cs using scanQuoted.induct generalizing value with
  | case1 => cases read
  | case2 cs ih =>
    obtain ⟨⟨value', rest'⟩, later, same⟩ := Option.map_eq_some_iff.mp read
    obtain ⟨_, rfl⟩ := Prod.mk.inj same
    obtain ⟨inside, rfl, leads⟩ := ih later
    exact ⟨'\'' :: '\'' :: inside, rfl, .cons (Int.le_refl d) rfl (.cons (Int.le_refl d) rfl leads)⟩
  | case3 cs single =>
    rw [scanQuoted] at read
    · cases read
      exact ⟨['\''], rfl, .cons (Int.le_refl d) rfl (.nil (Int.le_refl d))⟩
    · exact single
  | case4 c cs double other ih =>
    rw [scanQuoted_other other] at read
    obtain ⟨⟨value', rest'⟩, later, same⟩ := Option.map_eq_some_iff.mp read
    obtain ⟨_, rfl⟩ := Prod.mk.inj same
    obtain ⟨inside, rfl, leads⟩ := ih later
    exact ⟨c :: inside, rfl, .cons (Int.le_refl d) (if_neg other) leads⟩

/-- A text that closes what it opens, and nothing else. -/
def Balanced (text : String) : Prop := ∀ d, Leads d ⟨d, none⟩ text.toList ⟨d, none⟩

theorem next_inert {c : Char} (inert : isInert c = true) (d : Int) : (⟨d, none⟩ : Nesting).next c = ⟨d, none⟩ := by
  simp only [isInert, List.mem_cons, not_or, decide_eq_true_eq] at inert
  simp [Nesting.next, inert]

theorem Inert.balanced {text : String} (inert : Inert text) : Balanced text := by
  intro d
  unfold Inert at inert
  generalize text.toList = cs at inert
  induction cs with
  | nil => exact .nil (Int.le_refl d)
  | cons c cs ih =>
    obtain ⟨first, rest⟩ := List.forall_mem_cons.mp inert
    exact .cons (Int.le_refl d) (next_inert first d) (ih rest)

theorem Balanced.append {s r : String} (first : Balanced s) (second : Balanced r) : Balanced (s ++ r) := by
  intro d
  rw [String.toList_append]
  exact (first d).append (second d)

theorem Balanced.parenthesized {s : String} (inner : Balanced s) : Balanced ("(" ++ s ++ ")") := by
  intro d
  have inside : Leads d ⟨d + 1, none⟩ s.toList ⟨d + 1, none⟩ := (inner (d + 1)).weaken (by omega)
  have closing : (⟨d + 1, none⟩ : Nesting).next ')' = ⟨d, none⟩ := by simp [Nesting.next]
  rw [String.toList_append, String.toList_append, List.append_assoc]
  refine .cons (Int.le_refl d) rfl (inside.append ?_)
  exact .cons (show d ≤ d + 1 by omega) closing (.nil (Int.le_refl d))

theorem balanced_quoted {name : String} (inert : Inert name) : Balanced (Buffer.quotedText name) := by
  intro d
  have body : Leads d ⟨d, some '"'⟩ (name.toList ++ ['"']) ⟨d, none⟩ := by
    unfold Inert at inert
    generalize name.toList = cs at inert
    induction cs with
    | nil => exact .cons (Int.le_refl d) rfl (.nil (Int.le_refl d))
    | cons c cs ih =>
      obtain ⟨first, rest⟩ := List.forall_mem_cons.mp inert
      have other : c ≠ '"' := fun quote => absurd (quote ▸ first) (by decide)
      exact .cons (Int.le_refl d) (if_neg other) (ih rest)
  rw [Buffer.quotedText, String.toList_append, String.toList_append, List.append_assoc]
  exact .cons (Int.le_refl d) rfl body

theorem balanced_literal (value : String) : Balanced (literalText value) := by
  intro d
  have unquoted : Unquoted [] := nofun
  have read := scanLiteral_literalText value unquoted
  rw [List.append_nil, literal_chars, List.cons_append, scanLiteral] at read
  obtain ⟨inside, whole, leads⟩ := leads_of_scanQuoted (d := d) read
  rw [literal_chars, List.cons_append, whole, List.append_nil]
  exact .cons (Int.le_refl d) rfl leads

theorem balanced_list {items : List String} (each : ∀ item ∈ items, Balanced item) :
    Balanced (Buffer.listText items) := by
  have comma : Inert ", " := by decide
  rw [Buffer.listText]
  induction items with
  | nil => exact Inert.balanced (by decide)
  | cons item items ih =>
    obtain ⟨first, rest⟩ := List.forall_mem_cons.mp each
    cases items with
    | nil => simpa using first
    | cons next items =>
      rw [String.intercalate_cons_cons]
      exact (first.append comma.balanced).append (ih rest)

def Atom.scalars : Atom → List Scalar
  | .compare _ _ value => [value]
  | .isNull _ _ => []
  | .isIn _ values _ => values

theorem inert_placeholder {name : String} (inert : Inert name) : Inert (Buffer.placeholderText name) :=
  (Inert.append (by decide) inert).append (by decide)

theorem Scalar.balanced {s : Scalar} (named : ∀ name, s = .placeholder name → Inert name) : Balanced s.text := by
  cases s with
  | placeholder name => exact (inert_placeholder (named name rfl)).balanced
  | null => exact Inert.balanced (by decide)
  | bool value => exact Inert.balanced (by cases value <;> decide)
  | number n => exact (inert_number n).balanced
  | string value => exact balanced_literal value

theorem Atom.balanced {a : Atom} (column : Inert a.column)
    (named : ∀ name, .placeholder name ∈ a.scalars → Inert name) : Balanced a.text := by
  cases a with
  | compare column' op value =>
    have operator : Inert (comparisonText op) := by cases op <;> decide
    have words : Inert (column' ++ " " ++ comparisonText op ++ " ") :=
      ((column.append (by decide)).append operator).append (by decide)
    exact words.balanced.append (Scalar.balanced fun name same => named name (same ▸ List.mem_singleton_self _))
  | isNull column' negated =>
    exact (Inert.append column (by cases negated <;> decide)).balanced
  | isIn column' values negated =>
    have words : Inert (column' ++ if negated then " NOT IN " else " IN ") :=
      column.append (by cases negated <;> decide)
    have list : Balanced (Buffer.listText (values.map Scalar.text)) := by
      refine balanced_list fun item member => ?_
      obtain ⟨s, inValues, rfl⟩ := List.mem_map.mp member
      exact Scalar.balanced fun name same => named name (same ▸ inValues)
    have text : (Atom.isIn column' values negated).text =
        (column' ++ if negated then " NOT IN " else " IN ") ++
          ("(" ++ Buffer.listText (values.map Scalar.text) ++ ")") := by
      refine String.toList_inj.mp ?_
      cases negated <;> simp [Atom.text]
    rw [text]
    exact words.balanced.append list.parenthesized

/-- A condition that can be read closes every parenthesis that it opens. -/
theorem Reads.balanced {level : Level} {ps : List Part} {e : Formula} (reads : Reads level ps e)
    (each : ∀ text ∈ e.atoms, Balanced text) : Balanced (partsText ps) := by
  -- By induction on the reading: a part of the text need not be balanced, what is read of it is.
  induction reads with
  | atom text => simpa [partsText, Part.chars] using each text (List.mem_singleton_self _)
  | constant b =>
    rw [partsText_word]
    exact Inert.balanced (by cases b <;> decide)
  | parenthesis _ ih =>
    rw [partsText_append, partsText_append, partsText_word, partsText_word]
    exact (ih each).parenthesized
  | primary _ ih => exact ih each
  | not _ ih =>
    rw [partsText_append, partsText_word]
    exact (Inert.balanced (by decide)).append (ih each)
  | factor _ ih => exact ih each
  | and _ _ ihl ihr =>
    obtain ⟨left, right⟩ := List.forall_mem_append.mp each
    rw [partsText_append, partsText_append, partsText_word]
    exact ((ihl left).append (Inert.balanced (by decide))).append (ihr right)
  | term _ ih => exact ih each
  | or _ _ ihl ihr =>
    obtain ⟨left, right⟩ := List.forall_mem_append.mp each
    rw [partsText_append, partsText_append, partsText_word]
    exact ((ihl left).append (Inert.balanced (by decide))).append (ihr right)

def Change.var? : Change → Option String
  | .insert var _ _ => some var
  | .update var _ _ _ => some var
  | .delete _ => none

theorem balanced_input {var : String} (inert : Inert var) : Balanced (inputText var) := by
  have selected : Inert ("SELECT " ++ Buffer.placeholderText var ++ "::json AS j") :=
    (Inert.append (by decide) (inert_placeholder inert)).append (by decide)
  have named : Balanced ("WITH " ++ Buffer.quotedText "input" ++ " AS ") :=
    ((Inert.balanced (by decide)).append (balanced_quoted (by decide))).append (Inert.balanced (by decide))
  have text : inputText var = "WITH " ++ Buffer.quotedText "input" ++ " AS " ++
      ("(" ++ ("SELECT " ++ Buffer.placeholderText var ++ "::json AS j") ++ ")") := by
    refine String.toList_inj.mp ?_
    simp [inputText]
  rw [text]
  exact named.append selected.balanced.parenthesized

theorem balanced_expand {target : String} (inert : Inert target) (batch : Bool) :
    Balanced (expandText target batch) := by
  have function : Inert (if batch then "json_populate_recordset" else "json_populate_record") := by
    cases batch <;> decide
  have arguments : Inert ("NULL::" ++ target ++ ", i.j") := (Inert.append (by decide) inert).append (by decide)
  have text : expandText target batch = (if batch then "json_populate_recordset" else "json_populate_record") ++
      ("(" ++ ("NULL::" ++ target ++ ", i.j") ++ ")") ++ " t" := by
    refine String.toList_inj.mp ?_
    cases batch <;> simp [expandText]
  rw [text]
  exact (function.balanced.append arguments.balanced.parenthesized).append (Inert.balanced (by decide))

theorem balanced_selection {columns : List String} {target : String} (listed : Balanced (Buffer.listText columns))
    (inert : Inert target) (batch : Bool) :
    Balanced ("SELECT " ++ Buffer.listText columns ++ " FROM input i, " ++ expandText target batch) :=
  (((Inert.balanced (by decide)).append listed).append (Inert.balanced (by decide))).append
    (balanced_expand inert batch)

theorem Change.balanced {change : Change} {target : String} (inert : Inert target)
    (columns : ∀ column ∈ change.columns, Inert column) (var : ∀ name ∈ change.var?, Inert name)
    (condition : ∀ text, change.condition? = some text → Balanced text) : Balanced (change.text target) := by
  have listed : Balanced (Buffer.listText change.columns) :=
    balanced_list fun column member => (columns column member).balanced
  have blank : Balanced " " := Inert.balanced (by decide)
  cases change with
  | insert payload columns' batch =>
    have input : Balanced (inputText payload) := balanced_input (var payload rfl)
    have into : Inert (" INSERT INTO " ++ target ++ " ") := (Inert.append (by decide) inert).append (by decide)
    have text : (Change.insert payload columns' batch).text target =
        inputText payload ++ (" INSERT INTO " ++ target ++ " ") ++ ("(" ++ Buffer.listText columns' ++ ")") ++ " " ++
          ("SELECT " ++ Buffer.listText columns' ++ " FROM input i, " ++ expandText target batch) := by
      refine String.toList_inj.mp ?_
      simp [Change.text]
    rw [text]
    exact (((input.append into.balanced).append listed.parenthesized).append blank).append
      (balanced_selection listed inert batch)
  | update payload columns' batch condition' =>
    have input : Balanced (inputText payload) := balanced_input (var payload rfl)
    have set : Inert (" UPDATE " ++ target ++ " SET ") := (Inert.append (by decide) inert).append (by decide)
    have equals : Balanced " = " := Inert.balanced (by decide)
    have filtered : Balanced (" WHERE " ++ condition') :=
      (Inert.balanced (by decide)).append (condition condition' rfl)
    have text : (Change.update payload columns' batch condition').text target =
        inputText payload ++ (" UPDATE " ++ target ++ " SET ") ++ ("(" ++ Buffer.listText columns' ++ ")") ++ " = " ++
          ("(" ++ ("SELECT " ++ Buffer.listText columns' ++ " FROM input i, " ++ expandText target batch) ++ ")") ++
            (" WHERE " ++ condition') := by
      refine String.toList_inj.mp ?_
      simp [Change.text]
    rw [text]
    exact ((((input.append set.balanced).append listed.parenthesized).append equals).append
      (balanced_selection listed inert batch).parenthesized).append filtered
  | delete condition' =>
    have deleted : Inert ("DELETE FROM " ++ target ++ " WHERE ") := (Inert.append (by decide) inert).append (by decide)
    exact deleted.balanced.append (condition condition' rfl)

def openingText (name : String) : String := "WITH " ++ Buffer.quotedText name ++ " AS ("

/-- A text with the expression of a name around a body. Everywhere in the body the expression is open, the parenthesis
    behind the body closes it, and this is the last one. What is written behind the text is read as if it stood
    alone. -/
structure Encloses (name body text : String) : Prop where
  whole : text = openingText name ++ body ++ ")" ++ " "
  inside : ∀ before, before <+: body.toList → 1 ≤ (Nesting.outside.after ((openingText name).toList ++ before)).depth
  closed : Nesting.outside.after (openingText name ++ body ++ ")").toList = .outside
  behind : ∀ further, Nesting.outside.after (text.toList ++ further) = Nesting.outside.after further

theorem encloses_balanced {name body : String} (inert : Inert name) (balanced : Balanced body) :
    Encloses name body (openingText name ++ body ++ ")" ++ " ") := by
  have words : Balanced ("WITH " ++ Buffer.quotedText name ++ " AS ") :=
    ((Inert.balanced (by decide)).append (balanced_quoted inert)).append (Inert.balanced (by decide))
  have opening : openingText name = "WITH " ++ Buffer.quotedText name ++ " AS " ++ "(" := by
    refine String.toList_inj.mp ?_
    simp [openingText]
  have opened : Nesting.outside.after (openingText name).toList = ⟨1, none⟩ := by
    rw [opening, String.toList_append, Nesting.after_append, Nesting.outside, (words 0).after]
    rfl
  have closed : Nesting.outside.after (openingText name ++ body ++ ")").toList = .outside := by
    rw [String.toList_append, String.toList_append, Nesting.after_append, Nesting.after_append, opened,
      (balanced 1).after]
    rfl
  refine ⟨rfl, ?_, closed, ?_⟩
  · intro before initial
    rw [Nesting.after_append, opened]
    exact (balanced 1).above before initial
  · intro further
    rw [String.toList_append, Nesting.after_append, Nesting.after_append, closed]
    rfl

theorem Statement.encloses {st : Statement} (inert : Inert st.name) (balanced : Balanced (st.change.text st.target)) :
    Encloses st.name (st.change.text st.target ++ " RETURNING *") st.text := by
  have text : st.text = openingText st.name ++ (st.change.text st.target ++ " RETURNING *") ++ ")" ++ " " := by
    refine String.toList_inj.mp ?_
    simp [Statement.text, openingText]
  rw [text]
  exact encloses_balanced inert (balanced.append (Inert.balanced (by decide)))

/-- No name opens or closes anything: that of no table of a snapshot, of no column, and of no variable that a root
    leaves open. This holds of identifiers (`inert_of_identifier`). -/
structure InertNames (s : Snapshot) (root : Selection) : Prop where
  tables : ∀ t ∈ s.tables, Inert t.schema ∧ Inert t.name
  columns : ∀ t ∈ s.tables, ∀ c ∈ t.columns, Inert c.name
  deferred : ∀ name ∈ deferred root, Inert name

theorem placeholder_mem_marks {a : Atom} {name : String} (inside : .placeholder name ∈ a.scalars) :
    .placeholder name ∈ marks a.pieces := by
  cases a with
  | compare column op value =>
    obtain rfl := List.mem_singleton.mp inside
    exact List.mem_singleton_self _
  | isNull column negated => cases inside
  | isIn column values negated =>
    have listed : .placeholder name ∈ marks (values.map Scalar.piece) :=
      List.mem_filter.mpr ⟨List.mem_map.mpr ⟨_, inside, rfl⟩, rfl⟩
    rw [Atom.pieces, List.cons_append, marks_plain, marks_append, marks_listed]
    exact List.mem_append_left _ listed

theorem mem_filterVariables {t : Table} {root : Selection} {f : Filter} {ts : List Token}
    (filtered : root.filter = some f) (laid : tokens t true f = .ok ts) {a : Atom} (member : a ∈ atoms ts)
    {name : String} (inside : .placeholder name ∈ a.scalars) : name ∈ filterVariables root := by
  have mark : .placeholder name ∈ filterMarks root := by
    rw [filterMarks, filtered, Option.elim_some, ← tokens_marks laid, marks_tokens]
    exact List.mem_flatMap.mpr ⟨a, member, placeholder_mem_marks inside⟩
  rw [← deferredNames_filterMarks]
  exact List.mem_filterMap.mpr ⟨_, mark, rfl⟩

theorem Compiler.Stated.deferred {s : Snapshot} {root : Selection} {vars : Variables} {st : Statement}
    (stated : (Compiler.standard s).Stated root vars st) :
    (∀ name ∈ st.change.var?, name ∈ Sql.deferred root) ∧
      ∀ text, st.change.condition? = some text → ∀ name ∈ filterVariables root, name ∈ Sql.deferred root := by
  cases stated with
  | insert action => simp [Change.var?, Change.condition?, Sql.deferred, action]
  | update action => simp +contextual [Change.var?, Change.condition?, Sql.deferred, action]
  | delete action => simp [Change.var?, Change.condition?, Sql.deferred, action]

section
variable {s : Snapshot} {root : Selection} (names : InertNames s root) {st : Statement} {t : Table}
  (concerns : (Compiler.standard s).Concerns root st t)
include names concerns

theorem InertNames.target : Inert st.name ∧ Inert st.target := by
  have inSnapshot : t ∈ s.tables := Snapshot.table_mem (Compiler.targetTable_eq_ok.mp concerns.target).1
  obtain ⟨schema, name⟩ := names.tables t inSnapshot
  rw [concerns.name, concerns.writes, Compiler.targetName, Table.qualifiedName]
  split
  · exact ⟨name, name⟩
  · exact ⟨name, (schema.append (by decide)).append name⟩

theorem InertNames.shown {column : String} (known : ∃ c ∈ t.columns, c.blocked = false ∧ c.name = column) :
    Inert column := by
  obtain ⟨c, inTable, _, rfl⟩ := known
  exact names.columns t (Snapshot.table_mem (Compiler.targetTable_eq_ok.mp concerns.target).1) c inTable

theorem InertNames.condition (bound : ∀ name ∈ filterVariables root, Inert name) {text : String}
    (conditional : st.change.condition? = some text) : Balanced text := by
  obtain ⟨f, ts, filtered, laid, rfl⟩ := concerns.laid conditional
  obtain ⟨e, reads, _⟩ := tokens_reads f true ts laid
  rw [← partsText_tokensParts]
  refine reads.balanced ?_
  rw [reads.atoms_eq, conditions_tokensParts]
  refine List.forall_mem_map.mpr fun a member => Atom.balanced ?_ ?_
  · exact names.shown concerns (shown_of_laidAs (tokens_conditions f true ts laid) a member)
  · exact fun name inside => bound name (mem_filterVariables filtered laid member inside)

end

/-- The statement that is appended for a root is one expression, which is open from its first parenthesis to its last
    one. Names have to be inert for this, but not the string literals of the filter. -/
theorem closes_last {s : Snapshot} {vars : Variables} {q : Query} {b : Buffer} {plan : Plan} {root : Selection}
    (isRoot : q.root? = some root) (names : InertNames s root)
    (succeeded : ((Compiler.standard s).compileMutation vars q b).result = .ok plan) :
    ∃ body text, ((Compiler.standard s).compileMutation vars q b).buffer = b.push text ∧
      Encloses plan.cte body text := by
  obtain ⟨root', st, isRoot', stated, rfl, appended⟩ := Compiler.exists_statement succeeded
  obtain rfl : root = root' := Option.some.inj (isRoot.symm.trans isRoot')
  have stated := Compiler.statement_eq_ok.mp stated
  obtain ⟨t, concerns⟩ := stated.concerns
  obtain ⟨var, filter⟩ := stated.deferred
  obtain ⟨name, target⟩ := names.target concerns
  have balanced : Balanced (st.change.text st.target) := by
    refine Change.balanced target ?_ ?_ ?_
    · exact fun column listed => names.shown concerns (concerns.columns column listed)
    · exact fun name waits => names.deferred name (var name waits)
    · intro text conditional
      have bound : ∀ name ∈ filterVariables root, Inert name := fun name waits =>
        names.deferred name (filter text conditional name waits)
      exact names.condition concerns bound conditional
  exact ⟨_, st.text, appended, Statement.encloses name balanced⟩

def notesSnapshot : Snapshot := .ofColumns .postgres 160000 "public" "app" notesTable.columns [] []

def notesUpdate : Selection := (Selection.updating "notes" "data").filtered (notesBy "o'neil)" "\"((" "')--")

theorem closes_last_notes :
    (Query.root? ⟨[notesUpdate]⟩ = some notesUpdate ∧ InertNames notesSnapshot notesUpdate ∧
      ((Compiler.standard notesSnapshot).compileMutation [("data", .object [("author", .null)])] ⟨[notesUpdate]⟩
        .empty).result = .ok ⟨.update, "notes"⟩) ∧
    ∃ body text, ((Compiler.standard notesSnapshot).compileMutation [("data", .object [("author", .null)])]
        ⟨[notesUpdate]⟩ .empty).buffer = Buffer.empty.push text ∧ Encloses "notes" body text := by
  have names : InertNames notesSnapshot notesUpdate := ⟨by decide +kernel, by decide +kernel, by decide +kernel⟩
  have succeeded : ((Compiler.standard notesSnapshot).compileMutation [("data", .object [("author", .null)])]
      ⟨[notesUpdate]⟩ .empty).result = .ok ⟨.update, "notes"⟩ := by decide +kernel
  exact ⟨⟨rfl, names, succeeded⟩, closes_last rfl names succeeded⟩

end SchemaMutation.Sql
