import Mathlib.Data.List.Forall2
import SchemaMutation.Proofs.Assembly
import SchemaMutation.Sql.Predicate

/-!
# Conditions of a filter

The conditions on single columns at the leaves of a filter, and the atoms among the tokens that it is laid out as. The
layout keeps every condition once and in order (`tokens_conditions`), and an atom names a column that the table has and
shows (`LaidAs.shown`).
-/

namespace SchemaMutation.Query.Filter

/-- To prove a fact of every filter, prove it of a group from its parts. -/
@[elab_as_elim]
theorem induct {P : Filter → Prop} (and : ∀ parts, (∀ part ∈ parts, P part) → P (.and parts))
    (or : ∀ parts, (∀ part ∈ parts, P part) → P (.or parts)) (not : ∀ part, P part → P (.not part))
    (compare : ∀ column op value, P (.compare column op value)) (isNull : ∀ column negated, P (.isNull column negated))
    (isIn : ∀ column values negated, P (.isIn column values negated)) : ∀ f, P f
  | .and parts => and parts fun part _ => induct and or not compare isNull isIn part
  | .or parts => or parts fun part _ => induct and or not compare isNull isIn part
  | .not part => not part (induct and or not compare isNull isIn part)
  | .compare column op value => compare column op value
  | .isNull column negated => isNull column negated
  | .isIn column values negated => isIn column values negated

mutual
/-- The conditions on single columns, from left to right. -/
def conditions : Filter → List Filter
  | .and parts => conditionsOfAll parts
  | .or parts => conditionsOfAll parts
  | .not part => part.conditions
  | .compare column op value => [.compare column op value]
  | .isNull column negated => [.isNull column negated]
  | .isIn column values negated => [.isIn column values negated]

def conditionsOfAll : List Filter → List Filter
  | [] => []
  | part :: rest => part.conditions ++ conditionsOfAll rest
end

theorem conditionsOfAll_eq (parts : List Filter) : conditionsOfAll parts = parts.flatMap conditions := by
  induction parts with
  | nil => rfl
  | cons part rest ih => rw [conditionsOfAll, ih, List.flatMap_cons]

def column? : Filter → Option String
  | .and _ | .or _ | .not _ => none
  | .compare column _ _ | .isNull column _ | .isIn column _ _ => some column

def ownOperands : Filter → List Operand
  | .compare _ _ value => [value]
  | .isIn _ values _ => values
  | _ => []

def operands (f : Filter) : List Operand := f.conditions.flatMap ownOperands

end SchemaMutation.Query.Filter

namespace SchemaMutation.Sql

open Query (Filter Operand Comparison)
open Schema (Table Column)

def Atom.column : Atom → String
  | .compare column _ _ => column
  | .isNull column _ => column
  | .isIn column _ _ => column

def Token.atom? : Token → Option Atom
  | .atom a => some a
  | _ => none

def atoms (ts : List Token) : List Atom := ts.filterMap Token.atom?

@[simp] theorem atoms_nil : atoms [] = [] := rfl

@[simp] theorem atoms_append (ts us : List Token) : atoms (ts ++ us) = atoms ts ++ atoms us := by
  simp [atoms]

theorem atoms_other {token : Token} (other : token.atom? = none) (ts : List Token) :
    atoms (token :: ts) = atoms ts := by
  simp [atoms, other]

theorem atoms_parenthesized (ts : List Token) : atoms (.open :: ts ++ [.close]) = atoms ts := by
  rw [List.cons_append, atoms_other rfl, atoms_append, atoms_other rfl, atoms_nil, List.append_nil]

theorem atoms_negated (ts : List Token) : atoms (.not :: .open :: ts ++ [.close]) = atoms ts := by
  rw [List.cons_append, atoms_other rfl, atoms_parenthesized]

section
variable {t : Table} {top : Bool} {ts : List Token}

theorem tokens_and (parts : List Filter) : tokens t top (.and parts) = groupTokens t top .and true parts := by
  rw [tokens]

theorem tokens_or (parts : List Filter) : tokens t top (.or parts) = groupTokens t top .or false parts := by
  rw [tokens]

theorem tokens_not {part : Filter} :
    tokens t top (.not part) = .ok ts ↔
      ∃ inner, tokens t true part = .ok inner ∧ .not :: .open :: inner ++ [.close] = ts := by
  simp only [tokens, bind_eq_ok, Except.ok.injEq]

theorem tokens_compare {column : String} {op : Comparison} {value : Operand} :
    tokens t top (.compare column op value) = .ok ts ↔
      ∃ name, columnName t column = .ok name ∧ ∃ s, scalar value = .ok s ∧ [.atom (.compare name op s)] = ts := by
  simp only [tokens, bind_eq_ok, Except.ok.injEq]

theorem tokens_isNull {column : String} {negated : Bool} :
    tokens t top (.isNull column negated) = .ok ts ↔
      ∃ name, columnName t column = .ok name ∧ [.atom (.isNull name negated)] = ts := by
  simp only [tokens, bind_eq_ok, Except.ok.injEq]

theorem tokens_isIn {column : String} {values : List Operand} {negated : Bool} :
    tokens t top (.isIn column values negated) = .ok ts ↔
      values ≠ [] ∧ ∃ name, columnName t column = .ok name ∧ ∃ ss, scalars values = .ok ss ∧
        [.atom (.isIn name ss negated)] = ts := by
  rw [tokens]
  cases values with
  | nil => simp
  | cons value rest =>
    simp only [List.isEmpty_cons, Bool.false_eq_true, ↓reduceIte, bind_eq_ok, Except.ok.injEq, ne_eq, reduceCtorEq,
      not_false_eq_true, true_and]

theorem joinedTokens_cons {joiner : Token} {part : Filter} {rest : List Filter} :
    joinedTokens t joiner (part :: rest) = .ok ts ↔
      ∃ first, tokens t false part = .ok first ∧ ∃ others, joinedTokens t joiner rest = .ok others ∧
        joiner :: first ++ others = ts := by
  simp only [joinedTokens, bind_eq_ok, Except.ok.injEq]

/-- A group is laid out as a constant, as its only part, or as parts with the joining word between them. -/
theorem groupTokens_cases {joiner : Token} {neutral : Bool} {parts : List Filter}
    (laid : groupTokens t top joiner neutral parts = .ok ts) :
    (parts = [] ∧ ts = [.constant neutral]) ∨
    (∃ part, parts = [part] ∧ tokens t top part = .ok ts) ∨
    (∃ part rest first others, parts = part :: rest ∧ tokens t false part = .ok first ∧
      joinedTokens t joiner rest = .ok others ∧
      ts = if top then first ++ others else .open :: (first ++ others) ++ [.close]) := by
  rcases parts with _ | ⟨part, _ | ⟨next, rest⟩⟩
  · simp only [groupTokens, Except.ok.injEq] at laid
    exact .inl ⟨rfl, laid.symm⟩
  · rw [groupTokens] at laid
    exact .inr (.inl ⟨part, rfl, laid⟩)
  · simp only [groupTokens, bind_eq_ok, Except.ok.injEq] at laid
    obtain ⟨first, firstLaid, others, othersLaid, same⟩ := laid
    exact .inr (.inr ⟨part, next :: rest, first, others, rfl, firstLaid, othersLaid, same.symm⟩)

end

theorem columnName_eq_ok {t : Table} {name column : String} :
    columnName t name = .ok column ↔ ∃ c, t.column? name = some c ∧ c.blocked = false ∧ c.name = column := by
  unfold columnName columnName.unknown
  cases found : t.column? name with
  | none => simp
  | some c => cases hidden : c.blocked <;> simp [hidden]

/-- An atom says of a column that the table has and shows what a condition says of the name of that column. -/
inductive LaidAs (t : Table) : Filter → Atom → Prop
  | compare {column : String} {op : Comparison} {value : Operand} {c : Column} {s : Scalar}
      (found : t.column? column = some c) (shown : c.blocked = false) (valued : scalar value = .ok s) :
      LaidAs t (.compare column op value) (.compare c.name op s)
  | isNull {column : String} {negated : Bool} {c : Column} (found : t.column? column = some c)
      (shown : c.blocked = false) : LaidAs t (.isNull column negated) (.isNull c.name negated)
  | isIn {column : String} {values : List Operand} {negated : Bool} {c : Column} {ss : List Scalar}
      (found : t.column? column = some c) (shown : c.blocked = false) (valued : scalars values = .ok ss) :
      LaidAs t (.isIn column values negated) (.isIn c.name ss negated)

/-- What a condition on a single column says in words, for this name of the column. -/
inductive Worded (column : String) : Filter → String → Prop
  | compare {name : String} {op : Comparison} {value : Operand} {s : Scalar} (valued : scalar value = .ok s) :
      Worded column (.compare name op value) (column ++ " " ++ comparisonText op ++ " " ++ s.text)
  | isNull {name : String} : Worded column (.isNull name false) (column ++ " IS NULL")
  | isNotNull {name : String} : Worded column (.isNull name true) (column ++ " IS NOT NULL")
  | isIn {name : String} {values : List Operand} {ss : List Scalar} (valued : scalars values = .ok ss) :
      Worded column (.isIn name values false) (column ++ " IN (" ++ ", ".intercalate (ss.map Scalar.text) ++ ")")
  | isNotIn {name : String} {values : List Operand} {ss : List Scalar} (valued : scalars values = .ok ss) :
      Worded column (.isIn name values true) (column ++ " NOT IN (" ++ ", ".intercalate (ss.map Scalar.text) ++ ")")

/-- What a condition says of a column that the table has under the name in it, and shows. -/
def WordedFor (t : Table) (condition : Filter) (text : String) : Prop :=
  ∃ name c, condition.column? = some name ∧ t.column? name = some c ∧ c.blocked = false ∧ Worded c.name condition text

theorem LaidAs.worded {t : Table} {condition : Filter} {a : Atom} (laid : LaidAs t condition a) :
    WordedFor t condition a.text := by
  cases laid with
  | compare found shown valued => exact ⟨_, _, rfl, found, shown, .compare valued⟩
  | @isNull _ negated _ found shown => cases negated <;> exact ⟨_, _, rfl, found, shown, by constructor⟩
  | @isIn _ _ negated _ _ found shown valued =>
    cases negated
    · exact ⟨_, _, rfl, found, shown, .isIn valued⟩
    · exact ⟨_, _, rfl, found, shown, .isNotIn valued⟩

theorem LaidAs.shown {t : Table} {condition : Filter} {a : Atom} (laid : LaidAs t condition a) :
    ∃ c ∈ t.columns, c.blocked = false ∧ c.name = a.column := by
  cases laid with
  | compare found shown valued => exact ⟨_, Table.column?_mem found, shown, rfl⟩
  | isNull found shown => exact ⟨_, Table.column?_mem found, shown, rfl⟩
  | isIn found shown valued => exact ⟨_, Table.column?_mem found, shown, rfl⟩

theorem shown_of_laidAs {t : Table} {conditions : List Filter} {as : List Atom}
    (laid : List.Forall₂ (LaidAs t) conditions as) :
    ∀ a ∈ as, ∃ c ∈ t.columns, c.blocked = false ∧ c.name = a.column := by
  induction laid with
  | nil => simp
  | cons first _ ih => exact List.forall_mem_cons.mpr ⟨first.shown, ih⟩

theorem joinedTokens_conditions {t : Table} {joiner : Token} (wordless : joiner.atom? = none) {parts : List Filter}
    (each : ∀ part ∈ parts, ∀ top ts, tokens t top part = .ok ts →
      List.Forall₂ (LaidAs t) part.conditions (atoms ts)) :
    ∀ ts, joinedTokens t joiner parts = .ok ts →
      List.Forall₂ (LaidAs t) (Filter.conditionsOfAll parts) (atoms ts) := by
  induction parts with
  | nil =>
    intro ts laid
    simp only [joinedTokens, Except.ok.injEq] at laid
    subst laid
    exact .nil
  | cons part rest ih =>
    intro ts laid
    obtain ⟨first, firstLaid, others, othersLaid, rfl⟩ := joinedTokens_cons.mp laid
    rw [Filter.conditionsOfAll, List.cons_append, atoms_other wordless, atoms_append]
    exact List.rel_append (each part (by simp) false first firstLaid)
      (ih (fun other member => each other (by simp [member])) others othersLaid)

theorem groupTokens_conditions {t : Table} {top : Bool} {joiner : Token} {neutral : Bool}
    (wordless : joiner.atom? = none) {parts : List Filter}
    (each : ∀ part ∈ parts, ∀ top ts, tokens t top part = .ok ts → List.Forall₂ (LaidAs t) part.conditions (atoms ts))
    {ts : List Token} (laid : groupTokens t top joiner neutral parts = .ok ts) :
    List.Forall₂ (LaidAs t) (Filter.conditionsOfAll parts) (atoms ts) := by
  rcases groupTokens_cases laid with ⟨rfl, rfl⟩ | ⟨part, rfl, laid⟩ |
    ⟨part, rest, first, others, rfl, firstLaid, othersLaid, rfl⟩
  · exact .nil
  · simpa [Filter.conditionsOfAll] using each part (by simp) top ts laid
  · have start := each part (by simp) false first firstLaid
    have further :=
      joinedTokens_conditions wordless (fun other member => each other (by simp [member])) others othersLaid
    have both : List.Forall₂ (LaidAs t) (Filter.conditionsOfAll (part :: rest)) (atoms (first ++ others)) := by
      rw [Filter.conditionsOfAll, atoms_append]
      exact List.rel_append start further
    cases top with
    | true => exact both
    | false =>
      rw [if_neg Bool.false_ne_true, atoms_parenthesized]
      exact both

/-- The atoms of a layout are the conditions of the filter, each once and in order. -/
theorem tokens_conditions {t : Table} : ∀ (f : Filter) (top : Bool) (ts : List Token), tokens t top f = .ok ts →
    List.Forall₂ (LaidAs t) f.conditions (atoms ts) := by
  intro f
  induction f using Filter.induct with
  | and parts each =>
    intro top ts laid
    exact groupTokens_conditions rfl each (tokens_and parts ▸ laid)
  | or parts each =>
    intro top ts laid
    exact groupTokens_conditions rfl each (tokens_or parts ▸ laid)
  | not part ih =>
    intro top ts laid
    obtain ⟨inner, innerLaid, rfl⟩ := tokens_not.mp laid
    rw [atoms_negated]
    exact ih true inner innerLaid
  | compare column op value =>
    intro top ts laid
    obtain ⟨name, named, s, valued, rfl⟩ := tokens_compare.mp laid
    obtain ⟨c, found, shown, rfl⟩ := columnName_eq_ok.mp named
    exact .cons (.compare found shown valued) .nil
  | isNull column negated =>
    intro top ts laid
    obtain ⟨name, named, rfl⟩ := tokens_isNull.mp laid
    obtain ⟨c, found, shown, rfl⟩ := columnName_eq_ok.mp named
    exact .cons (.isNull found shown) .nil
  | isIn column values negated =>
    intro top ts laid
    obtain ⟨_, name, named, ss, valued, rfl⟩ := tokens_isIn.mp laid
    obtain ⟨c, found, shown, rfl⟩ := columnName_eq_ok.mp named
    exact .cons (.isIn found shown valued) .nil

theorem renderFilter_eq_ok {f : Filter} {t : Table} {text : String} :
    renderFilter f t = .ok text ↔ ∃ ts, tokens t true f = .ok ts ∧ tokensText ts = text :=
  map_eq_ok

end SchemaMutation.Sql
