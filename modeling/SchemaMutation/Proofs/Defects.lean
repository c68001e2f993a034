import SchemaMutation.Proofs.Conditions

/-!
# Defects of filters

Why filters are refused. The defects of a filter are those of its conditions on single columns, from left to right, and
each condition is looked at in an order of its own. A filter is rendered exactly if none of its conditions has a defect,
however deep it stands, and is refused for the first defect otherwise (`renderFilter_firstDefect`).
-/

namespace SchemaMutation

namespace Sql

open Query (Filter Operand Comparison)
open Schema (Table Column)

/-- A table finds no column under a name, or finds one that is blocked. -/
def Hidden (t : Table) (name : String) : Prop := ∀ c, t.column? name = some c → c.blocked = true

instance (t : Table) (name : String) : Decidable (Hidden t name) :=
  decidable_of_iff ((t.column? name).all (·.blocked) = true) (Option.all_eq_true ..)

inductive Composite : Json → Prop
  | array (items : List Json) : Composite (.array items)
  | object (members : List (String × Json)) : Composite (.object members)

/-- What is wrong with a condition on a single column, with the fault that is reported for it. -/
inductive Defect (t : Table) : Filter → PredicateFault → Prop
  | compareColumn {column : String} {op : Comparison} {value : Operand} (hidden : Hidden t column) :
      Defect t (.compare column op value) (.unknownColumn column t.qualifiedName)
  | compareValue {column : String} {op : Comparison} {literal : Json} (composite : Composite literal) :
      Defect t (.compare column op (.value literal)) (.compositeLiteral literal.compact)
  | isNull {column : String} {negated : Bool} (hidden : Hidden t column) :
      Defect t (.isNull column negated) (.unknownColumn column t.qualifiedName)
  | noValues {column : String} {negated : Bool} : Defect t (.isIn column [] negated) (.noValues column)
  | isInColumn {column : String} {values : List Operand} {negated : Bool} (hidden : Hidden t column) :
      Defect t (.isIn column values negated) (.unknownColumn column t.qualifiedName)
  | isInValue {column : String} {values : List Operand} {negated : Bool} {literal : Json}
      (given : .value literal ∈ values) (composite : Composite literal) :
      Defect t (.isIn column values negated) (.compositeLiteral literal.compact)

def columnDefects (t : Table) (name : String) : List PredicateFault :=
  if Hidden t name then [.unknownColumn name t.qualifiedName] else []

def operandDefects : Operand → List PredicateFault
  | .value (.array items) => [.compositeLiteral (Json.array items).compact]
  | .value (.object members) => [.compositeLiteral (Json.object members).compact]
  | _ => []

def listDefects (column : String) (values : List Operand) : List PredicateFault :=
  if values.isEmpty then [.noValues column] else []

/-- The defects of a condition on a single column: whether there are values at all, then the column, then the values one
    after the other. -/
def conditionDefects (t : Table) : Filter → List PredicateFault
  | .compare column _ value => columnDefects t column ++ operandDefects value
  | .isNull column _ => columnDefects t column
  | .isIn column values _ => listDefects column values ++ (columnDefects t column ++ values.flatMap operandDefects)
  | _ => []

def defects (t : Table) (f : Filter) : List PredicateFault := f.conditions.flatMap (conditionDefects t)

theorem mem_columnDefects {t : Table} {name : String} {fault : PredicateFault} :
    fault ∈ columnDefects t name ↔ Hidden t name ∧ fault = .unknownColumn name t.qualifiedName := by
  unfold columnDefects
  by_cases hidden : Hidden t name
  · simp [hidden]
  · simp [hidden]

theorem mem_operandDefects {o : Operand} {fault : PredicateFault} :
    fault ∈ operandDefects o ↔
      ∃ literal, o = .value literal ∧ Composite literal ∧ fault = .compositeLiteral literal.compact := by
  constructor
  · intro member
    unfold operandDefects at member
    split at member
    · exact ⟨_, rfl, .array _, List.mem_singleton.mp member⟩
    · exact ⟨_, rfl, .object _, List.mem_singleton.mp member⟩
    · cases member
  · rintro ⟨_, rfl, composite, rfl⟩
    cases composite with
    | array items => exact List.mem_singleton_self _
    | object members => exact List.mem_singleton_self _

theorem mem_listDefects {column : String} {values : List Operand} {fault : PredicateFault} :
    fault ∈ listDefects column values ↔ values = [] ∧ fault = .noValues column := by
  unfold listDefects
  cases values with
  | nil => simp
  | cons value rest => simp

theorem mem_conditionDefects {t : Table} {condition : Filter} {fault : PredicateFault} :
    fault ∈ conditionDefects t condition ↔ Defect t condition fault := by
  constructor
  · intro member
    cases condition with
    | and parts => cases member
    | or parts => cases member
    | not part => cases member
    | compare column op value =>
      rcases List.mem_append.mp member with first | second
      · obtain ⟨hidden, rfl⟩ := mem_columnDefects.mp first
        exact .compareColumn hidden
      · obtain ⟨literal, rfl, composite, rfl⟩ := mem_operandDefects.mp second
        exact .compareValue composite
    | isNull column negated =>
      obtain ⟨hidden, rfl⟩ := mem_columnDefects.mp member
      exact .isNull hidden
    | isIn column values negated =>
      rcases List.mem_append.mp member with first | later
      · obtain ⟨rfl, rfl⟩ := mem_listDefects.mp first
        exact .noValues
      rcases List.mem_append.mp later with second | third
      · obtain ⟨hidden, rfl⟩ := mem_columnDefects.mp second
        exact .isInColumn hidden
      · obtain ⟨o, given, listed⟩ := List.mem_flatMap.mp third
        obtain ⟨literal, rfl, composite, rfl⟩ := mem_operandDefects.mp listed
        exact .isInValue given composite
  · intro defect
    cases defect with
    | compareColumn hidden => exact List.mem_append_left _ (mem_columnDefects.mpr ⟨hidden, rfl⟩)
    | compareValue composite => exact List.mem_append_right _ (mem_operandDefects.mpr ⟨_, rfl, composite, rfl⟩)
    | isNull hidden => exact mem_columnDefects.mpr ⟨hidden, rfl⟩
    | noValues => exact List.mem_append_left _ (mem_listDefects.mpr ⟨rfl, rfl⟩)
    | isInColumn hidden =>
      exact List.mem_append_right _ (List.mem_append_left _ (mem_columnDefects.mpr ⟨hidden, rfl⟩))
    | isInValue given composite =>
      refine List.mem_append_right _ (List.mem_append_right _ (List.mem_flatMap.mpr ⟨_, given, ?_⟩))
      exact mem_operandDefects.mpr ⟨_, rfl, composite, rfl⟩

theorem mem_defects {t : Table} {f : Filter} {fault : PredicateFault} :
    fault ∈ defects t f ↔ ∃ condition ∈ f.conditions, Defect t condition fault := by
  simp only [defects, List.mem_flatMap, mem_conditionDefects]

theorem defects_parts (t : Table) (parts : List Filter) :
    (Filter.conditionsOfAll parts).flatMap (conditionDefects t) = parts.flatMap (defects t) := by
  rw [Filter.conditionsOfAll_eq, List.flatMap_assoc]
  rfl

section
variable {α β : Type}

/-- What meets these defects one after the other stops at the first, and comes to a result if there is none. -/
inductive Stops : List PredicateFault → Except Error α → Prop
  | never (a : α) : Stops [] (.ok a)
  | first (fault : PredicateFault) (later : List PredicateFault) : Stops (fault :: later) (.error (.predicate fault))

namespace Stops
variable {faults later : List PredicateFault} {x : Except Error α}

/-- What comes behind a step is reached only if the step has no defect. -/
theorem bind {next : α → Except Error β} (step : Stops faults x) (rest : ∀ a, Stops later (next a)) :
    Stops (faults ++ later) (x >>= next) := by
  cases step with
  | never a => exact rest a
  | first fault others => exact .first fault (others ++ later)

theorem use (step : Stops faults x) (f : α → β) : Stops faults (x >>= fun a => .ok (f a)) := by
  cases step with
  | never a => exact .never (f a)
  | first fault others => exact .first fault others

theorem error_iff (stops : Stops faults x) : (∃ e, x = .error e) ↔ ∃ fault, fault ∈ faults := by
  cases stops with
  | never a => simp
  | first fault others => exact ⟨fun _ => ⟨fault, List.mem_cons_self⟩, fun _ => ⟨_, rfl⟩⟩

theorem of_error {e : Error} (stops : Stops faults (.error e : Except Error α)) :
    ∃ fault later, faults = fault :: later ∧ e = .predicate fault := by
  cases stops with
  | first fault later => exact ⟨fault, later, rfl, rfl⟩

end Stops

end

theorem columnName_stops (t : Table) (name : String) : Stops (columnDefects t name) (columnName t name) := by
  unfold columnDefects columnName columnName.unknown
  cases found : t.column? name with
  | none =>
    rw [if_pos (by simp [Hidden, found])]
    exact .first _ []
  | some c =>
    by_cases blocked : c.blocked = true
    · rw [if_pos (by simp [Hidden, found, blocked])]
      simp only [blocked, if_true]
      exact .first _ []
    · rw [if_neg (by simp [Hidden, found, blocked])]
      simp only [blocked, Bool.false_eq_true, if_false]
      exact .never c.name

theorem scalar_stops (o : Operand) : Stops (operandDefects o) (scalar o) := by
  cases o with
  | var name => exact .never _
  | value literal =>
    cases literal with
    | array items => exact .first _ []
    | object members => exact .first _ []
    | _ => exact .never _

theorem scalars_stops (os : List Operand) : Stops (os.flatMap operandDefects) (scalars os) := by
  induction os with
  | nil => exact .never []
  | cons o os ih =>
    rw [List.flatMap_cons]
    exact (scalar_stops o).bind fun s => ih.use (s :: ·)

section
variable {t : Table}

theorem joinedTokens_stops (joiner : Token) {parts : List Filter}
    (each : ∀ part ∈ parts, ∀ top, Stops (defects t part) (tokens t top part)) :
    Stops (parts.flatMap (defects t)) (joinedTokens t joiner parts) := by
  induction parts with
  | nil =>
    rw [joinedTokens]
    exact .never []
  | cons part rest ih =>
    obtain ⟨first, others⟩ := List.forall_mem_cons.mp each
    rw [joinedTokens, List.flatMap_cons]
    exact (first false).bind fun ts => (ih others).use (joiner :: ts ++ ·)

theorem groupTokens_stops (top : Bool) (joiner : Token) (neutral : Bool) {parts : List Filter}
    (each : ∀ part ∈ parts, ∀ top, Stops (defects t part) (tokens t top part)) :
    Stops (parts.flatMap (defects t)) (groupTokens t top joiner neutral parts) := by
  rcases parts with _ | ⟨part, _ | ⟨next, rest⟩⟩
  · rw [groupTokens]
    exact .never _
  · rw [groupTokens, List.flatMap_singleton]
    exact each part (by simp) top
  · obtain ⟨first, others⟩ := List.forall_mem_cons.mp each
    rw [groupTokens, List.flatMap_cons]
    exact (first false).bind fun ts => (joinedTokens_stops joiner others).use fun us =>
      if top then ts ++ us else .open :: (ts ++ us) ++ [.close]

/-- The layout of a filter stops at its first defect. -/
theorem tokens_stops (f : Filter) : ∀ top, Stops (defects t f) (tokens t top f) := by
  induction f using Filter.induct with
  | and parts each =>
    intro top
    rw [tokens_and, defects, Filter.conditions, defects_parts]
    exact groupTokens_stops top .and true each
  | or parts each =>
    intro top
    rw [tokens_or, defects, Filter.conditions, defects_parts]
    exact groupTokens_stops top .or false each
  | not part ih =>
    intro top
    rw [tokens, defects, Filter.conditions]
    exact (ih true).use fun ts => .not :: .open :: ts ++ [.close]
  | compare column op value =>
    intro top
    rw [tokens, defects, Filter.conditions, List.flatMap_singleton]
    exact (columnName_stops t column).bind fun name => (scalar_stops value).use fun s =>
      [Token.atom (.compare name op s)]
  | isNull column negated =>
    intro top
    rw [tokens, defects, Filter.conditions, List.flatMap_singleton]
    exact (columnName_stops t column).use fun name => [Token.atom (.isNull name negated)]
  | isIn column values negated =>
    intro top
    rw [tokens, defects, Filter.conditions, List.flatMap_singleton, conditionDefects, listDefects]
    by_cases none : values.isEmpty = true
    · rw [if_pos none, if_pos none]
      exact .first _ _
    · rw [if_neg none, if_neg none, List.nil_append]
      exact (columnName_stops t column).bind fun name => (scalars_stops values).use fun ss =>
        [Token.atom (.isIn name ss negated)]

end

theorem renderFilter_stops (f : Filter) (t : Table) : Stops (defects t f) (renderFilter f t) :=
  (tokens_stops f true).use tokensText

/-- A filter is refused exactly if one of its conditions, at whatever depth, has a defect, and then for the first defect
    from left to right. Groups without parts are conditions that always or never hold. -/
theorem renderFilter_firstDefect (f : Filter) (t : Table) :
    ((∃ e, renderFilter f t = .error e) ↔ ∃ condition ∈ f.conditions, ∃ fault, Defect t condition fault) ∧
    (∀ e, renderFilter f t = .error e → ∃ fault later, defects t f = fault :: later ∧ e = .predicate fault) ∧
    renderFilter (.and []) t = .ok "true" ∧ renderFilter (.or []) t = .ok "false" := by
  refine ⟨?_, ?_, rfl, rfl⟩
  · simp only [(renderFilter_stops f t).error_iff, mem_defects]
    constructor
    · rintro ⟨fault, condition, within, defect⟩
      exact ⟨condition, within, fault, defect⟩
    · rintro ⟨condition, within, fault, defect⟩
      exact ⟨fault, condition, within, defect⟩
  · intro e refused
    have stops := renderFilter_stops f t
    rw [refused] at stops
    exact stops.of_error

end Sql

end SchemaMutation
