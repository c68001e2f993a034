import SchemaMutation.Proofs.Conditions

/-!
# The grammar of conditions

How SQL reads the text of a condition in which the conditions on single columns are taken as a whole: `NOT` binds
tighter than `AND`, and `AND` tighter than `OR`. A text has at most one reading (`reads_unique`), because a scan that
keeps what stands open finds it (`reads_scanned`). A reading has a truth value for all truth values of its atoms.
-/

namespace SchemaMutation.Sql

inductive Truth where
  | holds
  | fails
  | unknown
deriving DecidableEq, Repr

namespace Truth

def ofBool : Bool → Truth
  | true => .holds
  | false => .fails

def not : Truth → Truth
  | .holds => .fails
  | .fails => .holds
  | .unknown => .unknown

def and : Truth → Truth → Truth
  | .fails, _ => .fails
  | _, .fails => .fails
  | .holds, .holds => .holds
  | _, _ => .unknown

def or : Truth → Truth → Truth
  | .holds, _ => .holds
  | _, .holds => .holds
  | .fails, .fails => .fails
  | _, _ => .unknown

theorem and_holds (a : Truth) : a.and .holds = a := by cases a <;> rfl

theorem or_fails (a : Truth) : a.or .fails = a := by cases a <;> rfl

theorem and_assoc (a b c : Truth) : (a.and b).and c = a.and (b.and c) := by cases a <;> cases b <;> cases c <;> rfl

theorem or_assoc (a b c : Truth) : (a.or b).or c = a.or (b.or c) := by cases a <;> cases b <;> cases c <;> rfl

end Truth

/-- A part of the text of a condition: a character, or the whole text of a condition on a single column. -/
inductive Part where
  | char (c : Char)
  | condition (text : String)
deriving DecidableEq, Repr

def Part.chars : Part → List Char
  | .char c => [c]
  | .condition text => text.toList

def Part.condition? : Part → Option String
  | .char _ => none
  | .condition text => some text

def partsText (ps : List Part) : String := String.ofList (ps.flatMap Part.chars)

def word (s : String) : List Part := s.toList.map .char

theorem partsText_append (ps qs : List Part) : partsText (ps ++ qs) = partsText ps ++ partsText qs := by
  rw [partsText, List.flatMap_append, String.ofList_append]
  rfl

theorem partsText_word (s : String) : partsText (word s) = s := by
  have chars (cs : List Char) : (cs.map Part.char).flatMap Part.chars = cs := by
    induction cs with
    | nil => rfl
    | cons c cs ih => exact congrArg (c :: ·) ih
  rw [partsText, word, chars, String.ofList_toList]

theorem conditions_word (s : String) : (word s).filterMap Part.condition? = [] := by
  simp [word, Part.condition?]

/-- What the text of a condition says. -/
inductive Formula where
  | atom (text : String)
  | constant (value : Bool)
  | and (left right : Formula)
  | or (left right : Formula)
  | not (body : Formula)
deriving DecidableEq, Repr

namespace Formula

def atoms : Formula → List String
  | .atom text => [text]
  | .constant _ => []
  | .and left right => left.atoms ++ right.atoms
  | .or left right => left.atoms ++ right.atoms
  | .not body => body.atoms

/-- The truth value, given that of every atom by its place. `place` is that of the first atom of the formula. -/
def value (v : Nat → Truth) (place : Nat) : Formula → Truth
  | .atom _ => v place
  | .constant b => .ofBool b
  | .and left right => (left.value v place).and (right.value v (place + left.atoms.length))
  | .or left right => (left.value v place).or (right.value v (place + left.atoms.length))
  | .not body => (body.value v place).not

end Formula

/-- How tightly a part of a condition binds. -/
inductive Level where
  | expression
  | term
  | factor
  | primary
deriving DecidableEq, Repr

/-- A text reads at a level as a formula. -/
inductive Reads : Level → List Part → Formula → Prop
  | atom (text : String) : Reads .primary [.condition text] (.atom text)
  | constant (b : Bool) : Reads .primary (word (if b then "true" else "false")) (.constant b)
  | parenthesis {ps : List Part} {e : Formula} (inner : Reads .expression ps e) :
      Reads .primary (word "(" ++ ps ++ word ")") e
  | primary {ps : List Part} {e : Formula} (single : Reads .primary ps e) : Reads .factor ps e
  | not {ps : List Part} {e : Formula} (body : Reads .factor ps e) : Reads .factor (word "NOT " ++ ps) (.not e)
  | factor {ps : List Part} {e : Formula} (single : Reads .factor ps e) : Reads .term ps e
  | and {ls rs : List Part} {l r : Formula} (left : Reads .term ls l) (right : Reads .factor rs r) :
      Reads .term (ls ++ word " AND " ++ rs) (.and l r)
  | term {ps : List Part} {e : Formula} (single : Reads .term ps e) : Reads .expression ps e
  | or {ls rs : List Part} {l r : Formula} (left : Reads .expression ls l) (right : Reads .term rs r) :
      Reads .expression (ls ++ word " OR " ++ rs) (.or l r)

theorem Reads.atoms_eq {level : Level} {ps : List Part} {e : Formula} (reads : Reads level ps e) :
    e.atoms = ps.filterMap Part.condition? := by
  induction reads with
  | atom text => rfl
  | constant b => exact (conditions_word _).symm
  | parenthesis _ ih => simp [conditions_word, ih]
  | primary _ ih => exact ih
  | not _ ih => simp [Formula.atoms, conditions_word, ih]
  | factor _ ih => exact ih
  | and _ _ ihl ihr => simp [Formula.atoms, conditions_word, ihl, ihr]
  | term _ ih => exact ih
  | or _ _ ihl ihr => simp [Formula.atoms, conditions_word, ihl, ihr]

/-- What a scan meets: an atom, a constant, a word or a parenthesis. -/
inductive Symbol where
  | atom (text : String)
  | constant (value : Bool)
  | and
  | or
  | not
  | open
  | close

def symbols? : List Part → Option (List Symbol)
  | [] => some []
  | .condition text :: ps => (symbols? ps).map (.atom text :: ·)
  | .char 't' :: .char 'r' :: .char 'u' :: .char 'e' :: ps => (symbols? ps).map (.constant true :: ·)
  | .char 'f' :: .char 'a' :: .char 'l' :: .char 's' :: .char 'e' :: ps => (symbols? ps).map (.constant false :: ·)
  | .char ' ' :: .char 'A' :: .char 'N' :: .char 'D' :: .char ' ' :: ps => (symbols? ps).map (.and :: ·)
  | .char ' ' :: .char 'O' :: .char 'R' :: .char ' ' :: ps => (symbols? ps).map (.or :: ·)
  | .char 'N' :: .char 'O' :: .char 'T' :: .char ' ' :: ps => (symbols? ps).map (.not :: ·)
  | .char '(' :: ps => (symbols? ps).map (.open :: ·)
  | .char ')' :: ps => (symbols? ps).map (.close :: ·)
  | _ => none

/-- The parts are these symbols, whatever stands behind them. -/
def Spells (ps : List Part) (ss : List Symbol) : Prop := ∀ rest, symbols? (ps ++ rest) = (symbols? rest).map (ss ++ ·)

theorem Spells.append {ps qs : List Part} {ss us : List Symbol} (first : Spells ps ss) (second : Spells qs us) :
    Spells (ps ++ qs) (ss ++ us) := by
  intro rest
  rw [List.append_assoc, first, second, Option.map_map]
  congr 1
  funext more
  exact (List.append_assoc ss us more).symm

theorem Spells.unique {ps : List Part} {ss us : List Symbol} (spells : Spells ps ss) (others : Spells ps us) :
    us = ss := by
  have same := (others []).symm.trans (spells [])
  simpa [symbols?] using same

theorem spells_atom (text : String) : Spells [.condition text] [.atom text] := fun _ => rfl

theorem spells_constant (b : Bool) : Spells (word (if b then "true" else "false")) [.constant b] := by
  cases b <;> exact fun _ => rfl

theorem spells_and : Spells (word " AND ") [.and] := fun _ => rfl

theorem spells_or : Spells (word " OR ") [.or] := fun _ => rfl

theorem spells_not : Spells (word "NOT ") [.not] := fun _ => rfl

theorem spells_open : Spells (word "(") [.open] := fun _ => rfl

theorem spells_close : Spells (word ")") [.close] := fun _ => rfl

/-- What the next operand will be joined with, inside one parenthesis. -/
structure Pending where
  disjunct : Option Formula
  conjunct : Option Formula
  negations : Nat

def Pending.blank : Pending := ⟨none, none, 0⟩

def joined (join : Formula → Formula → Formula) : Option Formula → Formula → Formula
  | none, e => e
  | some before, e => join before e

def negated : Nat → Formula → Formula
  | 0, e => e
  | n + 1, e => negated n (.not e)

/-- What is read when the parenthesis ends behind an operand. -/
def Pending.complete (p : Pending) (operand : Formula) : Formula :=
  joined .or p.disjunct (joined .and p.conjunct operand)

/-- Where a scan stands: before an operand or behind one, with what is pending in the parentheses around. -/
inductive Scan where
  | wanting (outer : List Pending) (p : Pending)
  | holding (outer : List Pending) (p : Pending) (operand : Formula)

namespace Scan

def took (outer : List Pending) (p : Pending) (e : Formula) : Scan :=
  .holding outer ⟨p.disjunct, p.conjunct, 0⟩ (negated p.negations e)

def step : Scan → Symbol → Option Scan
  | .wanting outer p, .atom text => some (took outer p (.atom text))
  | .wanting outer p, .constant b => some (took outer p (.constant b))
  | .wanting outer p, .not => some (.wanting outer ⟨p.disjunct, p.conjunct, p.negations + 1⟩)
  | .wanting outer p, .open => some (.wanting (p :: outer) .blank)
  | .holding outer p e, .and => some (.wanting outer ⟨p.disjunct, some (joined .and p.conjunct e), 0⟩)
  | .holding outer p e, .or => some (.wanting outer ⟨some (p.complete e), none, 0⟩)
  | .holding (p' :: outer) p e, .close => some (took outer p' (p.complete e))
  | _, _ => none

def run (s : Scan) (ss : List Symbol) : Option Scan := ss.foldlM step s

theorem run_cons (s : Scan) (symbol : Symbol) (ss : List Symbol) :
    s.run (symbol :: ss) = (s.step symbol).bind (·.run ss) := rfl

theorem run_append (s : Scan) (ss us : List Symbol) : s.run (ss ++ us) = (s.run ss).bind (·.run us) :=
  List.foldlM_append

end Scan

/-- How a scan passes over symbols that read as a formula: a factor is one operand, a term leaves conjuncts pending, and
    an expression disjuncts too. -/
def Scanned (ss : List Symbol) (e : Formula) : Level → Prop
  | .primary => ∀ outer p, (Scan.wanting outer p).run ss = some (Scan.took outer p e)
  | .factor => ∀ outer p, (Scan.wanting outer p).run ss = some (Scan.took outer p e)
  | .term => ∀ outer disjunct, ∃ conjunct operand, joined .and conjunct operand = e ∧
      (Scan.wanting outer ⟨disjunct, none, 0⟩).run ss = some (.holding outer ⟨disjunct, conjunct, 0⟩ operand)
  | .expression => ∀ outer, ∃ p operand, p.complete operand = e ∧
      (Scan.wanting outer .blank).run ss = some (.holding outer p operand)

theorem reads_scanned {level : Level} {ps : List Part} {e : Formula} (reads : Reads level ps e) :
    ∃ ss, Spells ps ss ∧ Scanned ss e level := by
  -- By induction on the reading: what a scan has pending around a part is left as it was.
  induction reads with
  | atom text => exact ⟨_, spells_atom text, fun _ _ => rfl⟩
  | constant b => exact ⟨_, spells_constant b, fun _ _ => rfl⟩
  | parenthesis _ ih =>
    obtain ⟨ss, spells, scanned⟩ := ih
    refine ⟨_, (spells_open.append spells).append spells_close, fun outer p => ?_⟩
    obtain ⟨inside, operand, rfl, passed⟩ := scanned (p :: outer)
    rw [List.append_assoc, List.singleton_append, Scan.run_cons]
    simp only [Scan.step, Option.bind_some, Scan.run_append, passed]
    rfl
  | primary _ ih => exact ih
  | not _ ih =>
    obtain ⟨ss, spells, scanned⟩ := ih
    refine ⟨_, spells_not.append spells, fun outer p => ?_⟩
    rw [List.singleton_append, Scan.run_cons]
    exact scanned outer ⟨p.disjunct, p.conjunct, p.negations + 1⟩
  | factor _ ih =>
    obtain ⟨ss, spells, scanned⟩ := ih
    exact ⟨ss, spells, fun outer disjunct => ⟨none, _, rfl, scanned outer ⟨disjunct, none, 0⟩⟩⟩
  | and _ _ ihl ihr =>
    obtain ⟨ls, spellsLeft, left⟩ := ihl
    obtain ⟨rs, spellsRight, right⟩ := ihr
    refine ⟨_, (spellsLeft.append spells_and).append spellsRight, fun outer disjunct => ?_⟩
    obtain ⟨conjunct, operand, rfl, passed⟩ := left outer disjunct
    -- the conjuncts on the left are pending when the right-hand side is scanned
    refine ⟨some (joined .and conjunct operand), _, rfl, ?_⟩
    rw [List.append_assoc, Scan.run_append, passed, Option.bind_some, List.singleton_append, Scan.run_cons]
    exact right outer ⟨disjunct, some (joined .and conjunct operand), 0⟩
  | term _ ih =>
    obtain ⟨ss, spells, scanned⟩ := ih
    refine ⟨ss, spells, fun outer => ?_⟩
    obtain ⟨conjunct, operand, rfl, passed⟩ := scanned outer none
    exact ⟨⟨none, conjunct, 0⟩, operand, rfl, passed⟩
  | or _ _ ihl ihr =>
    obtain ⟨ls, spellsLeft, left⟩ := ihl
    obtain ⟨rs, spellsRight, right⟩ := ihr
    refine ⟨_, (spellsLeft.append spells_or).append spellsRight, fun outer => ?_⟩
    obtain ⟨p, operand, rfl, passedLeft⟩ := left outer
    obtain ⟨conjunct, last, rfl, passedRight⟩ := right outer (some (p.complete operand))
    refine ⟨⟨some (p.complete operand), conjunct, 0⟩, last, rfl, ?_⟩
    rw [List.append_assoc, Scan.run_append, passedLeft, Option.bind_some, List.singleton_append, Scan.run_cons]
    exact passedRight

/-- The grammar is unambiguous. -/
theorem reads_unique {ps : List Part} {e e' : Formula} (reads : Reads .expression ps e)
    (others : Reads .expression ps e') : e' = e := by
  obtain ⟨ss, spells, scanned⟩ := reads_scanned reads
  obtain ⟨us, spells', scanned'⟩ := reads_scanned others
  obtain rfl := spells.unique spells'
  obtain ⟨p, operand, rfl, passed⟩ := scanned []
  obtain ⟨p', operand', rfl, passed'⟩ := scanned' []
  rw [passed] at passed'
  cases passed'
  rfl

end SchemaMutation.Sql
