import SchemaMutation.Proofs.Visibility

/-!
# Pieces

The text of a statement in pieces: text of its own, variables that are bound later, and string literals. The variables
and the literals are those of the query, each once and in order (`tokens_marks`, `Compiler.Stated.exists_pieces`).
-/

namespace SchemaMutation

namespace Decimal

def isNumeric (c : Char) : Bool := c.isDigit || c ∈ ['-', '+', '.', 'e']

theorem numeric_toDigits (n : Nat) : ∀ c ∈ Nat.toDigits 10 n, isNumeric c = true := fun c member => by
  rw [isNumeric, Nat.isDigit_of_mem_toDigits (by omega) (by omega) member, Bool.true_or]

theorem numeric_zeros (n : Nat) : ∀ c ∈ List.replicate n '0', isNumeric c = true := fun c member => by
  rw [List.eq_of_mem_replicate member]
  rfl

theorem Digits.numeric_chars (d : Digits) : ∀ c ∈ d.chars, isNumeric c = true :=
  List.forall_mem_append.mpr ⟨numeric_zeros _, numeric_toDigits _⟩

theorem Digits.numeric_positional (d : Digits) : ∀ c ∈ d.positional, isNumeric c = true := by
  have digits := d.numeric_chars
  simp only [positional]
  split_ifs
  · simp only [List.cons_append, List.forall_mem_cons, List.forall_mem_append]
    exact ⟨rfl, rfl, numeric_zeros _, digits⟩
  · simp only [List.forall_mem_append, List.forall_mem_cons]
    exact ⟨⟨digits, numeric_zeros _⟩, rfl, rfl, nofun⟩
  · simp only [List.forall_mem_append, List.forall_mem_cons]
    exact ⟨fun c member => digits c (List.mem_of_mem_take member), rfl,
      fun c member => digits c (List.mem_of_mem_drop member)⟩

theorem Digits.numeric_scientific (d : Digits) : ∀ c ∈ d.scientific, isNumeric c = true := by
  have digits := d.numeric_chars
  have sign (negative : Prop) [Decidable negative] : isNumeric (if negative then '-' else '+') = true := by
    split <;> rfl
  simp only [scientific, List.forall_mem_append, List.forall_mem_cons]
  refine ⟨?_, rfl, sign _, numeric_toDigits _⟩
  generalize d.chars = cs at digits
  rcases cs with _ | ⟨c, _ | ⟨e, cs⟩⟩
  · exact digits
  · exact digits
  · obtain ⟨first, rest⟩ := List.forall_mem_cons.mp digits
    exact List.forall_mem_cons.mpr ⟨first, List.forall_mem_cons.mpr ⟨rfl, rest⟩⟩

theorem Notation.numeric_write (n : Notation) (x : Binary64) : ∀ c ∈ (n.write x).toList, isNumeric c = true := by
  simp only [write, String.toList_ofList]
  have body : ∀ c ∈ if x.isZero || n.positional (shortest x).point then (shortest x).positional
      else (shortest x).scientific, isNumeric c = true := by
    split
    · exact Digits.numeric_positional _
    · exact Digits.numeric_scientific _
  split
  · exact List.forall_mem_cons.mpr ⟨rfl, body⟩
  · exact body

end Decimal

theorem Json.Number.numeric_text (n : Json.Number) : ∀ c ∈ n.text.toList, Decimal.isNumeric c = true := by
  cases n with
  | double x => exact Json.doubleNotation.numeric_write x
  | int i =>
    cases i with
    | ofNat m => simpa [text, Int.repr] using Decimal.numeric_toDigits m
    | negSucc m =>
      have sign : Decimal.isNumeric '-' = true := rfl
      simpa [text, Int.repr, sign] using Decimal.numeric_toDigits (m + 1)

namespace Sql

open Query (Action Filter Operand Selection)
open Schema (Table Snapshot)

theorem literal_chars (value : String) :
    (literalText value).toList = '\'' :: value.toList.flatMap literalChar ++ ['\''] := by
  simp [literalText]

inductive Piece where
  | plain (text : String)
  | placeholder (name : String)
  | literal (value : String)
deriving DecidableEq, Repr

namespace Piece

def text : Piece → String
  | .plain text => text
  | .placeholder name => Buffer.placeholderText name
  | .literal value => literalText value

@[simp] theorem text_plain (text : String) : (plain text).text = text := rfl

@[simp] theorem text_placeholder (name : String) : (placeholder name).text = Buffer.placeholderText name := rfl

@[simp] theorem text_literal (value : String) : (literal value).text = literalText value := rfl

def isMark : Piece → Bool
  | .plain _ => false
  | _ => true

end Piece

def written (ps : List Piece) : String := String.join (ps.map Piece.text)

@[simp] theorem written_nil : written [] = "" := rfl

@[simp] theorem written_cons (p : Piece) (ps : List Piece) : written (p :: ps) = p.text ++ written ps :=
  String.join_cons

@[simp] theorem written_append (ps qs : List Piece) : written (ps ++ qs) = written ps ++ written qs := by
  simp [written, String.join_append]

def marks (ps : List Piece) : List Piece := ps.filter Piece.isMark

@[simp] theorem marks_nil : marks [] = [] := rfl

@[simp] theorem marks_plain (text : String) (ps : List Piece) : marks (.plain text :: ps) = marks ps := rfl

@[simp] theorem marks_placeholder (name : String) (ps : List Piece) :
    marks (.placeholder name :: ps) = .placeholder name :: marks ps := rfl

@[simp] theorem marks_literal (value : String) (ps : List Piece) :
    marks (.literal value :: ps) = .literal value :: marks ps := rfl

@[simp] theorem marks_append (ps qs : List Piece) : marks (ps ++ qs) = marks ps ++ marks qs := by
  simp [marks]

def Scalar.piece : Scalar → Piece
  | .placeholder name => .placeholder name
  | .string s => .literal s
  | other => .plain other.text

def listed (ps : List Piece) : List Piece := ps.intersperse (.plain ", ")

def Atom.pieces : Atom → List Piece
  | .compare column op value => [.plain (column ++ " " ++ comparisonText op ++ " "), value.piece]
  | .isNull column negated => [.plain (column ++ if negated then " IS NOT NULL" else " IS NULL")]
  | .isIn column values negated =>
    .plain (column ++ if negated then " NOT IN (" else " IN (") :: listed (values.map Scalar.piece) ++ [.plain ")"]

def Token.pieces : Token → List Piece
  | .atom a => a.pieces
  | other => [.plain other.text]

def tokensPieces (ts : List Token) : List Piece := ts.flatMap Token.pieces

@[simp] theorem Scalar.piece_text (s : Scalar) : s.piece.text = s.text := by
  cases s <;> rfl

theorem written_listed (ps : List Piece) : written (listed ps) = Buffer.listText (ps.map Piece.text) := by
  rw [listed, Buffer.listText]
  induction ps with
  | nil => rfl
  | cons p ps ih =>
    cases ps with
    | nil => simp
    | cons q ps =>
      simp only [List.intersperse_cons_cons, written_cons, List.map_cons, String.intercalate_cons_cons, ih]
      simp [String.append_assoc]

theorem Atom.written_pieces (a : Atom) : written a.pieces = a.text := by
  cases a with
  | compare column op value => simp [pieces, text, String.append_assoc]
  | isNull column negated => simp [pieces, text]
  | isIn column values negated =>
    have values : (values.map Scalar.piece).map Piece.text = values.map Scalar.text := by simp [Function.comp_def]
    simp only [pieces, text, List.cons_append, written_cons, written_append, written_listed, values,
      Piece.text_plain, written_nil, String.append_empty, String.append_assoc]

theorem written_tokens (ts : List Token) : written (tokensPieces ts) = tokensText ts := by
  induction ts with
  | nil => rfl
  | cons token ts ih =>
    have first : written token.pieces = token.text := by
      cases token with
      | atom a => exact a.written_pieces
      | _ => simp [Token.pieces]
    have rest : tokensText (token :: ts) = token.text ++ tokensText ts := String.join_cons
    rw [rest, tokensPieces, List.flatMap_cons, written_append, first]
    exact congrArg (token.text ++ ·) ih

/-- What is written for an operand, if it is a variable or a string. -/
def mark? : Operand → Option Piece
  | .var name => some (.placeholder name)
  | .value (.string s) => some (.literal s)
  | .value _ => none

theorem scalar_mark {o : Operand} {s : Scalar} (valued : scalar o = .ok s) : marks [s.piece] = (mark? o).toList := by
  cases o with
  | var name =>
    cases valued
    rfl
  | value literal =>
    cases literal with
    | array items => cases valued
    | object members => cases valued
    | _ =>
      cases valued
      rfl

theorem scalars_marks {os : List Operand} {ss : List Scalar} (valued : scalars os = .ok ss) :
    marks (ss.map Scalar.piece) = os.filterMap mark? := by
  induction os generalizing ss with
  | nil =>
    cases valued
    rfl
  | cons o os ih =>
    simp only [scalars, bind_eq_ok, Except.ok.injEq] at valued
    obtain ⟨s, first, rest, others, rfl⟩ := valued
    rw [List.map_cons, ← List.singleton_append, marks_append, scalar_mark first, ih others, List.filterMap_cons]
    cases mark? o <;> rfl

theorem marks_listed (ps : List Piece) : marks (listed ps) = marks ps := by
  rw [listed]
  induction ps with
  | nil => rfl
  | cons p ps ih =>
    cases ps with
    | nil => rfl
    | cons q ps =>
      rw [List.intersperse_cons_cons, ← List.singleton_append, marks_append, marks_plain, ih, ← marks_append]
      rfl

theorem LaidAs.marks {t : Table} {condition : Filter} {a : Atom} (laid : LaidAs t condition a) :
    marks a.pieces = condition.ownOperands.filterMap mark? := by
  cases laid with
  | @compare _ _ value _ _ _ _ valued =>
    rw [Atom.pieces, marks_plain, scalar_mark valued, Filter.ownOperands, List.filterMap_cons]
    cases mark? value <;> rfl
  | isNull => rfl
  | isIn _ _ valued =>
    rw [Atom.pieces, List.cons_append, marks_plain, marks_append, marks_listed, scalars_marks valued, marks_plain,
      marks_nil, List.append_nil, Filter.ownOperands]

theorem marks_tokens (ts : List Token) : marks (tokensPieces ts) = (atoms ts).flatMap (marks ·.pieces) := by
  induction ts with
  | nil => rfl
  | cons token ts ih =>
    rw [tokensPieces, List.flatMap_cons, marks_append]
    cases token with
    | atom a => exact congrArg (marks a.pieces ++ ·) ih
    | _ => exact ih

/-- A filter is laid out with the variables and the literals of its operands, each once and in order. -/
theorem tokens_marks {t : Table} {f : Filter} {ts : List Token} (laid : tokens t true f = .ok ts) :
    marks (tokensPieces ts) = f.operands.filterMap mark? := by
  rw [marks_tokens, Filter.operands]
  have laidAs := tokens_conditions f true ts laid
  generalize atoms ts = as at laidAs ⊢
  generalize f.conditions = conditions at laidAs ⊢
  induction laidAs with
  | nil => rfl
  | cons first _ ih => rw [List.flatMap_cons, List.flatMap_cons, List.filterMap_append, first.marks, ih]

/-- The change of a table in pieces, given those of the condition on its rows. -/
def Change.pieces (target : String) (condition : List Piece) : Change → List Piece
  | .insert var columns batch => [
      .plain ("WITH " ++ Buffer.quotedText "input" ++ " AS (SELECT "), .placeholder var,
      .plain ("::json AS j)" ++ " INSERT INTO " ++ target ++ " (" ++ Buffer.listText columns ++ ") SELECT " ++
        Buffer.listText columns ++ " FROM input i, " ++ expandText target batch)]
  | .update var columns batch _ => [
      .plain ("WITH " ++ Buffer.quotedText "input" ++ " AS (SELECT "), .placeholder var,
      .plain ("::json AS j)" ++ " UPDATE " ++ target ++ " SET (" ++ Buffer.listText columns ++ ") = (SELECT " ++
        Buffer.listText columns ++ " FROM input i, " ++ expandText target batch ++ ") WHERE ")] ++ condition
  | .delete _ => .plain ("DELETE FROM " ++ target ++ " WHERE ") :: condition

def Statement.pieces (st : Statement) (condition : List Piece) : List Piece :=
  .plain ("WITH " ++ Buffer.quotedText st.name ++ " AS (") :: st.change.pieces st.target condition ++
    [.plain " RETURNING *) "]

theorem Statement.written_pieces {st : Statement} {condition : List Piece}
    (conditioned : ∀ text, st.change.condition? = some text → written condition = text) :
    written (st.pieces condition) = st.text := by
  obtain ⟨name, target, change⟩ := st
  cases change with
  | insert var columns batch =>
    simp only [pieces, Change.pieces, text, Change.text, inputText, written_cons, written_nil, List.cons_append,
      List.nil_append, Piece.text_plain, Piece.text_placeholder, String.append_assoc, String.append_empty]
  | update var columns batch text =>
    simp only [pieces, Change.pieces, Statement.text, Change.text, inputText, written_cons, written_append, written_nil,
      List.cons_append, List.nil_append, Piece.text_plain, Piece.text_placeholder, String.append_assoc,
      String.append_empty, conditioned text rfl]
  | delete text =>
    simp only [pieces, Change.pieces, Statement.text, Change.text, written_cons, written_append, written_nil,
      List.cons_append, Piece.text_plain, String.append_assoc, String.append_empty, conditioned text rfl]

def filterMarks (root : Selection) : List Piece := (root.filter.elim [] Filter.operands).filterMap mark?

/-- What is written for the variables and the strings of a root. An insertion has a variable for its payload and no
    condition, a deletion a condition and no payload. -/
def rootMarks (root : Selection) : List Piece :=
  match root.action with
  | .insert => [.placeholder root.actionVar]
  | .update => .placeholder root.actionVar :: filterMarks root
  | _ => filterMarks root

/-- Every statement over a table comes in pieces, of which the variables and the literals are those of the root, while
    the conditions on its rows are about columns that the table has and shows. -/
theorem Compiler.Stated.exists_pieces {s : Snapshot} {root : Selection} {vars : Variables} {st : Statement}
    (stated : (Compiler.standard s).Stated root vars st) :
    ∃ t ts, (Compiler.standard s).Concerns root st t ∧ written (st.pieces (tokensPieces ts)) = st.text ∧
      marks (st.pieces (tokensPieces ts)) = rootMarks root ∧
      ∀ a ∈ atoms ts, ∃ c ∈ t.columns, c.blocked = false ∧ c.name = a.column := by
  obtain ⟨t, concerns⟩ := stated.concerns
  cases stated with
  | insert action =>
    refine ⟨t, [], concerns, Statement.written_pieces (by simp [Change.condition?]), ?_, by simp⟩
    simp only [rootMarks, action]
    rfl
  | update action =>
    obtain ⟨f, ts, filtered, laid, rfl⟩ := concerns.laid rfl
    refine ⟨t, ts, concerns, Statement.written_pieces (by simp [Change.condition?, written_tokens]), ?_, ?_⟩
    · simp [rootMarks, action, filterMarks, filtered, Statement.pieces, Change.pieces, tokens_marks laid]
    · exact shown_of_laidAs (tokens_conditions f true ts laid)
  | delete action =>
    obtain ⟨f, ts, filtered, laid, rfl⟩ := concerns.laid rfl
    refine ⟨t, ts, concerns, Statement.written_pieces (by simp [Change.condition?, written_tokens]), ?_, ?_⟩
    · simp [rootMarks, action, filterMarks, filtered, Statement.pieces, Change.pieces, tokens_marks laid]
    · exact shown_of_laidAs (tokens_conditions f true ts laid)

end Sql

end SchemaMutation
