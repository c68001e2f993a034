import SchemaMutation.Error
import SchemaMutation.Json.Printer
import SchemaMutation.Query.Basic
import SchemaMutation.Schema.Table

/-!
# Buffers and predicates

A buffer holds the text that a statement is written into. It only grows at its end, and can be cut back to a length that
it had before. Lengths are counted in UTF-8 bytes. `Writing` is what may fail while it writes; what was written before a
failure stays in the buffer.

A filter becomes the text of an SQL condition in two steps. First it is laid out as a list of tokens: conditions on
single columns, the words that join them, and parentheses. Every column has to be one of the table, found without
regard to case, and must not be blocked. Then the tokens are written out.
-/

namespace SchemaMutation.Sql

structure Buffer where
  text : String
deriving DecidableEq, Repr, Inhabited

namespace Buffer

def empty : Buffer := ⟨""⟩

def push (b : Buffer) (s : String) : Buffer := ⟨b.text ++ s⟩

def quoted (b : Buffer) (name : String) : Buffer := b.push ("\"" ++ name ++ "\"")

def placeholderText (name : String) : String := "\x7b\x7b" ++ name ++ "\x7d\x7d"

def placeholder (b : Buffer) (name : String) : Buffer := b.push (placeholderText name)

def listText (items : List String) : String := ", ".intercalate items

def list (b : Buffer) (items : List String) : Buffer := b.push (listText items)

def length (b : Buffer) : Nat := b.text.utf8ByteSize

def isEmpty (b : Buffer) : Bool := b.text.isEmpty

/-- The characters that take up exactly a number of bytes, if there are such. -/
def takeBytes : Nat → List Char → Option (List Char)
  | 0, _ => some []
  | _ + 1, [] => none
  | n + 1, c :: cs => if c.utf8Size ≤ n + 1 then (takeBytes (n + 1 - c.utf8Size) cs).map (c :: ·) else none

/-- Cuts the text to a number of bytes. A length beyond the end changes nothing; one inside a character is refused. -/
def truncate? (b : Buffer) (length : Nat) : Option Buffer :=
  if b.length ≤ length then some b else (takeBytes length b.text.toList).map fun cs => ⟨String.ofList cs⟩

end Buffer

/-- What writes into a buffer and may fail. -/
abbrev Writing (α : Type) := ExceptT Error (StateM Buffer) α

def write (f : Buffer → Buffer) : Writing Unit := modify f

/-- An outcome that was reached without writing. -/
def settle {α : Type} (outcome : Except Error α) : Writing α := outcome

open Query (Filter Operand Comparison)
open Schema (Table)

inductive Scalar where
  | placeholder (name : String)
  | null
  | bool (value : Bool)
  | number (value : Json.Number)
  | string (value : String)
deriving DecidableEq, Repr

inductive Atom where
  | compare (column : String) (op : Comparison) (value : Scalar)
  | isNull (column : String) (negated : Bool)
  | isIn (column : String) (values : List Scalar) (negated : Bool)
deriving DecidableEq, Repr

inductive Token where
  | atom (a : Atom)
  | constant (value : Bool)
  | and
  | or
  | not
  | open
  | close
deriving DecidableEq, Repr

def comparisonText : Comparison → String
  | .eq => "="
  | .ne => "!="
  | .gt => ">"
  | .gte => ">="
  | .lt => "<"
  | .lte => "<="
  | .like => "LIKE"
  | .ilike => "ILIKE"

/-- A character inside a literal; a quote is written twice. -/
def literalChar (c : Char) : List Char := if c = '\'' then ['\'', '\''] else [c]

def literalText (s : String) : String := String.ofList ('\'' :: s.toList.flatMap literalChar ++ ['\''])

def Scalar.text : Scalar → String
  | .placeholder name => Buffer.placeholderText name
  | .null => "NULL"
  | .bool b => if b then "true" else "false"
  | .number n => n.text
  | .string s => literalText s

def Atom.text : Atom → String
  | .compare column op value => column ++ " " ++ comparisonText op ++ " " ++ value.text
  | .isNull column negated => column ++ (if negated then " IS NOT NULL" else " IS NULL")
  | .isIn column values negated =>
    column ++ (if negated then " NOT IN (" else " IN (") ++ Buffer.listText (values.map Scalar.text) ++ ")"

def Token.text : Token → String
  | .atom a => a.text
  | .constant b => if b then "true" else "false"
  | .and => " AND "
  | .or => " OR "
  | .not => "NOT "
  | .open => "("
  | .close => ")"

def tokensText (ts : List Token) : String := String.join (ts.map Token.text)

/-- The exact name of a column that the table has and shows. -/
def columnName (t : Table) (name : String) : Except Error String :=
  match t.column? name with
  | some c => if c.blocked then unknown else .ok c.name
  | none => unknown
where
  unknown : Except Error String := .error (.predicate (.unknownColumn name t.qualifiedName))

/-- A value to compare with; it must not be composite. -/
def scalar : Operand → Except Error Scalar
  | .var name => .ok (.placeholder name)
  | .value .null => .ok .null
  | .value (.bool b) => .ok (.bool b)
  | .value (.number n) => .ok (.number n)
  | .value (.string s) => .ok (.string s)
  | .value other => .error (.predicate (.compositeLiteral other.compact))

def scalars : List Operand → Except Error (List Scalar)
  | [] => .ok []
  | o :: os => do
    let s ← scalar o
    .ok (s :: (← scalars os))

mutual
/-- The tokens of a filter. At the top of the condition or of a parenthesis, parts stand without parentheses. -/
def tokens (t : Table) (top : Bool) : Filter → Except Error (List Token)
  | .and parts => groupTokens t top .and true parts
  | .or parts => groupTokens t top .or false parts
  | .not part => do .ok (.not :: .open :: (← tokens t true part) ++ [.close])
  | .compare column op value => do
    let name ← columnName t column
    .ok [.atom (.compare name op (← scalar value))]
  | .isNull column negated => do .ok [.atom (.isNull (← columnName t column) negated)]
  | .isIn column values negated => do
    if values.isEmpty then .error (.predicate (.noValues column))
    else
      let name ← columnName t column
      .ok [.atom (.isIn name (← scalars values) negated)]

/-- The tokens of a group. A group of one part is that part, and one without parts is the constant that joining
    nothing gives. -/
def groupTokens (t : Table) (top : Bool) (joiner : Token) (neutral : Bool) : List Filter → Except Error (List Token)
  | [] => .ok [.constant neutral]
  | [part] => tokens t top part
  | part :: next :: rest => do
    let first ← tokens t false part
    let others ← joinedTokens t joiner (next :: rest)
    .ok (if top then first ++ others else .open :: (first ++ others) ++ [.close])

/-- The tokens of the further parts of a group, the joining word before each. -/
def joinedTokens (t : Table) (joiner : Token) : List Filter → Except Error (List Token)
  | [] => .ok []
  | part :: rest => do
    let first ← tokens t false part
    .ok (joiner :: first ++ (← joinedTokens t joiner rest))
end

/-- The condition that a filter stands for. -/
def renderFilter (f : Filter) (t : Table) : Except Error String := (tokens t true f).map tokensText

end SchemaMutation.Sql
