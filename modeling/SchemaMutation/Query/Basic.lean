import SchemaMutation.Json.Basic

/-!
# Queries

A query is a list of selections, the first of them the root. The root says what is done to a table, and to which of
its rows by a filter; the other parts of a selection shape what is read afterwards.
-/

namespace SchemaMutation.Query

inductive Action where
  | query
  | insert
  | update
  | upsert
  | delete
deriving DecidableEq, Repr, Inhabited

def Action.name : Action → String
  | .query => "query"
  | .insert => "insert"
  | .update => "update"
  | .upsert => "upsert"
  | .delete => "delete"

inductive Comparison where
  | eq
  | ne
  | gt
  | gte
  | lt
  | lte
  | like
  | ilike
deriving DecidableEq, Repr, Inhabited

def Comparison.name : Comparison → String
  | .eq => "eq"
  | .ne => "ne"
  | .gt => "gt"
  | .gte => "gte"
  | .lt => "lt"
  | .lte => "lte"
  | .like => "like"
  | .ilike => "ilike"

/-- What a column is compared with. -/
inductive Operand where
  | var (name : String)
  | value (literal : Json)
deriving Repr, Inhabited

inductive Filter where
  | and (parts : List Filter)
  | or (parts : List Filter)
  | not (part : Filter)
  | compare (column : String) (op : Comparison) (value : Operand)
  | isNull (column : String) (negated : Bool)
  | isIn (column : String) (values : List Operand) (negated : Bool)
deriving Repr, Inhabited

structure Paging where
  limit : Option Nat
  offset : Option Nat
deriving DecidableEq, Repr, Inhabited

def Paging.unlimited : Paging := ⟨none, none⟩

structure OrderBy where
  column : String
  desc : Bool
deriving DecidableEq, Repr, Inhabited

structure Selection where
  table : String
  schema : Option String
  action : Action
  /-- The variable that holds the payload. -/
  actionVar : String
  fields : List String
  filter : Option Filter
  paging : Paging
  orderBy : List OrderBy
  distinctOn : List String
  args : List (String × Json)
deriving Repr, Inhabited

end SchemaMutation.Query

namespace SchemaMutation

structure Query where
  selections : List Query.Selection
deriving Repr, Inhabited

namespace Query

def root? (q : Query) : Option Selection := q.selections.head?

def setRoot (q : Query) (root : Selection) : Query := ⟨root :: q.selections.drop 1⟩

def Filter.equals (column : String) (value : Operand) : Filter := .compare column .eq value

namespace Selection

def reading (table : String) : Selection := ⟨table, none, .query, "", [], none, .unlimited, [], [], []⟩

def inserting (table var : String) : Selection := { reading table with action := .insert, actionVar := var }

def updating (table var : String) : Selection := { reading table with action := .update, actionVar := var }

def deleting (table : String) : Selection := { reading table with action := .delete }

def inSchema (s : Selection) (schema : String) : Selection := { s with schema := some schema }

def filtered (s : Selection) (f : Filter) : Selection := { s with filter := some f }

def limited (s : Selection) (n : Nat) : Selection := { s with paging := { s.paging with limit := some n } }

def orderedBy (s : Selection) (column : String) (desc : Bool) : Selection :=
  { s with orderBy := s.orderBy ++ [⟨column, desc⟩] }

/-- The selection without paging, order, distinct columns, filter and arguments: what is left of it once its mutation
    has been written and it only reads the result. -/
def cleared (s : Selection) : Selection :=
  { s with paging := .unlimited, orderBy := [], distinctOn := [], filter := none, args := [] }

end Selection

end Query

end SchemaMutation
