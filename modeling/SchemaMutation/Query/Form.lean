import SchemaMutation.Json.Printer
import SchemaMutation.Json.Record
import SchemaMutation.Query.Basic

/-!
# The written form of queries

How queries, selections and filters are written as JSON and read from it. Everything is always written; when a query is
read, all but the tables and the columns have defaults.
-/

namespace SchemaMutation.Query

open Json (Reader Record Variant)

def Action.read : Reader Action := Json.readVariant <|
  [Action.query, .insert, .update, .upsert, .delete].map fun a => Variant.unit a.name a

def Comparison.read : Reader Comparison := Json.readVariant <|
  [Comparison.eq, .ne, .gt, .gte, .lt, .lte, .like, .ilike].map fun c => Variant.unit c.name c

def Paging.record : Record Paging where
  wanted := "struct Paging"
  types := [Option Nat, Option Nat]
  fields :=
    .cons (.defaulting "limit" (Json.readOption Json.readUnsigned64) none) <|
    .cons (.defaulting "offset" (Json.readOption Json.readUnsigned64) none) .nil
  make := fun (limit, offset, _) => ⟨limit, offset⟩

def OrderBy.record : Record OrderBy where
  wanted := "struct OrderBy"
  types := [String, Bool]
  fields :=
    .cons (.required "column" Json.readString) <|
    .cons (.defaulting "desc" Json.readBool false) .nil
  make := fun (column, desc, _) => ⟨column, desc⟩

def Filter.isNullRecord : Record Filter where
  wanted := "struct variant Exp::IsNull"
  types := [String, Bool]
  fields :=
    .cons (.required "column" Json.readString) <|
    .cons (.defaulting "negated" Json.readBool false) .nil
  make := fun (column, negated, _) => .isNull column negated

section
variable (value : Reader Json)

def Operand.read : Reader Operand := Json.readVariant [
  .value "var" (Json.readString.map .var),
  .value "value" (value.map .value)]

def Filter.compareRecord : Record Filter where
  wanted := "struct variant Exp::Compare"
  types := [String, Comparison, Operand]
  fields :=
    .cons (.required "column" Json.readString) <|
    .cons (.required "op" Comparison.read) <|
    .cons (.required "value" (Operand.read value)) .nil
  make := fun (column, op, value, _) => .compare column op value

def Filter.isInRecord : Record Filter where
  wanted := "struct variant Exp::In"
  types := [String, List Operand, Bool]
  fields :=
    .cons (.required "column" Json.readString) <|
    .cons (.required "values" (Json.readList (Operand.read value))) <|
    .cons (.defaulting "negated" Json.readBool false) .nil
  make := fun (column, values, negated, _) => .isIn column values negated

/-- The alternatives of a filter, its parts being read by `part`. -/
def Filter.variants (part : Reader Filter) : List (Variant Filter) := [
  .value "and" ((Json.readList part).map .and),
  .value "or" ((Json.readList part).map .or),
  .value "not" (part.map .not),
  .record "compare" (compareRecord value),
  .record "is_null" isNullRecord,
  .record "in" (isInRecord value)]

/-- Reads a filter; `fuel` bounds its nesting too. -/
def Filter.readNested : Nat → Reader Filter
  | 0 => fun _ _ => Json.fault .nestedTooDeep
  | fuel + 1 => Json.readVariant (Filter.variants value (Filter.readNested fuel))

def Filter.read : Reader Filter := fun depth cs => Filter.readNested value (depth + 1) depth cs

def Selection.record : Record Selection where
  wanted := "struct Select"
  types := [String, Option String, Action, String, List String, Option Filter, Paging, List OrderBy, List String,
    List (String × Json)]
  fields :=
    .cons (.required "table" Json.readString) <|
    .cons (.defaulting "schema" (Json.readOption Json.readString) none) <|
    .cons (.defaulting "action" Action.read .query) <|
    .cons (.defaulting "action_var" Json.readString "") <|
    .cons (.defaulting "fields" (Json.readList Json.readString) []) <|
    .cons (.defaulting "where" (Json.readOption (Filter.read value)) none) <|
    .cons (.defaulting "paging" Paging.record.read .unlimited) <|
    .cons (.defaulting "order_by" (Json.readList OrderBy.record.read) []) <|
    .cons (.defaulting "distinct_on" (Json.readList Json.readString) []) <|
    .cons (.defaulting "args" (Json.readMap value) []) .nil
  make := fun (table, schema, action, actionVar, fields, filter, paging, orderBy, distinctOn, args, _) =>
    ⟨table, schema, action, actionVar, fields, filter, paging, orderBy, distinctOn, args⟩

def record : Record Query where
  wanted := "struct QCode"
  types := [List Selection]
  fields := .cons (.defaulting "selects" (Json.readList (Selection.record value).read) []) .nil
  make := fun (selections, _) => ⟨selections⟩

/-- Reads the text of a query, its literals and arguments by `value`. -/
def ofTextBy (text : String) : Except Json.ReadError Query :=
  Json.readText (record value).read Json.nestingLimit text

end

def ofText : String → Except Json.ReadError Query := ofTextBy Json.read

def Filter.ofText (text : String) : Except Json.ReadError Filter :=
  Json.readText (Filter.read Json.read) Json.nestingLimit text

def Operand.toJson : Operand → Json
  | .var name => .object [("var", .string name)]
  | .value literal => .object [("value", literal)]

mutual
def Filter.toJson : Filter → Json
  | .and parts => .object [("and", .array (partsToJson parts))]
  | .or parts => .object [("or", .array (partsToJson parts))]
  | .not part => .object [("not", part.toJson)]
  | .compare column op value =>
    .object [("compare", .object [("column", .string column), ("op", .string op.name), ("value", value.toJson)])]
  | .isNull column negated => .object [("is_null", .object [("column", .string column), ("negated", .bool negated)])]
  | .isIn column values negated =>
    .object [("in", .object
      [("column", .string column), ("values", .array (values.map Operand.toJson)), ("negated", .bool negated)])]

def Filter.partsToJson : List Filter → List Json
  | [] => []
  | f :: fs => f.toJson :: partsToJson fs
end

def Paging.toJson (p : Paging) : Json := .object [
  ("limit", .ofOption (fun n : Nat => .ofInt n) p.limit),
  ("offset", .ofOption (fun n : Nat => .ofInt n) p.offset)]

def OrderBy.toJson (o : OrderBy) : Json := .object [("column", .string o.column), ("desc", .bool o.desc)]

def Selection.toJson (s : Selection) : Json := .object [
  ("table", .string s.table),
  ("schema", .ofOption .string s.schema),
  ("action", .string s.action.name),
  ("action_var", .string s.actionVar),
  ("fields", .ofStrings s.fields),
  ("where", .ofOption Filter.toJson s.filter),
  ("paging", s.paging.toJson),
  ("order_by", .array (s.orderBy.map OrderBy.toJson)),
  ("distinct_on", .ofStrings s.distinctOn),
  ("args", .object s.args)]

def toJson (q : Query) : Json := .object [("selects", .array (q.selections.map Selection.toJson))]

def toText (q : Query) : String := q.toJson.compact

end SchemaMutation.Query
