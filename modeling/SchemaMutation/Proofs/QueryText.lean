import SchemaMutation.Proofs.Conditions
import SchemaMutation.Proofs.Json.ValueReadBack
import SchemaMutation.Query.Form

/-!
# The text of queries

A query that is written as JSON is read back with the members of every object in the order of their keys
(`readsBack`): each alternative of a filter under the name it was written with, each field under its own. The query that
is read from a text has its members in order and is nested no deeper than texts may be (`yields`), however few of its
fields the text gives. Both together say that its own text loses nothing (`text_loses_nothing`).
-/

namespace SchemaMutation.Query

open Json (ReadsBack Readable YieldsAt Yields Bounded)

def Operand.sorted : Operand → Operand
  | .var name => .var name
  | .value literal => .value literal.sorted

mutual
def Filter.sorted : Filter → Filter
  | .and parts => .and (sortedParts parts)
  | .or parts => .or (sortedParts parts)
  | .not part => .not part.sorted
  | .compare column op value => .compare column op value.sorted
  | .isNull column negated => .isNull column negated
  | .isIn column values negated => .isIn column (values.map Operand.sorted) negated

def Filter.sortedParts : List Filter → List Filter
  | [] => []
  | f :: fs => f.sorted :: sortedParts fs
end

def Selection.sorted (s : Selection) : Selection :=
  { s with
    filter := s.filter.map Filter.sorted
    args := Json.sortMembers (s.args.map fun m => (m.1, m.2.sorted)) }

def sorted (q : Query) : Query := ⟨q.selections.map Selection.sorted⟩

theorem Filter.sortedParts_eq_map (parts : List Filter) : sortedParts parts = parts.map Filter.sorted := by
  induction parts with
  | nil => rfl
  | cons f fs ih => rw [sortedParts, ih, List.map_cons]

theorem Filter.partsToJson_eq_map (parts : List Filter) : partsToJson parts = parts.map Filter.toJson := by
  induction parts with
  | nil => rfl
  | cons f fs ih => rw [partsToJson, ih, List.map_cons]

def Operand.literal? : Operand → Option Json
  | .var _ => none
  | .value literal => some literal

namespace Filter

def literals (f : Filter) : List Json := f.operands.filterMap Operand.literal?

theorem literals_and (parts : List Filter) : (and parts).literals = parts.flatMap literals := by
  rw [literals, operands, conditions, conditionsOfAll_eq, List.flatMap_assoc, List.filterMap_flatMap]
  rfl

theorem literals_or (parts : List Filter) : (or parts).literals = parts.flatMap literals := by
  rw [literals, operands, conditions, conditionsOfAll_eq, List.flatMap_assoc, List.filterMap_flatMap]
  rfl

theorem literals_not (part : Filter) : (not part).literals = part.literals := by
  rw [literals, operands, conditions]
  rfl

end Filter

/-- The values in a selection that can be of any kind. -/
def Selection.values (s : Selection) : List Json := s.filter.elim [] Filter.literals ++ s.args.map Prod.snd

def values (q : Query) : List Json := q.selections.flatMap Selection.values

section
variable {n : Nat}

theorem Action.readsBack (a : Action) : ReadsBack n Action.read a (.string a.name) :=
  .unit (by cases a <;> rfl)

theorem Comparison.readsBack (c : Comparison) : ReadsBack n Comparison.read c (.string c.name) :=
  .unit (by cases c <;> rfl)

theorem Operand.readsBack {o : Operand} (readable : Readable n o.toJson)
    (unreserved : ∀ j ∈ o.literal?, j.Unreserved) : ReadsBack n (Operand.read Json.read) o.sorted o.toJson := by
  cases o with
  | var name =>
    obtain ⟨n, rfl, -⟩ := readable.content
    exact .content Operand.var rfl (.string name)
  | value literal =>
    obtain ⟨n, rfl, content⟩ := readable.content
    exact .content Operand.value rfl (.value content (unreserved literal rfl))

namespace Filter

theorem parts_readsBack {part : Json.Reader Filter} {parts : List Filter}
    (each : ∀ f ∈ parts, ReadsBack n part f.sorted f.toJson) :
    ReadsBack (n + 1) (Json.readList part) (sortedParts parts) (.array (partsToJson parts)) := by
  rw [sortedParts_eq_map, partsToJson_eq_map]
  exact .list (List.forall₂_map_left_iff.mpr (List.forall₂_map_right_iff.mpr (List.forall₂_same.mpr each)))

theorem group_readsBack {tag : String} {group : List Filter → Filter} {parts : List Filter} {fuel : Nat}
    (found : ∀ part, (variants Json.read part).find? (·.name == tag) =
      some (.value tag ((Json.readList part).map group)))
    (each : ∀ f ∈ parts, ∀ {n fuel : Nat}, Readable n f.toJson → (∀ j ∈ f.literals, j.Unreserved) → n ≤ fuel →
      ReadsBack n (readNested Json.read (fuel + 1)) f.sorted f.toJson)
    (readable : Readable n (.object [(tag, .array (partsToJson parts))]))
    (unreserved : ∀ j ∈ parts.flatMap literals, j.Unreserved) (enough : n ≤ fuel) :
    ReadsBack n (readNested Json.read (fuel + 1)) (group (sortedParts parts))
      (.object [(tag, .array (partsToJson parts))]) := by
  obtain ⟨n, rfl, content⟩ := readable.content
  obtain ⟨n, rfl, items⟩ := content.items
  obtain ⟨fuel, rfl⟩ : ∃ inner, fuel = inner + 1 := ⟨fuel - 1, by omega⟩
  rw [partsToJson_eq_map] at items
  have room : n ≤ fuel := by omega
  have own (f : Filter) (part : f ∈ parts) : ∀ j ∈ f.literals, j.Unreserved := fun j inside =>
    unreserved j (List.mem_flatMap_of_mem part inside)
  have back := parts_readsBack fun part member =>
    each part member (items _ (List.mem_map_of_mem member)) (own part member) room
  exact .content group (found _) back

/-- As much fuel as there are levels, and one unit more, is enough. -/
theorem readsBack_nested (f : Filter) : ∀ {n fuel : Nat}, Readable n f.toJson →
    (∀ j ∈ f.literals, j.Unreserved) → n ≤ fuel → ReadsBack n (readNested Json.read (fuel + 1)) f.sorted f.toJson := by
  induction f using Filter.induct with
  | and parts each =>
    intro n fuel readable unreserved enough
    exact group_readsBack (fun _ => rfl) each readable (literals_and parts ▸ unreserved) enough
  | or parts each =>
    intro n fuel readable unreserved enough
    exact group_readsBack (fun _ => rfl) each readable (literals_or parts ▸ unreserved) enough
  | not part ih =>
    intro n fuel readable unreserved enough
    obtain ⟨n, rfl, content⟩ := readable.content
    obtain ⟨fuel, rfl⟩ : ∃ inner, fuel = inner + 1 := ⟨fuel - 1, by omega⟩
    have back := ih content (literals_not part ▸ unreserved) (Nat.le_of_succ_le_succ enough)
    exact .content Filter.not rfl back
  | compare column op value =>
    intro n fuel readable unreserved _
    obtain ⟨n, rfl, content⟩ := readable.content
    obtain ⟨n, rfl, fields⟩ := content.members
    have own : ∀ j ∈ value.literal?, j.Unreserved := fun j literal =>
      unreserved j (List.mem_filterMap.mpr ⟨value, List.mem_singleton_self _, literal⟩)
    have written : (compareRecord Json.read).fields.Written n (column, op, value.sorted, ()) _ :=
      .cons (.string _) <| .cons (Comparison.readsBack op) <|
      .cons (Operand.readsBack (fields ("value", value.toJson) (by simp)) own) .nil
    exact .fields (compareRecord Json.read) rfl written (by decide)
  | isNull column negated =>
    intro n fuel readable _ _
    obtain ⟨n, rfl, content⟩ := readable.content
    obtain ⟨n, rfl, -⟩ := content.members
    have written : isNullRecord.fields.Written n (column, negated, ()) _ :=
      .cons (.string _) <| .cons (.bool _) .nil
    exact .fields isNullRecord rfl written (by decide)
  | isIn column values negated =>
    intro n fuel readable unreserved _
    obtain ⟨n, rfl, content⟩ := readable.content
    obtain ⟨n, rfl, fields⟩ := content.members
    obtain ⟨n, rfl, items⟩ := (fields ("values", .array (values.map Operand.toJson)) (by simp)).items
    have own (o : Operand) (inside : o ∈ values) : ∀ j ∈ o.literal?, j.Unreserved := fun j literal =>
      unreserved j (List.mem_filterMap.mpr ⟨o, by simpa [operands, conditions, ownOperands] using inside, literal⟩)
    have back : ReadsBack (n + 1) (Json.readList (Operand.read Json.read)) (values.map Operand.sorted) _ :=
      .list <| List.forall₂_map_left_iff.mpr <| List.forall₂_map_right_iff.mpr <| List.forall₂_same.mpr
        fun o member => Operand.readsBack (items _ (List.mem_map_of_mem member)) (own o member)
    have written : (isInRecord Json.read).fields.Written (n + 1) (column, values.map Operand.sorted, negated, ()) _ :=
      .cons (.string _) <| .cons back <| .cons (.bool _) .nil
    exact .fields (isInRecord Json.read) rfl written (by decide)

theorem readsBack {f : Filter} (readable : Readable n f.toJson) (unreserved : ∀ j ∈ f.literals, j.Unreserved) :
    ReadsBack n (Filter.read Json.read) f.sorted f.toJson :=
  .fueled fun _ enough => f.readsBack_nested readable unreserved enough

end Filter

theorem Filter.toJson_ne_null (f : Filter) : f.toJson ≠ .null := by
  cases f <;> simp [Filter.toJson]

theorem option_readsBack {α β : Type} {read : Json.Reader β} {f : α → β} {toJson : α → Json} {o : Option α}
    (back : ∀ a ∈ o, ReadsBack n read (f a) (toJson a)) (shown : ∀ a, toJson a ≠ .null) :
    ReadsBack n (Json.readOption read) (o.map f) (.ofOption toJson o) := by
  cases o with
  | none => exact .none read
  | some a => exact (back a rfl).some (shown a)

theorem strings_readsBack (ss : List String) :
    ReadsBack (n + 1) (Json.readList Json.readString) ss (.ofStrings ss) :=
  .listOf fun s _ => .string s

theorem limit_readsBack {k : Option Nat} (readable : Readable n (.ofOption (fun n : Nat => .ofInt n) k)) :
    ReadsBack n (Json.readOption Json.readUnsigned64) k (.ofOption (fun n : Nat => .ofInt n) k) := by
  cases k with
  | none => exact .none _
  | some k =>
    have fits : (k : Int) ≤ Json.greatestUnsigned := (readable.fits (.int k) (List.mem_singleton_self _)).2
    exact (ReadsBack.unsigned64 (Int.ofNat_le.mp fits)).some nofun

theorem Paging.readsBack {p : Paging} (readable : Readable n p.toJson) : ReadsBack n record.read p p.toJson := by
  obtain ⟨n, rfl, fields⟩ := readable.members
  have written : record.fields.Written n (p.limit, p.offset, ()) _ :=
    .cons (limit_readsBack (fields _ (.head _))) <| .cons (limit_readsBack (fields _ (.tail _ (.head _)))) .nil
  exact .record record written (by decide)

theorem OrderBy.readsBack (o : OrderBy) : ReadsBack (n + 1) record.read o o.toJson := by
  have written : record.fields.Written n (o.column, o.desc, ()) _ := .cons (.string _) <| .cons (.bool _) .nil
  exact .record record written (by decide)

theorem orderBy_readsBack {os : List OrderBy} (readable : Readable n (.array (os.map OrderBy.toJson))) :
    ReadsBack n (Json.readList OrderBy.record.read) os (.array (os.map OrderBy.toJson)) := by
  obtain ⟨n, rfl, items⟩ := readable.items
  refine .listOf fun o member => ?_
  obtain ⟨n, rfl, -⟩ := (items o.toJson (List.mem_map_of_mem member)).members
  exact o.readsBack

theorem args_readsBack {args : List (String × Json)} (readable : Readable n (.object args))
    (unreserved : ∀ m ∈ args, m.2.Unreserved) :
    ReadsBack n (Json.readMap Json.read) (Json.sortMembers (args.map fun m => (m.1, m.2.sorted))) (.object args) := by
  obtain ⟨n, rfl, members⟩ := readable.members
  exact .members <| List.forall₂_map_left_iff.mpr <| List.forall₂_same.mpr fun m member =>
    ⟨rfl, .value (members m member) (unreserved m member)⟩

theorem Selection.readsBack {s : Selection} (readable : Readable n s.toJson)
    (unreserved : ∀ j ∈ s.values, j.Unreserved) : ReadsBack n (record Json.read).read s.sorted s.toJson := by
  obtain ⟨n, rfl, fields⟩ := readable.members
  obtain ⟨k, rfl, -⟩ := (fields ("fields", .ofStrings s.fields) (by simp)).items
  obtain ⟨ofFilter, ofArgs⟩ := List.forall_mem_append.mp unreserved
  have filter : ReadsBack (k + 1) (Json.readOption (Filter.read Json.read)) (s.filter.map Filter.sorted)
      (.ofOption Filter.toJson s.filter) := by
    refine option_readsBack (fun f given => ?_) Filter.toJson_ne_null
    have readable := fields ("where", .ofOption Filter.toJson s.filter) (by simp)
    rw [given] at readable ofFilter
    exact Filter.readsBack readable ofFilter
  have schema : ReadsBack (k + 1) (Json.readOption Json.readString) s.schema (.ofOption .string s.schema) := by
    have back := option_readsBack (n := k + 1) (f := id) (o := s.schema) (fun a _ => .string a) nofun
    rwa [Option.map_id] at back
  have args := args_readsBack (fields ("args", .object s.args) (by simp)) (List.forall_mem_map.mp ofArgs)
  have written : (record Json.read).fields.Written (k + 1) (s.table, s.schema, s.action, s.actionVar, s.fields,
      s.filter.map Filter.sorted, s.paging, s.orderBy, s.distinctOn,
      Json.sortMembers (s.args.map fun m => (m.1, m.2.sorted)), ()) _ :=
    .cons (.string _) <| .cons schema <| .cons (Action.readsBack _) <| .cons (.string _) <|
    .cons (strings_readsBack _) <| .cons filter <|
    .cons (Paging.readsBack (fields ("paging", s.paging.toJson) (by simp))) <|
    .cons (orderBy_readsBack (fields ("order_by", _) (by simp))) <| .cons (strings_readsBack _) <|
    .cons args .nil
  exact .record (record Json.read) written (by decide)

theorem readsBack {q : Query} (readable : Readable n q.toJson) (unreserved : ∀ j ∈ q.values, j.Unreserved) :
    ReadsBack n (record Json.read).read q.sorted q.toJson := by
  obtain ⟨n, rfl, content⟩ := readable.content
  obtain ⟨n, rfl, items⟩ := content.items
  have own (s : Selection) (member : s ∈ q.selections) : ∀ j ∈ s.values, j.Unreserved := fun j inside =>
    unreserved j (List.mem_flatMap_of_mem member inside)
  have selections : ReadsBack (n + 1) (Json.readList (Selection.record Json.read).read)
      (q.selections.map Selection.sorted) (.array (q.selections.map Selection.toJson)) :=
    .list <| List.forall₂_map_left_iff.mpr <| List.forall₂_map_right_iff.mpr <| List.forall₂_same.mpr fun s member =>
      Selection.readsBack (items _ (List.mem_map_of_mem member)) (own s member)
  have written : (record Json.read).fields.Written (n + 1) (q.selections.map Selection.sorted, ()) _ :=
    .cons selections .nil
  exact .record (record Json.read) written (by decide)

end

section
variable {plain : Prop} {n : Nat} {value : Json.Reader Json}
variable (anyValue : ∀ depth, YieldsAt depth (Json.AsRead plain depth) value)

structure Operand.AsRead (plain : Prop) (n : Nat) (o : Operand) : Prop where
  inOrder : o.sorted = o
  bounded : Bounded plain n o.toJson

include anyValue in
theorem Operand.yields (depth : Nat) : YieldsAt depth (Operand.AsRead plain depth) (Operand.read value) := by
  refine Json.readVariant_yieldsAt (by simp [Json.Variant.ofName]) fun d deeper v member => ?_
  subst deeper
  simp only [List.mem_cons, List.not_mem_nil, or_false] at member
  rcases member with rfl | rfl
  · refine (Json.yieldsAt_true _).map fun name _ => ⟨rfl, ?_⟩
    exact Json.bounded_tagged (Json.bounded_string name)
  · refine (anyValue d).map fun literal asRead => ⟨congrArg Operand.value asRead.inOrder, ?_⟩
    exact Json.bounded_tagged asRead.toBounded

namespace Filter

structure AsRead (plain : Prop) (n : Nat) (f : Filter) : Prop where
  inOrder : f.sorted = f
  bounded : Bounded plain n f.toJson

theorem sortedParts_eq_self {parts : List Filter} (each : ∀ f ∈ parts, AsRead plain n f) :
    sortedParts parts = parts := by
  rw [sortedParts_eq_map, List.map_congr_left fun f member => (each f member).inOrder, List.map_id']

theorem bounded_parts {parts : List Filter} (each : ∀ f ∈ parts, AsRead plain n f) :
    Bounded plain (n + 1) (.array (partsToJson parts)) := by
  rw [partsToJson_eq_map]
  exact Json.bounded_array (List.forall_mem_map.mpr fun f member => (each f member).bounded)

theorem asRead_and {parts : List Filter} (each : ∀ f ∈ parts, AsRead plain n f) :
    AsRead plain (n + 2) (.and parts) where
  inOrder := by rw [sorted, sortedParts_eq_self each]
  bounded := Json.bounded_tagged (bounded_parts each)

theorem asRead_or {parts : List Filter} (each : ∀ f ∈ parts, AsRead plain n f) :
    AsRead plain (n + 2) (.or parts) where
  inOrder := by rw [sorted, sortedParts_eq_self each]
  bounded := Json.bounded_tagged (bounded_parts each)

theorem asRead_not {part : Filter} (asRead : AsRead plain n part) : AsRead plain (n + 1) (.not part) where
  inOrder := by rw [sorted, asRead.inOrder]
  bounded := Json.bounded_tagged asRead.bounded

theorem asRead_compare (column : String) (op : Comparison) {value : Operand} (asRead : value.AsRead plain n) :
    AsRead plain (n + 2) (.compare column op value) where
  inOrder := by rw [sorted, asRead.inOrder]
  bounded := by
    refine Json.bounded_tagged (Json.bounded_object ?_)
    simp only [List.forall_mem_cons]
    exact ⟨Json.bounded_string column, Json.bounded_string op.name, asRead.bounded, nofun⟩

theorem asRead_isNull (column : String) (negated : Bool) : AsRead plain (n + 2) (.isNull column negated) where
  inOrder := rfl
  bounded := by
    refine Json.bounded_tagged (Json.bounded_object ?_)
    simp only [List.forall_mem_cons]
    exact ⟨Json.bounded_string column, Json.bounded_bool negated, nofun⟩

theorem asRead_isIn (column : String) {values : List Operand} (each : ∀ o ∈ values, o.AsRead plain n)
    (negated : Bool) : AsRead plain (n + 3) (.isIn column values negated) where
  inOrder := by
    rw [sorted, List.map_congr_left fun o member => (each o member).inOrder, List.map_id']
  bounded := by
    refine Json.bounded_tagged (Json.bounded_object ?_)
    simp only [List.forall_mem_cons]
    exact ⟨Json.bounded_string column,
      Json.bounded_array (List.forall_mem_map.mpr fun o member => (each o member).bounded),
      Json.bounded_bool negated, nofun⟩

include anyValue in
theorem compareRecord_yields : ∀ d, YieldsAt d (AsRead plain (d + 1)) (compareRecord value).read
  | 0 => (compareRecord value).read_zero _
  | d + 1 => (compareRecord value).yieldsAt (fun _ => True, fun _ => True, Operand.AsRead plain d, ())
      (.required (Json.yieldsAt_true _) <| .required (Json.yieldsAt_true _) <|
        .required (Operand.yields anyValue d) trivial)
      fun (column, op, _, _) ⟨_, _, asRead, _⟩ => asRead_compare column op asRead

theorem isNullRecord_yields : ∀ d, YieldsAt d (AsRead plain (d + 1)) isNullRecord.read
  | 0 => isNullRecord.read_zero _
  | d + 1 => isNullRecord.yieldsAt (.none _) ((Json.Fields.yield_none _).yieldAt d)
      fun (column, negated, _) _ => asRead_isNull column negated

include anyValue in
theorem isInRecord_yields : ∀ d, YieldsAt d (AsRead plain (d + 1)) (isInRecord value).read
  | 0 => (isInRecord value).read_zero _
  | 1 => (isInRecord value).yieldsAt (fun _ => True, fun _ => False, fun _ => True, ())
      (.required (Json.yieldsAt_true _) <| .required (Json.readList_zero _ _) <|
        .defaulting (Json.yieldsAt_true _) trivial trivial)
      fun _ ⟨_, impossible, _⟩ => impossible.elim
  | d + 2 => (isInRecord value).yieldsAt
      (fun _ => True, fun values => ∀ o ∈ values, o.AsRead plain d, fun _ => True, ())
      (.required (Json.yieldsAt_true _) <| .required (Operand.yields anyValue d).list <|
        .defaulting (Json.yieldsAt_true _) trivial trivial)
      fun (column, _, negated, _) ⟨_, each, _⟩ => asRead_isIn column each negated

include anyValue in
theorem readNested_yields (fuel : Nat) : ∀ depth, YieldsAt depth (AsRead plain depth) (readNested value fuel) := by
  induction fuel with
  | zero => exact fun depth cs f rest given => nomatch given
  | succ fuel ih =>
    have parts {group : List Filter → Filter}
        (make : ∀ {n parts}, (∀ f ∈ parts, AsRead plain n f) → AsRead plain (n + 2) (group parts)) :
        ∀ d, YieldsAt d (AsRead plain (d + 1)) ((Json.readList (readNested value fuel)).map group)
      | 0 => (Json.readList_zero (fun _ => False) _).map nofun
      | d + 1 => (ih d).list.map fun _ => make
    refine fun depth => Json.readVariant_yieldsAt (by simp [variants, Json.Variant.ofName]) fun d deeper v member => ?_
    subst deeper
    simp only [variants, List.mem_cons, List.not_mem_nil, or_false] at member
    rcases member with rfl | rfl | rfl | rfl | rfl | rfl
    · exact parts asRead_and d
    · exact parts asRead_or d
    · exact (ih d).map fun _ => asRead_not
    · exact compareRecord_yields anyValue d
    · exact isNullRecord_yields d
    · exact isInRecord_yields anyValue d

include anyValue in
theorem yields (depth : Nat) : YieldsAt depth (AsRead plain depth) (Filter.read value) :=
  readNested_yields anyValue (depth + 1) depth

end Filter

theorem limit_yields : Yields (fun k : Option Nat => ∀ n ∈ k, n ≤ Json.greatestUnsigned)
    (Json.readOption Json.readUnsigned64) := by
  have unsigned := Json.yields_integer 0 0xFFFFFFFFFFFFFFFF "u64"
  refine Yields.option fun depth => (unsigned.yieldsAt depth).map ?_
  rintro i ⟨least, greatest⟩
  simp only [Json.greatestUnsigned]
  omega

theorem bounded_limit {k : Option Nat} (fits : ∀ n ∈ k, n ≤ Json.greatestUnsigned) :
    Bounded plain n (.ofOption (fun n : Nat => .ofInt n) k) :=
  Json.bounded_option fun k given => Json.bounded_number ⟨by omega, Int.ofNat_le.mpr (fits k given)⟩

theorem Paging.yields : Yields (fun p => Bounded plain 1 p.toJson) Paging.record.read := by
  refine record.yields (fun k => ∀ n ∈ k, n ≤ Json.greatestUnsigned, fun k => ∀ n ∈ k, n ≤ Json.greatestUnsigned, ())
    (.defaulting limit_yields nofun <| .defaulting limit_yields nofun trivial) ?_
  rintro ⟨limit, offset, -⟩ ⟨limitFits, offsetFits, -⟩
  refine Json.bounded_object ?_
  simp only [List.forall_mem_cons]
  exact ⟨bounded_limit limitFits, bounded_limit offsetFits, nofun⟩

theorem Paging.bounded_unlimited : Bounded plain 1 Paging.unlimited.toJson := by
  refine Json.bounded_object ?_
  simp only [List.forall_mem_cons]
  exact ⟨Json.bounded_null, Json.bounded_null, nofun⟩

theorem OrderBy.bounded (o : OrderBy) : Bounded plain (n + 1) o.toJson := by
  refine Json.bounded_object ?_
  simp only [List.forall_mem_cons]
  exact ⟨Json.bounded_string o.column, Json.bounded_bool o.desc, nofun⟩

/-- An order with columns is read from no fewer levels than it is written with. -/
theorem orderBy_yields : ∀ d, YieldsAt d
    (fun os : List OrderBy => Bounded plain (max d 1) (.array (os.map OrderBy.toJson)))
    (Json.readList OrderBy.record.read)
  | 0 => Json.readList_zero _ _
  | 1 => (YieldsAt.list (OrderBy.record.read_zero fun _ => False)).imp fun _ each =>
      Json.bounded_array (List.forall_mem_map.mpr fun o member => (each o member).elim)
  | _ + 2 => (Json.yieldsAt_true _).list.imp fun _ _ =>
      Json.bounded_array (List.forall_mem_map.mpr fun o _ => o.bounded)

theorem bounded_strings (ss : List String) : Bounded plain (n + 1) (.ofStrings ss) :=
  Json.bounded_array (List.forall_mem_map.mpr fun s _ => Json.bounded_string s)

structure ArgsAsRead (plain : Prop) (n : Nat) (args : List (String × Json)) : Prop where
  inOrder : Json.sortMembers (args.map fun m => (m.1, m.2.sorted)) = args
  bounded : Bounded plain n (.object args)

include anyValue in
theorem args_yields : ∀ d, YieldsAt d (ArgsAsRead plain (max d 1)) (Json.readMap value)
  | 0 => Json.readMap_zero _ _
  | d + 1 => (anyValue d).members.imp fun _ ⟨ascending, each⟩ =>
      ⟨Json.sortedValues_eq_self ascending fun m member => (each m member).inOrder,
        (Json.bounded_object fun m member => (each m member).toBounded).weaken (Nat.le_max_left _ _)⟩

structure Selection.AsRead (plain : Prop) (n : Nat) (s : Selection) : Prop where
  inOrder : s.sorted = s
  bounded : Bounded plain n s.toJson

/-- A selection is as it is read if its parts are. It is written with two levels at least, however few of its fields
    were given. -/
theorem Selection.asRead {s : Selection} {d : Nat} (filter : ∀ f ∈ s.filter, Filter.AsRead plain d f)
    (paging : Bounded plain 1 s.paging.toJson)
    (orderBy : Bounded plain (max d 1) (.array (s.orderBy.map OrderBy.toJson)))
    (args : ArgsAsRead plain (max d 1) s.args) : s.AsRead plain (max (d + 1) 2) where
  inOrder := by
    have sameFilter : s.filter.map Filter.sorted = s.filter := by
      cases given : s.filter with
      | none => rfl
      | some f => exact congrArg some (filter f given).inOrder
    rw [sorted, sameFilter, args.inOrder]
  bounded := by
    have one : 1 ≤ max d 1 := Nat.le_max_right d 1
    have deeper : max (d + 1) 2 = max d 1 + 1 := by omega
    have filterBounded : Bounded plain (max d 1) (.ofOption Filter.toJson s.filter) :=
      Json.bounded_option fun f given => (filter f given).bounded.weaken (Nat.le_max_left d 1)
    have schemaBounded : Bounded plain (max d 1) (.ofOption .string s.schema) :=
      Json.bounded_option fun name _ => Json.bounded_string name
    have strings (ss : List String) : Bounded plain (max d 1) (.ofStrings ss) :=
      (bounded_strings (n := 0) ss).weaken one
    rw [deeper]
    refine Json.bounded_object ?_
    simp only [List.forall_mem_cons]
    exact ⟨Json.bounded_string s.table, schemaBounded, Json.bounded_string s.action.name,
      Json.bounded_string s.actionVar, strings s.fields, filterBounded, paging.weaken one, orderBy,
      strings s.distinctOn, args.bounded, nofun⟩

include anyValue in
theorem Selection.yields : ∀ depth, YieldsAt depth (Selection.AsRead plain (max depth 2)) (record value).read
  | 0 => (record value).read_zero _
  | d + 1 => by
    have one : 1 ≤ max d 1 := Nat.le_max_right d 1
    have noColumns : Bounded plain 1 (.array []) := Json.bounded_array nofun
    have noArgs : Bounded plain 1 (.object []) := Json.bounded_object nofun
    refine (record value).yieldsAt
      (fun _ => True, fun _ => True, fun _ => True, fun _ => True, fun _ => True,
        fun filter => ∀ f ∈ filter, Filter.AsRead plain d f, fun p => Bounded plain 1 p.toJson,
        fun os => Bounded plain (max d 1) (.array (os.map OrderBy.toJson)), fun _ => True,
        ArgsAsRead plain (max d 1), ())
      (.required (Json.yieldsAt_true _) <| .defaulting (Json.yieldsAt_true _) trivial <|
        .defaulting (Json.yieldsAt_true _) trivial <| .defaulting (Json.yieldsAt_true _) trivial <|
        .defaulting (Json.yieldsAt_true _) trivial <| .defaulting (Filter.yields anyValue d).option nofun <|
        .defaulting (Paging.yields d) Paging.bounded_unlimited <|
        .defaulting (orderBy_yields d) (noColumns.weaken one) <|
        .defaulting (Json.yieldsAt_true _) trivial <|
        .defaulting (args_yields anyValue d) ⟨rfl, noArgs.weaken one⟩ trivial) ?_
    rintro _ ⟨_, _, _, _, _, filter, paging, orderBy, _, args, _⟩
    exact asRead filter paging orderBy args

structure AsRead (plain : Prop) (n : Nat) (q : Query) : Prop where
  inOrder : q.sorted = q
  bounded : Bounded plain n q.toJson

include anyValue in
theorem yields (depth : Nat) : YieldsAt depth (AsRead plain (max depth 4)) (record value).read := by
  have selections : ∀ d, YieldsAt d (fun ss : List Selection => ss.map Selection.sorted = ss ∧
      Bounded plain (max d 3) (.array (ss.map Selection.toJson))) (Json.readList (Selection.record value).read)
    | 0 => Json.readList_zero _ _
    | d + 1 => (Selection.yields anyValue d).list.imp fun ss each => by
      have deeper : max (d + 1) 3 = max d 2 + 1 := by omega
      rw [deeper, List.map_congr_left fun s member => (each s member).inOrder, List.map_id']
      exact ⟨rfl, Json.bounded_array (List.forall_mem_map.mpr fun s member => (each s member).bounded)⟩
  cases depth with
  | zero => exact (record value).read_zero _
  | succ d =>
    have deeper : max (d + 1) 4 = max d 3 + 1 := by omega
    have noSelections : Bounded plain 1 (.array (([] : List Selection).map Selection.toJson)) :=
      Json.bounded_array nofun
    refine (record value).yieldsAt (_, ())
      (.defaulting (selections d) ⟨rfl, noSelections.weaken (by omega)⟩ trivial) ?_
    rintro ⟨ss, -⟩ ⟨⟨inOrder, bounded⟩, -⟩
    refine ⟨congrArg Query.mk inOrder, ?_⟩
    rw [deeper]
    exact Json.bounded_tagged bounded

end

/-- The members of every object stand in the order of their keys, each key once, as they do in a map. -/
def InOrder (q : Query) : Prop := q.sorted = q

/-- The numbers of the literals, the arguments and the paging are integers. (One that is written without a fraction but
    has more than 64 bits is read as a double.) -/
def Integral (q : Query) : Prop := ∀ k ∈ q.toJson.numbers, k.IsInteger

/-- No object in a literal or an argument begins with the key behind which a text stands for another value. -/
def Unreserved (q : Query) : Prop := ∀ j ∈ q.values, j.Unreserved

instance (q : Query) : Decidable q.Integral := inferInstanceAs (Decidable (∀ k ∈ q.toJson.numbers, k.IsInteger))

instance (q : Query) : Decidable q.Unreserved := inferInstanceAs (Decidable (∀ j ∈ q.values, j.Unreserved))

theorem ofText_toText {q : Query} (inOrder : q.InOrder) (integral : q.Integral)
    (fits : ∀ k ∈ q.toJson.numbers, k.Fits) (shallow : q.toJson.nesting ≤ Json.nestingLimit)
    (unreserved : q.Unreserved) : ofText q.toText = .ok q := by
  have back := readsBack (n := Json.nestingLimit) ⟨shallow, fits, integral⟩ unreserved
  rw [show q.sorted = q from inOrder] at back
  exact back.readText_compact (Nat.le_refl _)

theorem asRead_of_ofTextBy {plain : Prop} {value : Json.Reader Json}
    (anyValue : ∀ depth, YieldsAt depth (Json.AsRead plain depth) value) {text : String} {q : Query}
    (read : ofTextBy value text = .ok q) : AsRead plain Json.nestingLimit q := by
  obtain ⟨rest, inner⟩ := Json.readText_eq_ok read
  exact yields anyValue Json.nestingLimit _ _ _ inner

/-- The text of a query is read as that query, if its numbers are integers of 64 bits, it is nested no deeper than
    texts may be, and no object in its values begins with the key that is not read as one. What was read from any text
    keeps within the first two bounds, so that its own text, too, is read as the same query if its numbers are integers
    and it has no such object. It can be nested deeper only if the text it was read from had a text behind that key. -/
theorem text_loses_nothing :
    (∀ q : Query, q.InOrder → q.Integral → (∀ k ∈ q.toJson.numbers, k.Fits) → q.toJson.nesting ≤ Json.nestingLimit →
      q.Unreserved → ofText q.toText = .ok q) ∧
    ∀ text q, ofText text = .ok q → q.Integral → q.Unreserved →
      q.toJson.nesting ≤ Json.nestingLimit ∨ ofTextBy Json.readPlain text = .ok q → ofText q.toText = .ok q := by
  constructor
  · intro q inOrder integral fits shallow unreserved
    exact ofText_toText inOrder integral fits shallow unreserved
  · intro text q read integral unreserved bounded
    have asRead := asRead_of_ofTextBy Json.read_yields read
    have shallow : q.toJson.nesting ≤ Json.nestingLimit := by
      rcases bounded with shallow | plainly
      · exact shallow
      · exact (asRead_of_ofTextBy Json.readPlain_yields plainly).bounded.shallow trivial
    exact ofText_toText asRead.inOrder integral asRead.bounded.fits shallow unreserved

/-- A query whose literals are objects, lists and null, with the greatest and the least integers. -/
def literalQuery : Query := ⟨[
  { (Selection.deleting "café").filtered (.and [
      .not (.isIn "Größe" [.value .null, .var "na\"me", .value (.object [("", .ofInt (-0x8000000000000000)),
        ("b", .array [.ofInt 0xFFFFFFFFFFFFFFFF, .bool true])])] true),
      .or [], .isNull "a\\b" false]) with
    schema := some "\u0001", paging := ⟨some 0xFFFFFFFFFFFFFFFF, none⟩, args := [("a", .array []), ("b", .null)] },
  (Selection.reading "😀").orderedBy "id" true]⟩

/-- Selections without the optional fields, one of them and a filter without the names of their fields. -/
def shortText : String :=
  "\x7b\"selects\": [[\"users\"], \x7b\"where\": \x7b\"not\": \x7b\"in\": [\"id\", [\x7b\"value\": " ++
    "\x7b\"b\": [-5], \"a\": 0\x7d\x7d]]\x7d\x7d, \"table\": \"t\"\x7d]\x7d"

theorem exists_of_any {α ε : Type} {outcome : Except ε α} {P : α → Bool} (any : outcome.toOption.any P = true) :
    ∃ a, outcome = .ok a ∧ P a = true := by
  cases outcome with
  | error e => cases any
  | ok a => exact ⟨a, rfl, any⟩

theorem text_loses_nothing_literals :
    (literalQuery.InOrder ∧ literalQuery.Integral ∧ (∀ k ∈ literalQuery.toJson.numbers, k.Fits) ∧
      literalQuery.toJson.nesting ≤ Json.nestingLimit ∧ literalQuery.Unreserved ∧
      ofText literalQuery.toText = .ok literalQuery) ∧
    ∃ q, ofText shortText = .ok q ∧ q.Integral ∧ q.Unreserved ∧ q.toJson.nesting ≤ Json.nestingLimit ∧
      ofText q.toText = .ok q := by
  have inOrder : literalQuery.InOrder := by rfl
  have integral : literalQuery.Integral := by decide +kernel
  have fits : ∀ k ∈ literalQuery.toJson.numbers, k.Fits := by decide +kernel
  have shallow : literalQuery.toJson.nesting ≤ Json.nestingLimit := by decide +kernel
  have unreserved : literalQuery.Unreserved := by decide +kernel
  refine ⟨⟨inOrder, integral, fits, shallow, unreserved,
    text_loses_nothing.1 literalQuery inOrder integral fits shallow unreserved⟩, ?_⟩
  have read : (ofText shortText).toOption.any (fun q =>
      decide (q.Integral ∧ q.Unreserved ∧ q.toJson.nesting ≤ Json.nestingLimit)) = true := by decide +kernel
  obtain ⟨q, given, bounded⟩ := exists_of_any read
  obtain ⟨integral, unreserved, shallow⟩ := of_decide_eq_true bounded
  exact ⟨q, given, integral, unreserved, shallow,
    text_loses_nothing.2 shortText q given integral unreserved (.inl shallow)⟩

def deletionById (value : Json) : Query := ⟨[(Selection.deleting "users").filtered (.compare "id" .eq (.value value))]⟩

/-- An object that is read as the number 1. -/
def reservedObject : Json := .object [(Json.rawKey, .string "1")]

/-- A literal whose reserved key stands behind another one, so that it is read as an object. -/
def lateReservedText : String :=
  "\x7b\"selects\": [\x7b\"table\": \"users\", \"where\": \x7b\"compare\": \x7b\"column\": \"id\", \"op\": \"eq\", " ++
    "\"value\": \x7b\"value\": \x7b\"a\": 1, \"$serde_json::private::RawValue\": \"1\"\x7d\x7d\x7d\x7d\x7d]\x7d"

theorem ofText_toText_eq (q : Query) : ofText q.toText =
    ((record Json.read).read Json.nestingLimit (Json.compactChars q.toJson) >>= fun (q, rest) =>
      if (Json.skipBlanks rest).isEmpty then .ok q else Json.fault .trailingCharacters) := by
  rw [ofText, ofTextBy, toText, Json.compact, Json.readText, String.toList_ofList]

/-- A query with such an object is written as the text of another query. The text of a query that was read with one
    behind another key is not read at all, since its keys are in order there. -/
theorem reserved_key_loses_object :
    ((deletionById reservedObject).InOrder ∧ (deletionById reservedObject).Integral ∧
      (∀ k ∈ (deletionById reservedObject).toJson.numbers, k.Fits) ∧
      (deletionById reservedObject).toJson.nesting ≤ Json.nestingLimit ∧
      ofText (deletionById reservedObject).toText ≠ .ok (deletionById reservedObject) ∧
      ∃ q, ofText (deletionById reservedObject).toText = .ok q ∧ q.toText = (deletionById (.ofInt 1)).toText) ∧
    ∃ q, ofText lateReservedText = .ok q ∧ q.Integral ∧ ofText q.toText = .error (.malformed .trailingComma) := by
  constructor
  · have read : (ofText (deletionById reservedObject).toText).toOption.any (fun q =>
        decide (Json.compactChars q.toJson = Json.compactChars (deletionById (.ofInt 1)).toJson)) = true := by
      rw [ofText_toText_eq]
      decide +kernel
    obtain ⟨q, again, same⟩ := exists_of_any read
    have same := of_decide_eq_true same
    refine ⟨by rfl, by decide +kernel, by decide +kernel, by decide +kernel, fun kept => ?_, q, again,
      congrArg String.ofList same⟩
    rw [Except.ok.inj (again.symm.trans kept)] at same
    exact absurd same (by decide +kernel)
  · have read : (ofText lateReservedText).toOption.any (fun q => decide q.Integral &&
        match (record Json.read).read Json.nestingLimit (Json.compactChars q.toJson) with
        | .error e => e == .malformed .trailingComma
        | .ok _ => false) = true := by decide +kernel
    obtain ⟨q, given, read⟩ := exists_of_any read
    obtain ⟨integral, refused⟩ := Bool.and_eq_true_iff.mp read
    refine ⟨q, given, of_decide_eq_true integral, ?_⟩
    rw [ofText_toText_eq]
    split at refused
    · rename_i e again
      rw [again, eq_of_beq refused]
      rfl
    · cases refused

end SchemaMutation.Query
