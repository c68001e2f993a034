import Mathlib.Data.Multiset.Basic
import SchemaMutation.Proofs.Assembly
import SchemaMutation.Proofs.Framing

/-!
# Content

What the hash of a snapshot is a hash of: the snapshot without its indices, the numbers of its columns and its primary
columns, and with multisets in place of lists except for the parameters of a function. Snapshots of the same content
have the same hash (`Snapshot.encoding_congr`), and the order in which columns and functions are discovered is no part
of the content (`Snapshot.ofColumns_content`).
-/

namespace SchemaMutation.Schema

open Catalog (Engine)

theorem perm_map_of_perm_map {α β γ : Type} {f : α → β} {g : α → γ} {l l' : List α}
    (determined : ∀ a ∈ l, ∀ b ∈ l', g a = g b → f a = f b) (same : (l.map g).Perm (l'.map g)) :
    (l.map f).Perm (l'.map f) := by
  induction l generalizing l' with
  | nil =>
    have empty : l' = [] := List.map_eq_nil_iff.mp (List.nil_perm.mp same)
    rw [empty]
  | cons a l ih =>
    obtain ⟨b, member, alike⟩ := List.mem_map.mp (same.subset List.mem_cons_self)
    obtain ⟨before, after, rfl⟩ := List.append_of_mem member
    have front {δ : Type} (h : α → δ) : ((before ++ b :: after).map h).Perm (h b :: (before ++ after).map h) := by
      simp [List.perm_middle]
    have rest : (l.map g).Perm ((before ++ after).map g) := by
      have both := same.trans (front g)
      rw [List.map_cons, alike] at both
      exact both.cons_inv
    have others : ∀ c ∈ before ++ after, c ∈ before ++ b :: after := by
      intro c known
      simp only [List.mem_append, List.mem_cons] at known ⊢
      exact known.imp_right .inr
    have images := ih (fun c known d known' => determined c (List.mem_cons_of_mem _ known) d (others d known')) rest
    rw [List.map_cons, determined a List.mem_cons_self b member alike.symm]
    exact (images.cons _).trans (front f).symm

theorem perm_of_perm_map {α γ : Type} {g : α → γ} {l l' : List α} (determined : ∀ a ∈ l, ∀ b ∈ l', g a = g b → a = b)
    (same : (l.map g).Perm (l'.map g)) : l.Perm l' := by
  have images : (l.map id).Perm (l'.map id) := perm_map_of_perm_map determined same
  rwa [List.map_id, List.map_id] at images

def Column.unnumbered (c : Column) : Column := { c with id := 0 }

theorem Column.home_congr {c c' : Column} (same : c.unnumbered = c'.unnumbered) : c.home = c'.home :=
  show c.unnumbered.home = c'.unnumbered.home from same ▸ rfl

theorem Column.encoding_congr {c c' : Column} (same : c.unnumbered = c'.unnumbered) : c.encoding = c'.encoding :=
  show c.unnumbered.encoding = c'.unnumbered.encoding from same ▸ rfl

/-- What the hash tells of a table. -/
structure Table.Content where
  schema : String
  name : String
  type : String
  columns : Multiset Column
  secondary : Option Column
  fullText : Multiset Column
  blocked : Bool

def Table.content (t : Table) : Table.Content where
  schema := t.schema
  name := t.name
  type := t.type
  columns := t.columns.map Column.unnumbered
  secondary := t.secondary.map Column.unnumbered
  fullText := t.fullText.map Column.unnumbered
  blocked := t.blocked

/-- What the hash tells of a snapshot. -/
structure Snapshot.Content where
  engine : Engine
  version : Int
  schema : String
  name : String
  tables : Multiset Table.Content
  functions : Multiset Function
  virtualTables : Multiset VirtualTable

def Snapshot.content (s : Snapshot) : Snapshot.Content where
  engine := s.engine
  version := s.version
  schema := s.schema
  name := s.name
  tables := s.tables.map Table.content
  functions := s.functions
  virtualTables := s.virtualTables

section
variable (hash : Digest.Bytes → Digest.Bytes)

theorem columnDigests_perm {columns columns' : List Column}
    (same : (columns.map Column.unnumbered).Perm (columns'.map Column.unnumbered)) :
    (columns.map fun c => hash c.encoding).Perm (columns'.map fun c => hash c.encoding) :=
  perm_map_of_perm_map (fun _ _ _ _ alike => congrArg hash (Column.encoding_congr alike)) same

theorem optionFields_unnumbered (c : Option Column) :
    Table.optionFields hash (c.map Column.unnumbered) = Table.optionFields hash c := by
  cases c with
  | none => rfl
  | some c => rfl

theorem Table.encoding_congr {t t' : Table} (same : t.content = t'.content) : t.encoding hash = t'.encoding hash := by
  simp only [Table.content, Table.Content.mk.injEq, Multiset.coe_eq_coe] at same
  obtain ⟨schema, name, type, columns, secondary, fullText, blocked⟩ := same
  have option : Table.optionFields hash t.secondary = Table.optionFields hash t'.secondary := by
    rw [← optionFields_unnumbered, secondary, optionFields_unnumbered]
  simp only [Table.encoding, schema, name, type, blocked, option,
    Digest.setFields_perm (columnDigests_perm hash columns), Digest.setFields_perm (columnDigests_perm hash fullText)]

theorem Snapshot.encoding_congr {s s' : Snapshot} (same : s.content = s'.content) :
    s.encoding hash = s'.encoding hash := by
  simp only [Snapshot.content, Snapshot.Content.mk.injEq, Multiset.coe_eq_coe] at same
  obtain ⟨engine, version, schema, name, tables, functions, virtualTables⟩ := same
  have digests : (s.tables.map fun t => hash (t.encoding hash)).Perm (s'.tables.map fun t => hash (t.encoding hash)) :=
    perm_map_of_perm_map (fun _ _ _ _ alike => congrArg hash (Table.encoding_congr hash alike)) tables
  simp only [Snapshot.encoding, engine, version, schema, name, Digest.setFields_perm digests,
    Digest.setFields_perm (functions.map _), Digest.setFields_perm (virtualTables.map _)]

end

theorem Snapshot.hash_congr {s s' : Snapshot} (same : s.content = s'.content) : s.hash = s'.hash := by
  rw [hash, hash, digest, digest, encoding_congr Digest.sha256 same]

namespace Snapshot

section
variable {columns columns' : List Column}

theorem filter_unnumbered (chosen : Column → Bool) (blind : ∀ c, chosen c.unnumbered = chosen c)
    (same : (columns.map Column.unnumbered).Perm (columns'.map Column.unnumbered)) :
    ((columns.filter chosen).map Column.unnumbered).Perm ((columns'.filter chosen).map Column.unnumbered) := by
  have moved := same.filter chosen
  rw [List.filter_map, List.filter_map] at moved
  have unmoved : chosen ∘ Column.unnumbered = chosen := funext blind
  rwa [unmoved] at moved

theorem homes_perm (same : (columns.map Column.unnumbered).Perm (columns'.map Column.unnumbered)) :
    (homes columns).Perm (homes columns') := by
  refine (List.perm_ext_iff_of_nodup (nodup_homes columns) (nodup_homes columns')).mpr fun key => ?_
  have homesOf : (columns.map Column.home).Perm (columns'.map Column.home) :=
    perm_map_of_perm_map (fun _ _ _ _ => Column.home_congr) same
  rw [homes, homes, List.mem_eraseDups, List.mem_eraseDups]
  exact homesOf.mem_iff

theorem tableAt_content (same : (columns.map Column.unnumbered).Perm (columns'.map Column.unnumbered))
    (blockList : BlockList) (key : String × String) :
    (tableAt columns blockList key).content = (tableAt columns' blockList key).content := by
  have here := filter_unnumbered (·.home = key) (fun _ => rfl) same
  have fullText := filter_unnumbered (·.fullText) (fun _ => rfl) here
  simp only [Table.content, Table.Content.mk.injEq, Multiset.coe_eq_coe]
  exact ⟨rfl, rfl, rfl, here, rfl, fullText, rfl⟩

theorem tablesOf_content (same : (columns.map Column.unnumbered).Perm (columns'.map Column.unnumbered))
    (blockList : BlockList) :
    ((tablesOf columns blockList).map Table.content).Perm ((tablesOf columns' blockList).map Table.content) := by
  have each : Table.content ∘ tableAt columns blockList = Table.content ∘ tableAt columns' blockList :=
    funext (tableAt_content same blockList)
  rw [tablesOf_eq, tablesOf_eq, List.map_map, List.map_map, each]
  exact ((homes_perm same).filter _).map _

variable {functions functions' : List Function}

theorem addTables_content (s : Snapshot) (ts : List Table) :
    (s.addTables ts).content = { s.content with tables := (s.tables ++ ts).map Table.content } := by
  obtain ⟨engine, version, schema, name, functions, virtualTables⟩ := addTables_frame s ts
  simp only [content, addTables_tables, engine, version, schema, name, functions, virtualTables]

/-- The order and the numbers of the columns, and the order of the functions, are no part of the content. -/
theorem ofColumns_content (engine : Engine) (version : Int) (schema name : String) (blockList : BlockList)
    (sameColumns : (columns.map Column.unnumbered).Perm (columns'.map Column.unnumbered))
    (sameFunctions : functions.Perm functions') :
    (ofColumns engine version schema name columns functions blockList).content =
      (ofColumns engine version schema name columns' functions' blockList).content := by
  have tables : (((tablesOf columns blockList).map Table.content : List Table.Content) : Multiset Table.Content) =
      (tablesOf columns' blockList).map Table.content :=
    Multiset.coe_eq_coe.mpr (tablesOf_content sameColumns blockList)
  have functions : (functions : Multiset Function) = functions' := Multiset.coe_eq_coe.mpr sameFunctions
  rw [ofColumns, ofColumns, addTables_content, addTables_content]
  simp only [content, blank, List.nil_append, tables, functions]

/-- The hash does not depend on the order in which columns and functions are discovered, nor on the numbers that the
    columns are given. -/
theorem hash_ignores_order (engine : Engine) (version : Int) (schema name : String) (blockList : BlockList)
    (sameColumns : (columns.map Column.unnumbered).Perm (columns'.map Column.unnumbered))
    (sameFunctions : functions.Perm functions') :
    (ofColumns engine version schema name columns functions blockList).hash =
      (ofColumns engine version schema name columns' functions' blockList).hash := by
  have content := ofColumns_content engine version schema name blockList sameColumns sameFunctions
  rw [hash, hash, digest, digest, encoding_congr Digest.sha256 content]

end

def pairColumns : List Column := [
  { (Column.plain "public" "pairs" "a" "int").asPrimary with id := 0 },
  { (Column.plain "public" "pairs" "b" "int").asPrimary with id := 1 },
  { Column.plain "public" "posts" "body" "tsvector" with id := 2, fullText := true }]

def pairColumnsReversed : List Column := [
  { Column.plain "public" "posts" "body" "tsvector" with id := 0, fullText := true },
  { (Column.plain "public" "pairs" "b" "int").asPrimary with id := 1 },
  { (Column.plain "public" "pairs" "a" "int").asPrimary with id := 2 }]

def pairFunctions : List Function := [⟨"add", [⟨1, "a", "int"⟩, ⟨2, "b", "int"⟩]⟩, ⟨"touch", []⟩]

/-- The hashes are the same although the tables are found in another order and another column is the primary one. -/
theorem hash_ignores_order_pairs :
    ((pairColumns.map Column.unnumbered).Perm (pairColumnsReversed.map Column.unnumbered) ∧
      pairFunctions.Perm pairFunctions.reverse) ∧
    (ofColumns .postgres 160000 "public" "app" pairColumns pairFunctions ["posts"]).hash =
      (ofColumns .postgres 160000 "public" "app" pairColumnsReversed pairFunctions.reverse ["posts"]).hash ∧
    (tablesOf pairColumns ["posts"]).map (fun t => (t.name, t.primary.map (·.name))) =
      [("pairs", some "b"), ("posts", none)] ∧
    (tablesOf pairColumnsReversed ["posts"]).map (fun t => (t.name, t.primary.map (·.name))) =
      [("posts", none), ("pairs", some "a")] := by
  have sameColumns : (pairColumns.map Column.unnumbered).Perm (pairColumnsReversed.map Column.unnumbered) := by
    decide +kernel
  have sameFunctions : pairFunctions.Perm pairFunctions.reverse := (List.reverse_perm pairFunctions).symm
  refine ⟨⟨sameColumns, sameFunctions⟩, ?_, by decide +kernel, by decide +kernel⟩
  exact hash_ignores_order .postgres 160000 "public" "app" ["posts"] sameColumns sameFunctions

end Snapshot

end SchemaMutation.Schema
