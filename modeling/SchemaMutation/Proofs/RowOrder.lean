import SchemaMutation.Proofs.Assembly
import SchemaMutation.Proofs.Content
import SchemaMutation.Proofs.Merging
import SchemaMutation.Registry

/-!
# The order of catalog rows

When the order in which a catalog gives its rows shows in the hash. The flags of a column do not depend on the order of
its rows, but of each text the last one counts. An order that leaves every column its last texts gives the same hash,
and a refresh then reports no change (`refresh_ignores_rowOrder`); if two rows of a column disagree in a text, their
order can be told from the hash (`rowOrder_shows`).
-/

namespace SchemaMutation.Schema

open Catalog (ColumnRow FunctionRow Identity Source Engine)

namespace Discovery

/-- The texts of a row that its column is left with if no later row has one. -/
def rowTexts : List (ColumnRow → String) := [(·.type), (·.foreignSchema), (·.foreignTable), (·.foreignColumn)]

def SameLastTexts (rows rows' : List ColumnRow) : Prop :=
  ∀ row ∈ shownRows rows, ∀ text ∈ rowTexts,
    lastText ((rowsOf rows row.fullName).map text) = lastText ((rowsOf rows' row.fullName).map text)

instance (rows rows' : List ColumnRow) : Decidable (SameLastTexts rows rows') :=
  inferInstanceAs (Decidable (∀ row ∈ shownRows rows, ∀ text ∈ rowTexts,
    lastText ((rowsOf rows row.fullName).map text) = lastText ((rowsOf rows' row.fullName).map text)))

/-- Rows with the same last texts are merged into the same column in any order, but for its number. -/
theorem mergeAll_unnumbered {rows rows' : List ColumnRow} (reordered : rows.Perm rows')
    (named : (rows.headD default).fullName = (rows'.headD default).fullName)
    (texts : ∀ text ∈ rowTexts, lastText (rows.map text) = lastText (rows'.map text)) (blockList : BlockList)
    (id id' : Nat) : (mergeAll blockList id rows).unnumbered = (mergeAll blockList id' rows').unnumbered := by
  simp only [ColumnRow.fullName, Prod.mk.injEq] at named
  obtain ⟨schema, table, name⟩ := named
  simp only [rowTexts, List.forall_mem_cons, List.not_mem_nil, false_imp_iff, implies_true, and_true] at texts
  obtain ⟨type, foreignSchema, foreignTable, foreignColumn⟩ := texts
  simp only [mergeAll_eq, Column.unnumbered, schema, table, name, type, foreignSchema, foreignTable, foreignColumn,
    reordered.any_eq]

theorem shownRows_perm {rows rows' : List ColumnRow} (reordered : rows.Perm rows') :
    (shownRows rows).Perm (shownRows rows') := reordered.filter _

theorem rowKeys_perm {rows rows' : List ColumnRow} (reordered : rows.Perm rows') :
    (rowKeys rows).Perm (rowKeys rows') := by
  refine (List.perm_ext_iff_of_nodup (nodup_rowKeys rows) (nodup_rowKeys rows')).mpr fun key => ?_
  rw [mem_rowKeys, mem_rowKeys]
  exact exists_congr fun row => and_congr_left' reordered.mem_iff

theorem columns_unnumbered (rows : List ColumnRow) (blockList : BlockList) :
    (columns rows blockList).map Column.unnumbered =
      (rowKeys (shownRows rows)).map fun key =>
        (mergeAll blockList 0 (rowsUnder (shownRows rows) key)).unnumbered := by
  conv_rhs => rw [← List.zipIdx_map_fst 0 (rowKeys (shownRows rows))]
  rw [columns_eq, List.map_map, List.map_map]
  exact List.map_congr_left fun e _ => mergeAll_unnumbered (.refl _) rfl (fun _ _ => rfl) blockList e.2 0

theorem columns_perm {rows rows' : List ColumnRow} (reordered : rows.Perm rows') (told : KeysTellNames rows)
    (texts : SameLastTexts rows rows') (blockList : BlockList) :
    ((columns rows blockList).map Column.unnumbered).Perm ((columns rows' blockList).map Column.unnumbered) := by
  have shown := shownRows_perm reordered
  have told' : KeysTellNames rows' := fun row member row' member' =>
    told row (shown.mem_iff.mpr member) row' (shown.mem_iff.mpr member')
  rw [columns_unnumbered, columns_unnumbered]
  refine ((rowKeys_perm shown).map _).trans (.of_eq (List.map_congr_left fun key known' => ?_))
  -- under each key there are the rows of one name, in either order
  obtain ⟨first', sameKey'⟩ := firstUnder_spec known'
  obtain ⟨first, sameKey⟩ := firstUnder_spec ((rowKeys_perm shown).mem_iff.mpr known')
  have named : (firstUnder (shownRows rows) key).fullName = (firstUnder (shownRows rows') key).fullName :=
    told _ first _ (shown.mem_iff.mpr first') (sameKey.trans sameKey'.symm)
  have under : (rowsUnder (shownRows rows) key).Perm (rowsUnder (shownRows rows') key) := shown.filter _
  have here := rowsUnder_eq_rowsOf told first
  have here' := rowsUnder_eq_rowsOf told' first'
  rw [sameKey] at here
  rw [sameKey', ← named] at here'
  refine mergeAll_unnumbered under named ?_ blockList 0 0
  rw [here, here']
  exact texts _ first

/-- A catalog that gives the rows of its columns in another order has a snapshot with the same hash, and a refresh over
    it reports no change, if every column is left with the same texts. -/
theorem refresh_ignores_rowOrder (source : Source) (engine : Engine) (blockList : BlockList) {identity : Identity}
    {functionRows : List FunctionRow} {rows rows' : List ColumnRow} (identified : source.identity = .ok identity)
    (functionsGiven : source.functions = .ok functionRows) (reordered : rows.Perm rows')
    (told : KeysTellNames rows) (texts : SameLastTexts rows rows') :
    ∃ s s', snapshot { source with columns := .ok rows } engine blockList = .ok s ∧
      snapshot { source with columns := .ok rows' } engine blockList = .ok s' ∧ s.hash = s'.hash ∧
      (Registry.new s).refresh { source with columns := .ok rows' } engine blockList = (.new s', .ok false) := by
  have discovered := snapshot_eq_ok { source with columns := .ok rows } identified rfl functionsGiven engine blockList
  have discovered' :=
    snapshot_eq_ok { source with columns := .ok rows' } identified rfl functionsGiven engine blockList
  have content := Snapshot.ofColumns_content engine identity.version identity.schema identity.name blockList
    (columns_perm reordered told texts blockList) (.refl (functions functionRows blockList))
  have same := Snapshot.hash_congr content
  refine ⟨_, _, discovered, discovered', same, ?_⟩
  rw [Registry.refresh, discovered']
  simp only [Registry.publish, Registry.new, same, bne_self_eq_false]

/-- A column that takes part in a key and in two constraints, beside one of another table and an internal one. -/
def orderRows : List ColumnRow := [
  ⟨"public", "orders", "user_id", "bigint", true, false, false, false, false, "", "", ""⟩,
  ⟨"public", "users", "id", "bigint", false, true, false, false, false, "", "", ""⟩,
  ⟨"public", "_sq_cursor", "id", "bigint", false, true, false, false, false, "", "", ""⟩,
  ⟨"public", "orders", "user_id", "", false, false, false, false, false, "public", "users", "id"⟩,
  ⟨"public", "orders", "user_id", "bigint", false, false, true, false, false, "", "", ""⟩]

def orderCatalog : Source where
  identity := .ok ⟨160000, "public", "app"⟩
  columns := .ok orderRows
  functions := .ok [⟨"touch", "touch_1", "text", none, 1⟩]
  tableColumns _ _ := .ok []

theorem refresh_ignores_rowOrder_orders :
    (orderRows.Perm orderRows.reverse ∧ KeysTellNames orderRows ∧ SameLastTexts orderRows orderRows.reverse) ∧
    ∃ s s', snapshot orderCatalog .postgres ["pin"] = .ok s ∧
      snapshot { orderCatalog with columns := .ok orderRows.reverse } .postgres ["pin"] = .ok s' ∧ s.hash = s'.hash ∧
      (Registry.new s).refresh { orderCatalog with columns := .ok orderRows.reverse } .postgres ["pin"] =
        (.new s', .ok false) := by
  have reordered : orderRows.Perm orderRows.reverse := (List.reverse_perm orderRows).symm
  have told : KeysTellNames orderRows := by decide +kernel
  have texts : SameLastTexts orderRows orderRows.reverse := by decide +kernel
  exact ⟨⟨reordered, told, texts⟩,
    refresh_ignores_rowOrder orderCatalog .postgres ["pin"] rfl rfl reordered told texts⟩

def clashingRows : List ColumnRow := [
  ⟨"public", "users", "id", "int", false, false, false, false, false, "", "", ""⟩,
  ⟨"public", "users", "id", "text", false, false, false, false, false, "", "", ""⟩]

def clashingCatalog (rows : List ColumnRow) : Source where
  identity := .ok ⟨160000, "public", "app"⟩
  columns := .ok rows
  functions := .ok []
  tableColumns _ _ := .ok []

/-- The later type is kept, so that the order of the rows shows in the hash, and a refresh reports a change. -/
theorem rowOrder_shows :
    clashingRows.Perm clashingRows.reverse ∧
    ∃ s s', snapshot (clashingCatalog clashingRows) .postgres [] = .ok s ∧
      snapshot (clashingCatalog clashingRows.reverse) .postgres [] = .ok s' ∧ s.hash ≠ s'.hash ∧
      (Registry.new s).refresh (clashingCatalog clashingRows.reverse) .postgres [] = (.new s', .ok true) := by
  have discovered (rows : List ColumnRow) := snapshot_eq_ok (clashingCatalog rows) rfl rfl rfl .postgres []
  have different :
      (Snapshot.ofColumns .postgres 160000 "public" "app" (columns clashingRows []) (functions [] []) []).hash ≠
        (Snapshot.ofColumns .postgres 160000 "public" "app" (columns clashingRows.reverse []) (functions [] [])
          []).hash := by
    unfold Snapshot.hash Snapshot.digest Snapshot.encoding Table.encoding
    simp only [Digest.setFields_eq_insertionSort]
    decide +kernel
  refine ⟨(List.reverse_perm clashingRows).symm, _, _, discovered clashingRows, discovered clashingRows.reverse,
    different, ?_⟩
  rw [Registry.refresh, discovered]
  simp only [Registry.publish, Registry.new, bne_iff_ne.mpr different]

end Discovery

end SchemaMutation.Schema
