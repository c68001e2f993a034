import SchemaMutation.Proofs.Content

/-!
# Recovery

What the digest of a snapshot tells of the snapshot. Unless two of the byte strings that are hashed for two snapshots
have the same digest, the content of a snapshot can be told from its digest (`Snapshot.content_of_digest`): every
encoding is readable field by field, and a digest in it stands for only one of the parts.
-/

namespace SchemaMutation.Schema

open Catalog (Engine)
open Digest (Bytes Field Framed fieldBytes)

def Column.Fits (c : Column) : Prop := ∀ f ∈ c.digestFields, f.Fits

instance (c : Column) : Decidable c.Fits := inferInstanceAs (Decidable (∀ f ∈ c.digestFields, f.Fits))

@[mk_iff]
structure Table.Fits (t : Table) : Prop where
  texts : ∀ f ∈ [Field.text t.schema, .text t.name, .text t.type], f.Fits
  columns : t.columns.length < 2 ^ 64
  fullText : t.fullText.length < 2 ^ 64
  each : ∀ c ∈ t.columns ++ t.secondary.toList ++ t.fullText, c.Fits

instance (t : Table) : Decidable t.Fits := decidable_of_iff _ (Table.fits_iff t).symm

@[mk_iff]
structure Function.Fits (f : Function) : Prop where
  name : (Field.text f.name).Fits
  params : f.params.length < 2 ^ 64
  each : ∀ p ∈ f.params, ∀ field ∈ p.digestFields, field.Fits

instance (f : Function) : Decidable f.Fits := decidable_of_iff _ (Function.fits_iff f).symm

def VirtualTable.Fits (v : VirtualTable) : Prop :=
  ∀ f ∈ [Field.text v.name, .text v.idColumn, .text v.typeColumn, .text v.foreignColumn], f.Fits

instance (v : VirtualTable) : Decidable v.Fits := inferInstanceAs (Decidable (∀ f ∈ [_, _, _, _], Field.Fits f))

/-- All lengths of texts and lists fit into 64 bits, and so do the signed numbers. -/
@[mk_iff]
structure Snapshot.Fits (s : Snapshot) : Prop where
  identity : ∀ f ∈ [Field.int s.version, .text s.schema, .text s.name], f.Fits
  tables : s.tables.length < 2 ^ 64
  functions : s.functions.length < 2 ^ 64
  virtualTables : s.virtualTables.length < 2 ^ 64
  eachTable : ∀ t ∈ s.tables, t.Fits
  eachFunction : ∀ f ∈ s.functions, f.Fits
  eachVirtualTable : ∀ v ∈ s.virtualTables, v.Fits

instance (s : Snapshot) : Decidable s.Fits := decidable_of_iff _ (Snapshot.fits_iff s).symm

def Table.hashed (hash : Bytes → Bytes) (t : Table) : List Bytes :=
  (t.columns ++ t.secondary.toList ++ t.fullText).map Column.encoding ++ [t.encoding hash]

/-- The byte strings that are hashed for a snapshot. -/
def Snapshot.hashed (hash : Bytes → Bytes) (s : Snapshot) : List Bytes :=
  s.tables.flatMap (fun t => t.hashed hash) ++ s.functions.map Function.encoding ++
    s.virtualTables.map VirtualTable.encoding ++ [s.encoding hash]

section
variable {hash : Bytes → Bytes}

theorem Table.hashed_perm {t t' : Table} (same : t.content = t'.content) : (t.hashed hash).Perm (t'.hashed hash) := by
  have encodings := Table.encoding_congr hash same
  simp only [content, Content.mk.injEq, Multiset.coe_eq_coe] at same
  obtain ⟨_, _, _, columns, secondary, fullText, _⟩ := same
  have parts : ((t.columns ++ t.secondary.toList ++ t.fullText).map Column.unnumbered).Perm
      ((t'.columns ++ t'.secondary.toList ++ t'.fullText).map Column.unnumbered) := by
    simp only [List.map_append, ← Option.toList_map, secondary]
    exact (columns.append_right _).append fullText
  have images := perm_map_of_perm_map (fun _ _ _ _ => Column.encoding_congr) parts
  rw [hashed, hashed, encodings]
  exact images.append_right _

theorem Table.encoding_hashed (t : Table) : t.encoding hash ∈ t.hashed hash := by simp [hashed]

theorem Snapshot.encoding_hashed (s : Snapshot) : s.encoding hash ∈ s.hashed hash := by simp [hashed]

theorem Snapshot.table_hashed (s : Snapshot) {t : Table} (member : t ∈ s.tables) : t.hashed hash ⊆ s.hashed hash := by
  intro m known
  simp only [hashed, List.mem_append, List.mem_flatMap]
  exact .inl (.inl (.inl ⟨t, member, known⟩))

theorem Snapshot.function_hashed (s : Snapshot) {f : Function} (member : f ∈ s.functions) :
    f.encoding ∈ s.hashed hash := by
  simp only [hashed, List.mem_append, List.mem_map]
  exact .inl (.inl (.inr ⟨f, member, rfl⟩))

theorem Snapshot.virtualTable_hashed (s : Snapshot) {v : VirtualTable} (member : v ∈ s.virtualTables) :
    v.encoding ∈ s.hashed hash := by
  simp only [hashed, List.mem_append, List.mem_map]
  exact .inl (.inr ⟨v, member, rfl⟩)

theorem Snapshot.hashed_subset {s s' : Snapshot} (same : s.content = s'.content) : s'.hashed hash ⊆ s.hashed hash := by
  intro m known
  have encodings := Snapshot.encoding_congr hash same
  simp only [content, Content.mk.injEq, Multiset.coe_eq_coe] at same
  obtain ⟨_, _, _, _, tables, functions, virtualTables⟩ := same
  simp only [hashed, List.mem_append, List.mem_flatMap, List.mem_singleton] at known
  obtain ((⟨t', member', known⟩ | known) | known) | rfl := known
  · obtain ⟨t, member, alike⟩ := List.mem_map.mp (tables.symm.subset (List.mem_map_of_mem member'))
    exact s.table_hashed member ((Table.hashed_perm alike).symm.subset known)
  · obtain ⟨f, member, rfl⟩ := List.mem_map.mp known
    exact s.function_hashed (functions.symm.subset member)
  · obtain ⟨v, member, rfl⟩ := List.mem_map.mp known
    exact s.virtualTable_hashed (virtualTables.symm.subset member)
  · exact encodings ▸ s.encoding_hashed

end

/-- No two of the byte strings have the same digest. -/
def CollisionFree (hash : Bytes → Bytes) (messages : List Bytes) : Prop :=
  ∀ m ∈ messages, ∀ m' ∈ messages, hash m = hash m' → m = m'

namespace CollisionFree
variable {hash : Bytes → Bytes} {messages messages' : List Bytes}

theorem of_nodup (distinct : (messages.map hash).Nodup) : CollisionFree hash messages := fun _ member _ member' =>
  List.inj_on_of_nodup_map distinct member member'

theorem mono (free : CollisionFree hash messages) (included : messages' ⊆ messages) : CollisionFree hash messages' :=
  fun m member m' member' => free m (included member) m' (included member')

end CollisionFree

theorem Column.read_encoding {c c' : Column} (fits : c.Fits) (fits' : c'.Fits) (same : c.encoding = c'.encoding) :
    c.unnumbered = c'.unnumbered := by
  have kinds : c.digestFields.map Field.kind = c'.digestFields.map Field.kind := rfl
  have fields := (Digest.fields_framed kinds fits fits').read (Digest.fieldBytes_of_encode same)
  simp only [digestFields, List.cons.injEq, Field.text.injEq, Field.flag.injEq] at fields
  simp only [unnumbered, Column.mk.injEq]
  grind

theorem VirtualTable.read_encoding {v v' : VirtualTable} (fits : v.Fits) (fits' : v'.Fits)
    (same : v.encoding = v'.encoding) : v = v' := by
  have kinds : [Field.text v.name, .text v.idColumn, .text v.typeColumn, .text v.foreignColumn].map Field.kind =
    [Field.text v'.name, .text v'.idColumn, .text v'.typeColumn, .text v'.foreignColumn].map Field.kind := rfl
  have fields := (Digest.fields_framed kinds fits fits').read (Digest.fieldBytes_of_encode same)
  simp only [List.cons.injEq, Field.text.injEq] at fields
  obtain ⟨name, idColumn, typeColumn, foreignColumn, _⟩ := fields
  cases v
  cases v'
  congr

theorem Parameter.framed {p p' : Parameter} (fits : ∀ f ∈ p.digestFields, f.Fits)
    (fits' : ∀ f ∈ p'.digestFields, f.Fits) :
    Framed (fieldBytes p.digestFields) (fieldBytes p'.digestFields) (p = p') := by
  have kinds : p.digestFields.map Field.kind = p'.digestFields.map Field.kind := rfl
  refine (Digest.fields_framed kinds fits fits').mono fun fields => ?_
  simp only [digestFields, List.cons.injEq, Field.int.injEq, Field.text.injEq] at fields
  obtain ⟨id, name, type, _⟩ := fields
  cases p
  cases p'
  congr

/-- Parameters stand one behind the other; there is nothing between them, but their number is known. -/
theorem parameters_framed {ps qs : List Parameter} (sized : ps.length = qs.length)
    (fits : ∀ p ∈ ps, ∀ f ∈ p.digestFields, f.Fits) (fits' : ∀ q ∈ qs, ∀ f ∈ q.digestFields, f.Fits) :
    Framed (fieldBytes (ps.flatMap Parameter.digestFields)) (fieldBytes (qs.flatMap Parameter.digestFields))
      (ps = qs) := by
  induction ps generalizing qs with
  | nil =>
    cases qs with
    | nil => exact .of_length rfl fun _ => rfl
    | cons q qs => cases sized
  | cons p ps ih =>
    cases qs with
    | nil => cases sized
    | cons q qs =>
      obtain ⟨fit, fits⟩ := List.forall_mem_cons.mp fits
      obtain ⟨fit', fits'⟩ := List.forall_mem_cons.mp fits'
      rw [List.flatMap_cons, List.flatMap_cons, Digest.fieldBytes_append, Digest.fieldBytes_append]
      refine ((Parameter.framed fit fit').append fun _ => ih (Nat.succ.inj sized) fits fits').mono ?_
      rintro ⟨rfl, rfl⟩
      rfl

theorem Function.read_encoding {f f' : Function} (fits : f.Fits) (fits' : f'.Fits) (same : f.encoding = f'.encoding) :
    f = f' := by
  have short := fits.params
  have short' := fits'.params
  have counts : Framed (Digest.intBytes f.params.length) (Digest.intBytes f'.params.length)
      ((f.params.length : Int) = f'.params.length) := Field.int_framed (by omega)
  have params (sized : (f.params.length : Int) = f'.params.length) :=
    parameters_framed (Int.ofNat.inj sized) fits.each fits'.each
  have fields := ((Field.text_framed fits.name fits'.name).append fun _ => counts.append params).read
    (Digest.fieldBytes_of_encode same)
  obtain ⟨name, _, params⟩ := fields
  cases f
  cases f'
  congr

section
variable {hash : Bytes → Bytes}

theorem digests_framed {α : Type} (encoding : α → Bytes) (wide : ∀ m, (hash m).length = 32) {l l' : List α}
    (short : l.length < 2 ^ 64) (short' : l'.length < 2 ^ 64) :
    Framed (fieldBytes (Digest.setFields (l.map fun a => hash (encoding a))))
      (fieldBytes (Digest.setFields (l'.map fun a => hash (encoding a))))
      ((l.map fun a => hash (encoding a)).Perm (l'.map fun a => hash (encoding a))) :=
  Digest.set_framed (by simpa using short) (by simpa using short') (by simp [wide]) (by simp [wide])

theorem secondary_framed (wide : ∀ m, (hash m).length = 32) (c c' : Option Column) :
    Framed (fieldBytes (Table.optionFields hash c)) (fieldBytes (Table.optionFields hash c'))
      (c.map (fun c => hash c.encoding) = c'.map fun c => hash c.encoding) := by
  cases c with
  | none =>
    cases c' with
    | none => exact .of_length rfl fun _ => rfl
    | some c' => exact fun r r' same => by cases same
  | some c =>
    cases c' with
    | none => exact fun r r' same => by cases same
    | some c' =>
      have kinds : (Table.optionFields hash (some c)).map Field.kind =
        (Table.optionFields hash (some c')).map Field.kind := rfl
      refine (Digest.fields_framed kinds ?_ ?_).mono fun same => ?_
      · simp [Table.optionFields, Field.Fits, wide]
      · simp [Table.optionFields, Field.Fits, wide]
      · simpa [Table.optionFields] using same

theorem Table.read_encoding (wide : ∀ m, (hash m).length = 32) {t t' : Table} (fits : t.Fits) (fits' : t'.Fits)
    (same : t.encoding hash = t'.encoding hash) :
    (t.schema = t'.schema ∧ t.name = t'.name ∧ t.type = t'.type ∧ t.blocked = t'.blocked) ∧
      (t.columns.map fun c => hash c.encoding).Perm (t'.columns.map fun c => hash c.encoding) ∧
      (t.secondary.map fun c => hash c.encoding) = (t'.secondary.map fun c => hash c.encoding) ∧
      (t.fullText.map fun c => hash c.encoding).Perm (t'.fullText.map fun c => hash c.encoding) := by
  have kinds : [Field.text t.schema, .text t.name, .text t.type].map Field.kind =
    [Field.text t'.schema, .text t'.name, .text t'.type].map Field.kind := rfl
  have texts := Digest.fields_framed kinds fits.texts fits'.texts
  have columns := digests_framed Column.encoding wide fits.columns fits'.columns
  have secondary := secondary_framed wide t.secondary t'.secondary
  have fullText := digests_framed Column.encoding wide fits.fullText fits'.fullText
  have blocked := Field.flag_framed t.blocked t'.blocked
  have all := (((texts.append fun _ => columns).append fun _ => secondary).append fun _ => fullText).append fun _ =>
    blocked
  have bytes := Digest.fieldBytes_of_encode same
  simp only [Digest.fieldBytes_append, Digest.fieldBytes_singleton] at bytes
  obtain ⟨⟨⟨⟨texts, columns⟩, secondary⟩, fullText⟩, blocked⟩ := all.read bytes
  simp only [List.cons.injEq, Field.text.injEq] at texts
  obtain ⟨schema, name, type, _⟩ := texts
  exact ⟨⟨schema, name, type, blocked⟩, columns, secondary, fullText⟩

variable {messages : List Bytes}

/-- Among byte strings without a collision, a digest stands for one column, but for its number. -/
theorem Column.unnumbered_of_digest (free : CollisionFree hash messages) {c c' : Column}
    (known : c.Fits ∧ c.encoding ∈ messages) (known' : c'.Fits ∧ c'.encoding ∈ messages)
    (same : hash c.encoding = hash c'.encoding) : c.unnumbered = c'.unnumbered :=
  Column.read_encoding known.1 known'.1 (free _ known.2 _ known'.2 same)

theorem map_eq_of_map_eq {α β γ : Type} {f : α → β} {g : α → γ} {a b : Option α}
    (determined : ∀ x ∈ a, ∀ y ∈ b, g x = g y → f x = f y) (same : a.map g = b.map g) : a.map f = b.map f := by
  cases a with
  | none =>
    cases b with
    | none => rfl
    | some y => cases same
  | some x =>
    cases b with
    | none => cases same
    | some y => exact congrArg some (determined x rfl y rfl (Option.some.inj same))

theorem Table.columns_known {t : Table} (fits : t.Fits) (included : t.hashed hash ⊆ messages) :
    ∀ c ∈ t.columns ++ t.secondary.toList ++ t.fullText, c.Fits ∧ c.encoding ∈ messages := fun c member =>
  ⟨fits.each c member, included (List.mem_append_left _ (List.mem_map_of_mem member))⟩

theorem Table.content_of_encoding (wide : ∀ m, (hash m).length = 32) (free : CollisionFree hash messages)
    {t t' : Table} (fits : t.Fits) (fits' : t'.Fits) (included : t.hashed hash ⊆ messages)
    (included' : t'.hashed hash ⊆ messages) (same : t.encoding hash = t'.encoding hash) : t.content = t'.content := by
  obtain ⟨⟨schema, name, type, blocked⟩, columns, secondary, fullText⟩ := Table.read_encoding wide fits fits' same
  have known := Table.columns_known fits included
  have known' := Table.columns_known fits' included'
  simp only [Table.content, Table.Content.mk.injEq, Multiset.coe_eq_coe]
  refine ⟨schema, name, type, ?_, ?_, ?_, blocked⟩
  · exact perm_map_of_perm_map (fun c member c' member' => Column.unnumbered_of_digest free
      (known c (by simp [member])) (known' c' (by simp [member']))) columns
  · refine map_eq_of_map_eq (fun c member c' member' => ?_) secondary
    have listed : c ∈ t.secondary.toList := Option.mem_toList.mpr member
    have listed' : c' ∈ t'.secondary.toList := Option.mem_toList.mpr member'
    exact Column.unnumbered_of_digest free (known c (by simp [listed])) (known' c' (by simp [listed']))
  · exact perm_map_of_perm_map (fun c member c' member' => Column.unnumbered_of_digest free
      (known c (by simp [member])) (known' c' (by simp [member']))) fullText

theorem engine_of_name {e e' : Engine} (same : e.name = e'.name) : e = e' := by
  cases e <;> cases e' <;> first | rfl | simp [Engine.name] at same

theorem engine_fits (e : Engine) : (Field.text e.name).Fits := by
  cases e <;> decide

theorem Snapshot.read_encoding (wide : ∀ m, (hash m).length = 32) {s s' : Snapshot} (fits : s.Fits) (fits' : s'.Fits)
    (same : s.encoding hash = s'.encoding hash) :
    (s.engine = s'.engine ∧ s.version = s'.version ∧ s.schema = s'.schema ∧ s.name = s'.name) ∧
      (s.tables.map fun t => hash (t.encoding hash)).Perm (s'.tables.map fun t => hash (t.encoding hash)) ∧
      (s.functions.map fun f => hash f.encoding).Perm (s'.functions.map fun f => hash f.encoding) ∧
      (s.virtualTables.map fun v => hash v.encoding).Perm (s'.virtualTables.map fun v => hash v.encoding) := by
  have kinds : [Field.text s.engine.name, .int s.version, .text s.schema, .text s.name].map Field.kind =
    [Field.text s'.engine.name, .int s'.version, .text s'.schema, .text s'.name].map Field.kind := rfl
  have identity := Digest.fields_framed kinds (List.forall_mem_cons.mpr ⟨engine_fits s.engine, fits.identity⟩)
    (List.forall_mem_cons.mpr ⟨engine_fits s'.engine, fits'.identity⟩)
  have tables := digests_framed (Table.encoding hash) wide fits.tables fits'.tables
  have functions := digests_framed Function.encoding wide fits.functions fits'.functions
  have virtualTables := digests_framed VirtualTable.encoding wide fits.virtualTables fits'.virtualTables
  have all := ((identity.append fun _ => tables).append fun _ => functions).append fun _ => virtualTables
  have bytes := Digest.fieldBytes_of_encode same
  simp only [Digest.fieldBytes_append] at bytes
  obtain ⟨⟨⟨identity, tables⟩, functions⟩, virtualTables⟩ := all.read bytes
  simp only [List.cons.injEq, Field.text.injEq, Field.int.injEq] at identity
  obtain ⟨engine, version, schema, name, _⟩ := identity
  exact ⟨⟨engine_of_name engine, version, schema, name⟩, tables, functions, virtualTables⟩

theorem Snapshot.content_of_encoding (wide : ∀ m, (hash m).length = 32) {s s' : Snapshot} (fits : s.Fits)
    (fits' : s'.Fits) (free : CollisionFree hash (s.hashed hash ++ s'.hashed hash))
    (same : hash (s.encoding hash) = hash (s'.encoding hash)) : s.content = s'.content := by
  have included : s.hashed hash ⊆ s.hashed hash ++ s'.hashed hash := List.subset_append_left _ _
  have included' : s'.hashed hash ⊆ s.hashed hash ++ s'.hashed hash := List.subset_append_right _ _
  have encodings := free _ (included s.encoding_hashed) _ (included' s'.encoding_hashed) same
  obtain ⟨⟨engine, version, schema, name⟩, tables, functions, virtualTables⟩ :=
    Snapshot.read_encoding wide fits fits' encodings
  simp only [Snapshot.content, Snapshot.Content.mk.injEq, Multiset.coe_eq_coe]
  refine ⟨engine, version, schema, name, ?_, ?_, ?_⟩
  · refine perm_map_of_perm_map (fun t member t' member' alike => ?_) tables
    have known := List.Subset.trans (s.table_hashed member) included
    have known' := List.Subset.trans (s'.table_hashed member') included'
    exact Table.content_of_encoding wide free (fits.eachTable t member) (fits'.eachTable t' member') known known'
      (free _ (known t.encoding_hashed) _ (known' t'.encoding_hashed) alike)
  · refine perm_of_perm_map (fun f member f' member' alike => ?_) functions
    exact Function.read_encoding (fits.eachFunction f member) (fits'.eachFunction f' member')
      (free _ (included (s.function_hashed member)) _ (included' (s'.function_hashed member')) alike)
  · refine perm_of_perm_map (fun v member v' member' alike => ?_) virtualTables
    exact VirtualTable.read_encoding (fits.eachVirtualTable v member) (fits'.eachVirtualTable v' member')
      (free _ (included (s.virtualTable_hashed member)) _ (included' (s'.virtualTable_hashed member')) alike)

end

/-- The digests of snapshots tell their contents, unless two of the byte strings that are hashed for them share a
    digest. -/
theorem Snapshot.content_of_digest {s s' : Snapshot} (fits : s.Fits) (fits' : s'.Fits)
    (free : CollisionFree Digest.sha256 (s.hashed Digest.sha256 ++ s'.hashed Digest.sha256))
    (same : s.digest = s'.digest) : s.content = s'.content :=
  Snapshot.content_of_encoding Digest.length_sha256 fits fits' free same

namespace Snapshot

def follows : Snapshot :=
  ofColumns .postgres 160000 "public" "app"
    [{ (Column.plain "public" "follows" "follower" "int").asPrimary with id := 0 },
      { (Column.plain "public" "follows" "followed" "int").asPrimary with id := 1 }]
    [⟨"add", [⟨1, "a", "int"⟩, ⟨2, "b", "int"⟩]⟩] []

def followsReversed : Snapshot :=
  ofColumns .postgres 160000 "public" "app"
    [{ (Column.plain "public" "follows" "followed" "int").asPrimary with id := 0 },
      { (Column.plain "public" "follows" "follower" "int").asPrimary with id := 1 }]
    [⟨"add", [⟨1, "a", "int"⟩, ⟨2, "b", "int"⟩]⟩] []

theorem follows_content : follows.content = followsReversed.content :=
  ofColumns_content .postgres 160000 "public" "app" [] (by decide +kernel) (.refl _)

theorem follows_distinct : ((follows.hashed Digest.sha256).map Digest.sha256).Nodup := by
  unfold hashed Snapshot.encoding Table.hashed Table.encoding
  simp only [Digest.setFields_eq_insertionSort]
  decide +kernel

theorem content_of_digest_follows :
    (follows.Fits ∧ followsReversed.Fits ∧
      CollisionFree Digest.sha256 (follows.hashed Digest.sha256 ++ followsReversed.hashed Digest.sha256) ∧
      follows.digest = followsReversed.digest) ∧
    follows.content = followsReversed.content := by
  have fits : follows.Fits := by decide +kernel
  have fits' : followsReversed.Fits := by decide +kernel
  have free : CollisionFree Digest.sha256 (follows.hashed Digest.sha256 ++ followsReversed.hashed Digest.sha256) :=
    (CollisionFree.of_nodup follows_distinct).mono
      (List.append_subset.mpr ⟨List.Subset.refl _, hashed_subset follows_content⟩)
  have same : follows.digest = followsReversed.digest := by
    rw [digest, digest, encoding_congr Digest.sha256 follows_content]
  exact ⟨⟨fits, fits', free, same⟩, content_of_digest fits fits' free same⟩

end Snapshot

end SchemaMutation.Schema
