import Mathlib.Algebra.Group.Int.Defs
import Mathlib.Algebra.Group.Nat.Defs
import Mathlib.Data.List.Sort
import SchemaMutation.Digest

/-!
# Framing

What the encoding of a list of fields tells of the fields. An encoding has no marks between its fields, so that two of
them are compared from the front: whenever the encodings of two fields begin equal byte strings, the fields are the
same and so are the rests (`Framed`). That makes an encoding with fields of known kinds readable
(`fields_framed`), a set of digests included, up to its order (`set_framed`); and the order of a set does not reach its
encoding in the first place (`setFields_perm`).
-/

namespace SchemaMutation.Digest

theorem littleEndian_succ (count n : Nat) :
    littleEndian (count + 1) n = UInt8.ofNat n :: littleEndian count (n / 256) := by
  have further (i : Nat) : n / Nat.pow 256 (i + 1) = n / 256 / Nat.pow 256 i := by
    rw [Nat.div_div_eq_div_mul, Nat.mul_comm]
    rfl
  have first : n / Nat.pow 256 0 = n := Nat.div_one n
  simp only [littleEndian, List.range_succ_eq_map, List.map_cons, List.map_map, Function.comp_def, Nat.succ_eq_add_one,
    first, further]

@[simp] theorem length_littleEndian (count n : Nat) : (littleEndian count n).length = count := by
  simp [littleEndian]

theorem littleEndian_inj {count n m : Nat} (fits : n < 256 ^ count) (fits' : m < 256 ^ count)
    (same : littleEndian count n = littleEndian count m) : n = m := by
  induction count generalizing n m with
  | zero => simp at fits fits'; omega
  | succ count ih =>
    rw [littleEndian_succ, littleEndian_succ, List.cons.injEq] at same
    obtain ⟨first, others⟩ := same
    have low : n % 256 = m % 256 := by simpa using congrArg UInt8.toNat first
    rw [Nat.pow_succ] at fits fits'
    have high : n / 256 = m / 256 := ih (by omega) (by omega) others
    omega

theorem length_sha256 (m : Bytes) : (sha256 m).length = 32 := by
  simp [sha256, Words.bytes, bigEndian]

@[simp] theorem length_intBytes (i : Int) : (intBytes i).length = 8 := length_littleEndian ..

theorem intBytes_inj {i j : Int} (same : intBytes i = intBytes j) : i % 2 ^ 64 = j % 2 ^ 64 := by
  have equal := littleEndian_inj (by omega) (by omega) same
  omega

theorem utf8_inj {s s' : String} (same : utf8 s = utf8 s') : s = s' := by
  have bytes : s.toUTF8 = s'.toUTF8 := ByteArray.ext (Array.toList_inj.mp same)
  exact String.toByteArray_inj.mp bytes

/-- Whenever `x` and `y` begin equal byte strings, `P` holds and the rests are the same. -/
def Framed (x y : Bytes) (P : Prop) : Prop := ∀ r r' : Bytes, x ++ r = y ++ r' → P ∧ r = r'

namespace Framed
variable {x x' y y' : Bytes} {P Q : Prop}

theorem of_length (same : x.length = y.length) (read : x = y → P) : Framed x y P := fun _ _ equal =>
  (List.append_inj equal same).imp_left read

theorem mono (framed : Framed x y P) (read : P → Q) : Framed x y Q := fun r r' equal =>
  (framed r r' equal).imp_left read

/-- Parts are read one behind the other. What the first ones tell may help with the second ones. -/
theorem append (first : Framed x y P) (second : P → Framed x' y' Q) : Framed (x ++ x') (y ++ y') (P ∧ Q) := by
  intro r r' equal
  rw [List.append_assoc, List.append_assoc] at equal
  obtain ⟨told, rest⟩ := first _ _ equal
  obtain ⟨further, last⟩ := second told _ _ rest
  exact ⟨⟨told, further⟩, last⟩

theorem read (framed : Framed x y P) (same : x = y) : P :=
  (framed [] [] (congrArg (· ++ []) same)).1

end Framed

inductive Kind where
  | text
  | flag
  | int
  | digest

namespace Field

def kind : Field → Kind
  | .text _ => .text
  | .flag _ => .flag
  | .int _ => .int
  | .digest _ => .digest

/-- A text whose length fits into 64 bits, a signed number of 64 bits, a digest of 32 bytes. -/
def Fits : Field → Prop
  | .text s => s.utf8ByteSize < 2 ^ 64
  | .flag _ => True
  | .int i => -2 ^ 63 ≤ i ∧ i < 2 ^ 63
  | .digest d => d.length = 32

instance : (f : Field) → Decidable f.Fits
  | .text s => inferInstanceAs (Decidable (s.utf8ByteSize < 2 ^ 64))
  | .flag _ => .isTrue trivial
  | .int i => inferInstanceAs (Decidable (-2 ^ 63 ≤ i ∧ i < 2 ^ 63))
  | .digest d => inferInstanceAs (Decidable (d.length = 32))

theorem int_framed {i j : Int} (known : i % 2 ^ 64 = j % 2 ^ 64 → i = j) :
    Framed (intBytes i) (intBytes j) (i = j) :=
  .of_length (by simp) fun same => known (intBytes_inj same)

theorem text_framed {s s' : String} (fits : (text s).Fits) (fits' : (text s').Fits) :
    Framed (text s).bytes (text s').bytes (s = s') := by
  simp only [Fits] at fits fits'
  have sizes : Framed (intBytes s.utf8ByteSize) (intBytes s'.utf8ByteSize) ((s.utf8ByteSize : Int) = s'.utf8ByteSize) :=
    int_framed (by omega)
  refine (sizes.append fun sized => ?_).mono And.right
  exact .of_length (Int.ofNat.inj sized) utf8_inj

theorem flag_framed (b b' : Bool) : Framed (flag b).bytes (flag b').bytes (b = b') := by
  refine .of_length rfl fun same => ?_
  cases b <;> cases b' <;> first | rfl | cases same

theorem framed : ∀ {f f' : Field}, f.kind = f'.kind → f.Fits → f'.Fits → Framed f.bytes f'.bytes (f = f')
  | .text _, .text _, _, fits, fits' => (text_framed fits fits').mono (congrArg _)
  | .flag b, .flag b', _, _, _ => (flag_framed b b').mono (congrArg _)
  | .int _, .int _, _, fits, fits' => by
    simp only [Fits] at fits fits'
    exact (int_framed (by omega)).mono (congrArg _)
  | .digest _, .digest _, _, fits, fits' => .of_length (fits.trans fits'.symm) (congrArg _)

end Field

def fieldBytes (fs : List Field) : Bytes := fs.flatMap Field.bytes

theorem fieldBytes_of_encode {tag : String} {fs gs : List Field} (same : encode tag fs = encode tag gs) :
    fieldBytes fs = fieldBytes gs := List.append_cancel_left same

theorem fieldBytes_append (fs gs : List Field) : fieldBytes (fs ++ gs) = fieldBytes fs ++ fieldBytes gs :=
  List.flatMap_append

theorem fieldBytes_singleton (f : Field) : fieldBytes [f] = f.bytes := List.flatMap_singleton ..

theorem fields_framed {fs gs : List Field} (kinds : fs.map Field.kind = gs.map Field.kind) (fits : ∀ f ∈ fs, f.Fits)
    (fits' : ∀ g ∈ gs, g.Fits) : Framed (fieldBytes fs) (fieldBytes gs) (fs = gs) := by
  induction fs generalizing gs with
  | nil =>
    cases gs with
    | nil => exact .of_length rfl fun _ => rfl
    | cons g gs => cases kinds
  | cons f fs ih =>
    cases gs with
    | nil => cases kinds
    | cons g gs =>
      obtain ⟨kind, others⟩ := List.cons.inj kinds
      obtain ⟨fit, fits⟩ := List.forall_mem_cons.mp fits
      obtain ⟨fit', fits'⟩ := List.forall_mem_cons.mp fits'
      refine ((Field.framed kind fit fit').append fun _ => ih others fits fits').mono ?_
      rintro ⟨rfl, rfl⟩
      rfl

theorem bytesLE_trans (a b c : Bytes) (first : bytesLE a b = true) (second : bytesLE b c = true) :
    bytesLE a c = true := by
  simp only [bytesLE, Bool.not_eq_true', decide_eq_false_iff_not] at first second ⊢
  exact List.le_trans first second

theorem bytesLE_total (a b : Bytes) : (bytesLE a b || bytesLE b a) = true := by
  simp only [bytesLE, Bool.or_eq_true, Bool.not_eq_true', decide_eq_false_iff_not]
  exact List.le_total a b

theorem bytesLE_antisymm (a b : Bytes) (first : bytesLE a b = true) (second : bytesLE b a = true) : a = b := by
  simp only [bytesLE, Bool.not_eq_true', decide_eq_false_iff_not] at first second
  exact List.le_antisymm first second

theorem mergeSort_perm_eq {ds es : List Bytes} (same : ds.Perm es) : ds.mergeSort bytesLE = es.mergeSort bytesLE := by
  refine List.Perm.eq_of_pairwise (fun a b _ _ => bytesLE_antisymm a b)
    (List.pairwise_mergeSort bytesLE_trans bytesLE_total ds) (List.pairwise_mergeSort bytesLE_trans bytesLE_total es) ?_
  exact ((List.mergeSort_perm ds _).trans same).trans (List.mergeSort_perm es _).symm

theorem setFields_perm {ds es : List Bytes} (same : ds.Perm es) : setFields ds = setFields es := by
  rw [setFields, setFields, mergeSort_perm_eq same, same.length_eq]

/-- A set may as well be sorted by insertion, which recurs on the list and so can be run in a proof. -/
theorem setFields_eq_insertionSort (ds : List Bytes) :
    setFields ds = .int ds.length :: (ds.insertionSort fun d e => bytesLE d e).map .digest := by
  have : Std.Total fun d e => bytesLE d e = true := ⟨fun d e => Bool.or_eq_true_iff.mp (bytesLE_total d e)⟩
  have : IsTrans Bytes fun d e => bytesLE d e = true := ⟨bytesLE_trans⟩
  have : Std.Antisymm fun d e => bytesLE d e = true := ⟨bytesLE_antisymm⟩
  have sorted := List.mergeSort_eq_insertionSort (fun d e => bytesLE d e = true) ds
  simp only [Bool.decide_eq_true] at sorted
  rw [setFields, sorted]

/-- The members of a set are read from its bytes, but for their order. -/
theorem set_framed {ds es : List Bytes} (short : ds.length < 2 ^ 64) (short' : es.length < 2 ^ 64)
    (wide : ∀ d ∈ ds, d.length = 32) (wide' : ∀ e ∈ es, e.length = 32) :
    Framed (fieldBytes (setFields ds)) (fieldBytes (setFields es)) (ds.Perm es) := by
  have counts : Framed (intBytes ds.length) (intBytes es.length) ((ds.length : Int) = es.length) :=
    Field.int_framed (by omega)
  have members (sized : (ds.length : Int) = es.length) :
      Framed (fieldBytes ((ds.mergeSort bytesLE).map .digest)) (fieldBytes ((es.mergeSort bytesLE).map .digest))
        ((ds.mergeSort bytesLE).map Field.digest = (es.mergeSort bytesLE).map .digest) := by
    refine fields_framed ?_ ?_ ?_
    · simp only [List.map_map, Function.comp_def, Field.kind, List.map_const', List.length_mergeSort,
        Int.ofNat.inj sized]
    · simpa [Field.Fits] using wide
    · simpa [Field.Fits] using wide'
  refine (counts.append members).mono ?_
  rintro ⟨_, sorted⟩
  have equal := List.map_injective_iff.mpr (fun _ _ => Field.digest.inj) sorted
  exact (List.mergeSort_perm ds _).symm.trans (equal ▸ List.mergeSort_perm es _)

end SchemaMutation.Digest
