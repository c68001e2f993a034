import SchemaMutation.Json.Record
import SchemaMutation.Proofs.Outcome

/-!
# What readers can give

A property that every value of a reader has (`Yields`), or every value that it reads when so many levels may be opened
(`YieldsAt`), from the smallest readers up to records. A record has the property when its fields, their defaults
included, have properties that imply it (`Record.yields`), be it read from an object or from an array.
-/

namespace SchemaMutation.Json

open Text (Parsed)

/-- Whatever the reader reads has the property. -/
def Yields {α : Type} (P : α → Prop) (read : Reader α) : Prop :=
  ∀ depth cs a rest, read depth cs = .ok (a, rest) → P a

/-- Whatever the reader reads when so many levels may be opened has the property. -/
def YieldsAt {α : Type} (depth : Nat) (P : α → Prop) (read : Reader α) : Prop :=
  ∀ cs a rest, read depth cs = .ok (a, rest) → P a

def IsInt32 (i : Int) : Prop := -0x80000000 ≤ i ∧ i ≤ 0x7FFFFFFF

def IsInt64 (i : Int) : Prop := -0x8000000000000000 ≤ i ∧ i ≤ 0x7FFFFFFFFFFFFFFF

instance (i : Int) : Decidable (IsInt32 i) := inferInstanceAs (Decidable (_ ∧ _))

instance (i : Int) : Decidable (IsInt64 i) := inferInstanceAs (Decidable (_ ∧ _))

section
variable {α : Type} {P : α → Prop} {read : Reader α}

theorem yields_true (read : Reader α) : Yields (fun _ => True) read := fun _ _ _ _ _ => trivial

theorem yieldsAt_true {depth : Nat} (read : Reader α) : YieldsAt depth (fun _ => True) read := fun _ _ _ _ => trivial

theorem wrongType_ne_ok {wanted : String} {cs : List Char} {a : α} : wrongType wanted cs ≠ .ok a := by
  intro same
  unfold wrongType at same
  split at same <;> try split at same
  all_goals simp [bind_eq_ok, fault] at same

theorem yields_integer (least greatest : Int) (wanted : String) :
    Yields (fun i => least ≤ i ∧ i ≤ greatest) (readInteger least greatest wanted) := by
  have range : ∀ (n : Number) (i : Int) (cs rest : List Char),
      integerIn least greatest wanted n cs = .ok (i, rest) → least ≤ i ∧ i ≤ greatest := by
    intro n i cs rest given
    unfold integerIn at given
    split at given <;> try split at given
    · cases given
      assumption
    · cases given
    · cases given
  intro depth cs i rest given
  unfold readInteger at given
  split at given
  · obtain ⟨⟨n, more⟩, _, given⟩ := bind_eq_ok.mp given
    exact range n i more rest given
  · split at given
    · obtain ⟨⟨n, more⟩, _, given⟩ := bind_eq_ok.mp given
      exact range n i more rest given
    · exact (wrongType_ne_ok given).elim
  · cases given

theorem yields_int32 : Yields IsInt32 readInt32 := yields_integer _ _ _

theorem yields_int64 : Yields IsInt64 readInt64 := yields_integer _ _ _

theorem Yields.yieldsAt (yields : Yields P read) (depth : Nat) : YieldsAt depth P read := yields depth

theorem YieldsAt.imp {depth : Nat} {Q : α → Prop} (yields : YieldsAt depth P read) (weaker : ∀ a, P a → Q a) :
    YieldsAt depth Q read := fun cs a rest given => weaker a (yields cs a rest given)

theorem YieldsAt.map {β : Type} {depth : Nat} {Q : β → Prop} {f : α → β} (yields : YieldsAt depth P read)
    (weaker : ∀ a, P a → Q (f a)) : YieldsAt depth Q (read.map f) := by
  intro cs b rest given
  obtain ⟨⟨a, more⟩, inner, given⟩ := bind_eq_ok.mp given
  cases given
  exact weaker a (yields _ _ _ inner)

theorem YieldsAt.option {depth : Nat} (yields : YieldsAt depth P read) :
    YieldsAt depth (fun o => ∀ a ∈ o, P a) (readOption read) := by
  intro cs o rest given
  unfold readOption at given
  split at given
  · obtain ⟨_, _, given⟩ := bind_eq_ok.mp given
    cases given
    simp
  · obtain ⟨⟨a, more⟩, inner, given⟩ := bind_eq_ok.mp given
    cases given
    intro b same
    cases same
    exact yields _ _ _ inner

theorem Yields.option (yields : Yields P read) : Yields (fun o => ∀ a ∈ o, P a) (readOption read) :=
  fun depth => (yields.yieldsAt depth).option

theorem readItems_forall {item : List Char → Reading (Parsed α)}
    (yields : ∀ cs a rest, item cs = .ok (a, rest) → P a) {fuel : Nat} {first : Bool} {cs rest : List Char}
    {as : List α} (given : readItems item fuel first cs = .ok (as, rest)) : ∀ a ∈ as, P a := by
  induction fuel generalizing first cs as with
  | zero => cases given
  | succ fuel ih =>
    obtain ⟨⟨more, cs'⟩, _, given⟩ := bind_eq_ok.mp given
    cases more with
    | false =>
      cases given
      simp
    | true =>
      obtain ⟨⟨a, cs'⟩, head, given⟩ := bind_eq_ok.mp given
      obtain ⟨⟨as, cs'⟩, tail, given⟩ := bind_eq_ok.mp given
      cases given
      exact List.forall_mem_cons.mpr ⟨yields _ _ _ head, ih tail⟩

theorem readList_zero (Q : List α → Prop) (read : Reader α) : YieldsAt 0 Q (readList read) := by
  intro cs as rest given
  unfold readList at given
  split at given
  · cases given
  · cases given
  · exact (wrongType_ne_ok given).elim

theorem YieldsAt.list {d : Nat} (yields : YieldsAt d P read) :
    YieldsAt (d + 1) (fun as => ∀ a ∈ as, P a) (readList read) := by
  intro cs as rest given
  unfold readList at given
  split at given
  · obtain ⟨⟨as, cs'⟩, items, given⟩ := bind_eq_ok.mp given
    obtain ⟨_, _, given⟩ := bind_eq_ok.mp given
    cases given
    exact readItems_forall yields items
  · cases given
  · exact (wrongType_ne_ok given).elim

theorem Yields.list (yields : Yields P read) : Yields (fun as => ∀ a ∈ as, P a) (readList read)
  | 0 => readList_zero _ read
  | d + 1 => (yields.yieldsAt d).list

end

theorem readMembers_invariant {σ : Type} {I : σ → Prop} {member : σ → String → List Char → Reading (Parsed σ)}
    (step : ∀ state key cs next rest, I state → member state key cs = .ok (next, rest) → I next) {fuel : Nat}
    {first : Bool} {state final : σ} {cs rest : List Char} (holds : I state)
    (given : readMembers member fuel first state cs = .ok (final, rest)) : I final := by
  induction fuel generalizing first state cs with
  | zero => cases given
  | succ fuel ih =>
    obtain ⟨⟨more, cs'⟩, _, given⟩ := bind_eq_ok.mp given
    cases more with
    | false =>
      cases given
      exact holds
    | true =>
      obtain ⟨⟨key, cs'⟩, _, given⟩ := bind_eq_ok.mp given
      obtain ⟨⟨next, cs'⟩, taken, given⟩ := bind_eq_ok.mp given
      exact ih (step _ _ _ _ _ holds taken) given

@[reducible] def Properties : List Type → Type
  | [] => Unit
  | α :: ts => (α → Prop) × Properties ts

namespace Properties

def none : (ts : List Type) → Properties ts
  | [] => ()
  | _ :: ts => (fun _ => True, none ts)

def Hold : {ts : List Type} → Properties ts → Values ts → Prop
  | [], _, _ => True
  | _ :: _, (P, rest), (a, values) => P a ∧ rest.Hold values

def HoldSoFar : {ts : List Type} → Properties ts → Draft ts → Prop
  | [], _, _ => True
  | _ :: _, (P, rest), (value, draft) => (∀ a ∈ value, P a) ∧ rest.HoldSoFar draft

end Properties

namespace Fields

/-- Every field yields its property, and its defaults have it. -/
def Yield : {ts : List Type} → Fields ts → Properties ts → Prop
  | _, .nil, _ => True
  | _, .cons field rest, (P, properties) =>
    (Yields P field.read ∧ (∀ a ∈ field.absent, P a) ∧ ∀ a ∈ field.beyond, P a) ∧ rest.Yield properties

def YieldAt (depth : Nat) : {ts : List Type} → Fields ts → Properties ts → Prop
  | _, .nil, _ => True
  | _, .cons field rest, (P, properties) =>
    (YieldsAt depth P field.read ∧ (∀ a ∈ field.absent, P a) ∧ ∀ a ∈ field.beyond, P a) ∧ rest.YieldAt depth properties

variable {ts : List Type} {fields : Fields ts} {properties : Properties ts}

theorem Yield.yieldAt (yields : fields.Yield properties) (depth : Nat) : fields.YieldAt depth properties := by
  induction fields with
  | nil => trivial
  | cons field rest ih => exact ⟨⟨yields.1.1 depth, yields.1.2⟩, ih yields.2⟩

theorem YieldAt.required {α : Type} {P : α → Prop} {depth : Nat} {name : String} {read : Reader α}
    (yields : YieldsAt depth P read) (rest : fields.YieldAt depth properties) :
    (cons (.required name read) fields).YieldAt depth (P, properties) :=
  ⟨⟨yields, nofun, nofun⟩, rest⟩

theorem YieldAt.defaulting {α : Type} {P : α → Prop} {depth : Nat} {name : String} {read : Reader α} {value : α}
    (yields : YieldsAt depth P read) (default : P value) (rest : fields.YieldAt depth properties) :
    (cons (.defaulting name read value) fields).YieldAt depth (P, properties) := by
  have given : ∀ a ∈ some value, P a := by
    rintro a ⟨⟩
    exact default
  exact ⟨⟨yields, given, given⟩, rest⟩

theorem Yield.required {α : Type} {P : α → Prop} {name : String} {read : Reader α} (yields : Yields P read)
    (rest : fields.Yield properties) : (cons (.required name read) fields).Yield (P, properties) :=
  ⟨⟨yields, nofun, nofun⟩, rest⟩

theorem Yield.defaulting {α : Type} {P : α → Prop} {name : String} {read : Reader α} {value : α}
    (yields : Yields P read) (default : P value) (rest : fields.Yield properties) :
    (cons (.defaulting name read value) fields).Yield (P, properties) := by
  have given : ∀ a ∈ some value, P a := by
    rintro a ⟨⟩
    exact default
  exact ⟨⟨yields, given, given⟩, rest⟩

theorem Yield.optional {α : Type} {P : α → Prop} {name : String} {read : Reader α} (yields : Yields P read)
    (rest : fields.Yield properties) :
    (cons (.optional name read) fields).Yield (fun o => ∀ a ∈ o, P a, properties) := by
  refine ⟨⟨yields.option, ?_, nofun⟩, rest⟩
  rintro o ⟨⟩
  simp

theorem yield_none (fields : Fields ts) : fields.Yield (.none ts) := by
  induction fields with
  | nil => trivial
  | cons field rest ih => exact ⟨⟨yields_true _, fun _ _ => trivial, fun _ _ => trivial⟩, ih⟩

theorem blank_hold (fields : Fields ts) (properties : Properties ts) : properties.HoldSoFar fields.blank := by
  induction fields with
  | nil => trivial
  | cons field rest ih => exact ⟨by simp, ih properties.2⟩

theorem readField?_hold {depth : Nat} (yields : fields.YieldAt depth properties) {key : String} {cs rest : List Char}
    {draft next : Draft ts} (holds : properties.HoldSoFar draft)
    (given : fields.readField? key depth cs draft = some (.ok (next, rest))) : properties.HoldSoFar next := by
  induction fields with
  | nil => cases given
  | cons field others ih =>
    obtain ⟨P, properties⟩ := properties
    obtain ⟨value, draft⟩ := draft
    simp only [Fields.readField?] at given
    split at given
    · cases value with
      | some a => cases given
      | none =>
        obtain ⟨colon, _, given⟩ := bind_eq_ok.mp (Option.some.inj given)
        obtain ⟨⟨a, more⟩, read, given⟩ := bind_eq_ok.mp given
        cases given
        refine ⟨fun b same => ?_, holds.2⟩
        cases same
        exact yields.1.1 _ _ _ read
    · obtain ⟨step, inner, given⟩ := Option.map_eq_some_iff.mp given
      obtain ⟨⟨later, more⟩, rfl, given⟩ := bind_eq_ok.mp given
      cases given
      exact ⟨holds.1, ih yields.2 holds.2 inner⟩

theorem readMember_hold {depth : Nat} (yields : fields.YieldAt depth properties) {draft next : Draft ts} {key : String}
    {cs rest : List Char} (holds : properties.HoldSoFar draft)
    (given : fields.readMember depth draft key cs = .ok (next, rest)) : properties.HoldSoFar next := by
  unfold readMember at given
  split at given
  · rename_i step found
    exact readField?_hold yields holds (given ▸ found)
  · obtain ⟨_, _, given⟩ := bind_eq_ok.mp given
    obtain ⟨_, _, given⟩ := bind_eq_ok.mp given
    cases given
    exact holds

theorem complete_hold {depth : Nat} (yields : fields.YieldAt depth properties) {draft : Draft ts} {values : Values ts}
    (holds : properties.HoldSoFar draft) (given : fields.complete draft = .ok values) : properties.Hold values := by
  induction fields with
  | nil => trivial
  | cons field rest ih =>
    obtain ⟨P, properties⟩ := properties
    obtain ⟨value, draft⟩ := draft
    simp only [complete] at given
    split at given
    · cases given
    · rename_i a chosen
      obtain ⟨later, inner, given⟩ := bind_eq_ok.mp given
      cases given
      refine ⟨?_, ih yields.2 holds.2 inner⟩
      rcases Option.or_eq_some_iff.mp chosen with own | ⟨_, default⟩
      · exact holds.1 a own
      · exact yields.1.2.1 a default

theorem readItems_hold {depth : Nat} (yields : fields.YieldAt depth properties) {wanted : String} {index : Nat}
    {first : Bool} {cs rest : List Char} {values : Values ts}
    (given : fields.readItems wanted depth index first cs = .ok (values, rest)) : properties.Hold values := by
  induction fields generalizing index first cs with
  | nil => trivial
  | cons field others ih =>
    obtain ⟨P, properties⟩ := properties
    obtain ⟨⟨more, cs'⟩, _, given⟩ := bind_eq_ok.mp given
    cases more with
    | true =>
      obtain ⟨⟨a, cs'⟩, read, given⟩ := bind_eq_ok.mp given
      obtain ⟨⟨later, cs'⟩, inner, given⟩ := bind_eq_ok.mp given
      cases given
      exact ⟨yields.1.1 _ _ _ read, ih yields.2 inner⟩
    | false =>
      simp only at given
      split at given
      · cases given
      · rename_i a default
        obtain ⟨⟨later, cs'⟩, inner, given⟩ := bind_eq_ok.mp given
        cases given
        exact ⟨yields.1.2.2 a default, ih yields.2 inner⟩

end Fields

theorem Record.read_zero {α : Type} (r : Record α) (P : α → Prop) : YieldsAt 0 P r.read := by
  intro cs a rest given
  unfold Record.read at given
  split at given
  · cases given
  · cases given
  · cases given
  · exact (wrongType_ne_ok given).elim

/-- A record has a property that follows from those of its fields, which are read one level deeper. -/
theorem Record.yieldsAt {α : Type} (r : Record α) {d : Nat} {P : α → Prop} (properties : Properties r.types)
    (fields : r.fields.YieldAt d properties) (make : ∀ values, properties.Hold values → P (r.make values)) :
    YieldsAt (d + 1) P r.read := by
  intro cs a rest given
  unfold Record.read at given
  split at given
  · obtain ⟨⟨draft, cs'⟩, members, given⟩ := bind_eq_ok.mp given
    obtain ⟨values, whole, given⟩ := bind_eq_ok.mp given
    obtain ⟨_, _, given⟩ := bind_eq_ok.mp given
    cases given
    have holds := readMembers_invariant (I := properties.HoldSoFar)
      (fun _ _ _ _ _ => Fields.readMember_hold fields) (r.fields.blank_hold properties) members
    exact make values (Fields.complete_hold fields holds whole)
  · obtain ⟨⟨values, cs'⟩, items, given⟩ := bind_eq_ok.mp given
    obtain ⟨_, _, given⟩ := bind_eq_ok.mp given
    cases given
    exact make values (Fields.readItems_hold fields items)
  · cases given
  · exact (wrongType_ne_ok given).elim

theorem Record.yields {α : Type} (r : Record α) {P : α → Prop} (properties : Properties r.types)
    (fields : r.fields.Yield properties) (make : ∀ values, properties.Hold values → P (r.make values)) :
    Yields P r.read
  | 0 => r.read_zero P
  | d + 1 => r.yieldsAt properties (fields.yieldAt d) make

end SchemaMutation.Json
