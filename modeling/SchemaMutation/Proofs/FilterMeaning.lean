import SchemaMutation.Proofs.Grammar

/-!
# The meaning of a rendered filter

A filter has a truth value for all truth values of its conditions. The text that is written for it reads as a formula
with the same value, although parentheses stand only where a group would be torn apart without them
(`renderFilter_meaning`).
-/

namespace SchemaMutation.Query.Filter

open Sql (Truth)

mutual
/-- The truth value, given that of every condition by its place. `place` is that of the first condition of the
    filter. -/
def truth (v : Nat → Truth) (place : Nat) : Filter → Truth
  | .and parts => groupTruth .and .holds v place parts
  | .or parts => groupTruth .or .fails v place parts
  | .not part => (truth v place part).not
  | .compare _ _ _ => v place
  | .isNull _ _ => v place
  | .isIn _ _ _ => v place

/-- The truth values of the parts combined, the neutral one standing behind the last. -/
def groupTruth (combine : Truth → Truth → Truth) (neutral : Truth) (v : Nat → Truth) (place : Nat) :
    List Filter → Truth
  | [] => neutral
  | part :: rest =>
    combine (truth v place part) (groupTruth combine neutral v (place + part.conditions.length) rest)
end

end SchemaMutation.Query.Filter

namespace SchemaMutation.Sql

open Query (Filter)
open Schema (Table)

def Token.parts : Token → List Part
  | .atom a => [.condition a.text]
  | other => word other.text

def tokensParts (ts : List Token) : List Part := ts.flatMap Token.parts

@[simp] theorem tokensParts_append (ts us : List Token) : tokensParts (ts ++ us) = tokensParts ts ++ tokensParts us :=
  List.flatMap_append

theorem tokensParts_cons (token : Token) (ts : List Token) :
    tokensParts (token :: ts) = token.parts ++ tokensParts ts := rfl

theorem partsText_tokensParts (ts : List Token) : partsText (tokensParts ts) = tokensText ts := by
  have own (token : Token) : partsText token.parts = token.text := by
    cases token with
    | atom a => simp [Token.parts, Token.text, partsText, Part.chars]
    | _ => exact partsText_word _
  induction ts with
  | nil => rfl
  | cons token ts ih =>
    rw [tokensParts_cons, partsText_append, own, ih, tokensText, tokensText, List.map_cons, String.join_cons]

/-- A formula that means what a filter means. -/
structure Means (e : Formula) (f : Filter) : Prop where
  places : e.atoms.length = f.conditions.length
  value : ∀ v place, e.value v place = f.truth v place

def levelAt (top : Bool) : Level := if top then .expression else .factor

def ReadsAs (level : Level) (ts : List Token) (f : Filter) : Prop := ∃ e, Reads level (tokensParts ts) e ∧ Means e f

theorem factor_reads {ps : List Part} {e : Formula} (single : Reads .factor ps e) (top : Bool) :
    Reads (levelAt top) ps e := by
  cases top with
  | true => exact .term (.factor single)
  | false => exact single

theorem parenthesis_reads {ts : List Token} {e : Formula} (inner : Reads .expression (tokensParts ts) e) :
    Reads .primary (tokensParts (.open :: ts ++ [.close])) e := by
  have text : tokensParts (.open :: ts ++ [.close]) = word "(" ++ tokensParts ts ++ word ")" := by
    rw [tokensParts_append, tokensParts_cons]
    rfl
  exact text ▸ .parenthesis inner

/-- A word that joins factors at a level, the formula that it makes of them, and the truth of that formula. -/
structure Joins (joiner : Token) (level : Level) (join : Formula → Formula → Formula)
    (combine : Truth → Truth → Truth) (neutral : Bool) : Prop where
  start : ∀ {ps e}, Reads .factor ps e → Reads level ps e
  next : ∀ {ls rs l r}, Reads level ls l → Reads .factor rs r → Reads level (ls ++ joiner.parts ++ rs) (join l r)
  finish : ∀ {ps e}, Reads level ps e → Reads .expression ps e
  atoms : ∀ l r, (join l r).atoms = l.atoms ++ r.atoms
  value : ∀ l r v place,
    (join l r).value v place = combine (l.value v place) (r.value v (place + l.atoms.length))
  assoc : ∀ a b c, combine (combine a b) c = combine a (combine b c)
  unit : ∀ a, combine a (.ofBool neutral) = a

theorem joins_and : Joins .and .term .and .and true where
  start := .factor
  next := .and
  finish := .term
  atoms _ _ := rfl
  value _ _ _ _ := rfl
  assoc := Truth.and_assoc
  unit := Truth.and_holds

theorem joins_or : Joins .or .expression .or .or false where
  start single := .term (.factor single)
  next left right := .or left (.factor right)
  finish whole := whole
  atoms _ _ := rfl
  value _ _ _ _ := rfl
  assoc := Truth.or_assoc
  unit := Truth.or_fails

section
variable {t : Table} {joiner : Token} {level : Level} {join : Formula → Formula → Formula}
variable {combine : Truth → Truth → Truth} {neutral : Bool} {parts : List Filter}

theorem joinedTokens_reads (joins : Joins joiner level join combine neutral)
    (each : ∀ part ∈ parts, ∀ ts, tokens t false part = .ok ts → ReadsAs .factor ts part) :
    ∀ {ps l ts}, Reads level ps l → joinedTokens t joiner parts = .ok ts →
      ∃ e, Reads level (ps ++ tokensParts ts) e ∧
        e.atoms.length = l.atoms.length + (Filter.conditionsOfAll parts).length ∧
        ∀ v place, e.value v place =
          combine (l.value v place)
            (Filter.groupTruth combine (.ofBool neutral) v (place + l.atoms.length) parts) := by
  -- The formula on the left grows with every part, so the induction is over all of them.
  induction parts with
  | nil =>
    intro ps l ts left laid
    simp only [joinedTokens, Except.ok.injEq] at laid
    subst laid
    refine ⟨l, by simpa [tokensParts] using left, by simp [Filter.conditionsOfAll], fun v place => ?_⟩
    rw [Filter.groupTruth, joins.unit]
  | cons part rest ih =>
    intro ps l ts left laid
    obtain ⟨first, firstLaid, others, othersLaid, rfl⟩ := joinedTokens_cons.mp laid
    obtain ⟨r, right, means⟩ := each part (by simp) first firstLaid
    obtain ⟨e, whole, places, value⟩ :=
      ih (fun other member => each other (by simp [member])) (joins.next left right) othersLaid
    refine ⟨e, by simpa [tokensParts_cons] using whole, ?_, fun v place => ?_⟩
    · rw [places, joins.atoms, Filter.conditionsOfAll, List.length_append, List.length_append, means.places]
      omega
    · rw [value, joins.value, joins.atoms, joins.assoc, Filter.groupTruth, List.length_append, means.value,
        means.places, Nat.add_assoc]

theorem groupTokens_reads (joins : Joins joiner level join combine neutral)
    (each : ∀ part ∈ parts, ∀ top ts, tokens t top part = .ok ts → ReadsAs (levelAt top) ts part) {top : Bool}
    {ts : List Token} (laid : groupTokens t top joiner neutral parts = .ok ts) :
    ∃ e, Reads (levelAt top) (tokensParts ts) e ∧ e.atoms.length = (Filter.conditionsOfAll parts).length ∧
      ∀ v place, e.value v place = Filter.groupTruth combine (.ofBool neutral) v place parts := by
  rcases groupTokens_cases laid with ⟨rfl, rfl⟩ | ⟨part, rfl, laid⟩ |
    ⟨part, rest, first, others, rfl, firstLaid, othersLaid, rfl⟩
  · have alone : tokensParts [.constant neutral] = word (if neutral then "true" else "false") :=
      List.append_nil _
    exact ⟨.constant neutral, factor_reads (.primary (alone ▸ .constant neutral)) top, rfl, fun _ _ => rfl⟩
  · obtain ⟨e, reads, means⟩ := each part (by simp) top ts laid
    refine ⟨e, reads, by simp [Filter.conditionsOfAll, means.places], fun v place => ?_⟩
    rw [means.value, Filter.groupTruth, Filter.groupTruth, joins.unit]
  · obtain ⟨l, left, means⟩ := each part (by simp) false first firstLaid
    obtain ⟨e, whole, places, value⟩ := joinedTokens_reads joins
      (fun other member => each other (by simp [member]) false) (joins.start left) othersLaid
    rw [← tokensParts_append] at whole
    refine ⟨e, ?_, ?_, fun v place => ?_⟩
    · cases top with
      | true => exact joins.finish whole
      | false => exact .primary (parenthesis_reads (joins.finish whole))
    · rw [places, means.places, Filter.conditionsOfAll, List.length_append]
    · rw [value, means.value, means.places, Filter.groupTruth]

end

theorem atom_reads {f : Filter} {a : Atom} (single : f.conditions = [f])
    (itself : ∀ v place, f.truth v place = v place) (top : Bool) : ReadsAs (levelAt top) [.atom a] f :=
  ⟨.atom a.text, factor_reads (.primary (.atom a.text)) top, by rw [single]; rfl,
    fun v place => (itself v place).symm⟩

theorem tokens_reads {t : Table} : ∀ (f : Filter) (top : Bool) (ts : List Token), tokens t top f = .ok ts →
    ReadsAs (levelAt top) ts f := by
  intro f
  induction f using Filter.induct with
  | and parts each =>
    intro top ts laid
    obtain ⟨e, reads, places, value⟩ := groupTokens_reads joins_and each (tokens_and parts ▸ laid)
    exact ⟨e, reads, places, value⟩
  | or parts each =>
    intro top ts laid
    obtain ⟨e, reads, places, value⟩ := groupTokens_reads joins_or each (tokens_or parts ▸ laid)
    exact ⟨e, reads, places, value⟩
  | not part ih =>
    intro top ts laid
    obtain ⟨inner, innerLaid, rfl⟩ := tokens_not.mp laid
    obtain ⟨e, reads, means⟩ := ih true inner innerLaid
    have body : Reads .factor (word "NOT " ++ tokensParts (.open :: inner ++ [.close])) (.not e) :=
      .not (.primary (parenthesis_reads reads))
    refine ⟨.not e, factor_reads body top, means.places, fun v place => ?_⟩
    rw [Formula.value, means.value, Filter.truth]
  | compare column op value =>
    intro top ts laid
    obtain ⟨name, _, s, _, rfl⟩ := tokens_compare.mp laid
    exact atom_reads rfl (fun _ _ => rfl) top
  | isNull column negated =>
    intro top ts laid
    obtain ⟨name, _, rfl⟩ := tokens_isNull.mp laid
    exact atom_reads rfl (fun _ _ => rfl) top
  | isIn column values negated =>
    intro top ts laid
    obtain ⟨_, name, _, ss, _, rfl⟩ := tokens_isIn.mp laid
    exact atom_reads rfl (fun _ _ => rfl) top

theorem conditions_tokensParts (ts : List Token) :
    (tokensParts ts).filterMap Part.condition? = (atoms ts).map Atom.text := by
  induction ts with
  | nil => rfl
  | cons token ts ih =>
    have own : token.parts.filterMap Part.condition? = (atoms [token]).map Atom.text := by
      cases token with
      | atom a => rfl
      | _ => exact conditions_word _
    rw [tokensParts_cons, List.filterMap_append, own, ih, ← List.map_append, ← atoms_append, List.singleton_append]

/-- The text of a filter reads as a formula with the value of the filter, whose atoms are what its conditions say. -/
theorem layout_reads {t : Table} {f : Filter} {ts : List Token} (laid : tokens t true f = .ok ts) :
    ∃ e, Reads .expression (tokensParts ts) e ∧ List.Forall₂ (WordedFor t) f.conditions e.atoms ∧
      ∀ v, e.value v 0 = f.truth v 0 := by
  obtain ⟨e, reads, means⟩ := tokens_reads f true ts laid
  refine ⟨e, reads, ?_, fun v => means.value v 0⟩
  rw [reads.atoms_eq, conditions_tokensParts]
  exact List.forall₂_map_right_iff.mpr ((tokens_conditions f true ts laid).imp fun _ _ laid' => laid'.worded)

/-- The text that is written for a filter, with the conditions in it taken as a whole, has exactly one reading. Its
    atoms are what the conditions of the filter say, in their order, and whatever their truth values are, it has the
    value of the filter. -/
theorem renderFilter_meaning (f : Filter) (t : Table) (text : String) (rendered : renderFilter f t = .ok text) :
    ∃ ps e, partsText ps = text ∧ Reads .expression ps e ∧ (∀ other, Reads .expression ps other → other = e) ∧
      List.Forall₂ (WordedFor t) f.conditions e.atoms ∧ ∀ v, e.value v 0 = f.truth v 0 := by
  obtain ⟨ts, laid, rfl⟩ := renderFilter_eq_ok.mp rendered
  obtain ⟨e, reads, worded, value⟩ := layout_reads laid
  exact ⟨tokensParts ts, e, partsText_tokensParts ts, reads, fun other others => reads_unique reads others, worded,
    value⟩

def usersTable : Table :=
  Table.ofColumns "public" "users" "" [.plain "public" "users" "Id" "bigint", .plain "public" "users" "name" "text",
    { Schema.Column.plain "public" "users" "pin" "text" with blocked := true }]

def usersFilter : Filter :=
  .and [.or [.and [.or [.compare "ID" .gt (.var "least"), .not (.or [.isNull "name" true, .and []])]]],
    .isIn "name" [.value (.string "o'neil"), .value .null] false]

theorem renderFilter_meaning_users :
    renderFilter usersFilter usersTable =
      .ok "(Id > \x7b\x7bleast\x7d\x7d OR NOT (name IS NOT NULL OR true)) AND name IN ('o''neil', NULL)" ∧
    ∃ ps e, partsText ps =
        "(Id > \x7b\x7bleast\x7d\x7d OR NOT (name IS NOT NULL OR true)) AND name IN ('o''neil', NULL)" ∧
      Reads .expression ps e ∧ (∀ other, Reads .expression ps other → other = e) ∧
      List.Forall₂ (WordedFor usersTable) usersFilter.conditions e.atoms ∧
      ∀ v, e.value v 0 = usersFilter.truth v 0 :=
  ⟨rfl, renderFilter_meaning usersFilter usersTable _ rfl⟩

end SchemaMutation.Sql
