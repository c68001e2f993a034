import SchemaMutation.Proofs.Pieces

/-!
# Placeholders

Which placeholders a later binding of variables finds in a statement. It finds all variables that the statement leaves
open, in order (`variables_found`), and finds no others exactly when the string literals of the filter, which are
written as they are, do not make up a placeholder (`placeholders_exact_iff`).
-/

namespace SchemaMutation.Sql

open Query (Action Filter Operand Selection)
open Schema (Table Snapshot Column)

/-- What has been read of a placeholder. -/
inductive Seen where
  | nothing
  /-- An opening brace. -/
  | brace
  /-- Two opening braces and these characters of the name. -/
  | name (chars : List Char)
  /-- The whole name and a closing brace. -/
  | half (chars : List Char)
deriving DecidableEq, Repr

namespace Seen

/-- What has been read after an opening brace. A brace inside of a name may start another placeholder. -/
def opened : Seen → Seen
  | .brace => .name []
  | .name [] => .name []
  | _ => .brace

def closed : Seen → Seen
  | .name chars => .half chars
  | _ => .nothing

def passed (c : Char) : Seen → Seen
  | .name chars => .name (chars ++ [c])
  | _ => .nothing

def next (r : Seen) (c : Char) : Seen :=
  if c = '\x7b' then r.opened else if c = '\x7d' then r.closed else r.passed c

def found? (r : Seen) (c : Char) : Option String :=
  match r with
  | .half chars => if c = '\x7d' then some (String.ofList chars) else none
  | _ => none

def after (r : Seen) (cs : List Char) : Seen := cs.foldl next r

def finds : Seen → List Char → List String
  | _, [] => []
  | r, c :: cs => (r.found? c).toList ++ (r.next c).finds cs

end Seen

/-- The names of the placeholders in a text, from left to right. -/
def placeholders (text : String) : List String := Seen.nothing.finds text.toList

def BraceFree (cs : List Char) : Prop := '\x7b' ∉ cs ∧ '\x7d' ∉ cs

instance (cs : List Char) : Decidable (BraceFree cs) := inferInstanceAs (Decidable (_ ∧ _))

@[simp] theorem braceFree_nil : BraceFree [] := by decide

@[simp] theorem braceFree_cons {c : Char} {cs : List Char} :
    BraceFree (c :: cs) ↔ (c ≠ '\x7b' ∧ c ≠ '\x7d') ∧ BraceFree cs := by
  simp only [BraceFree, List.mem_cons, not_or]
  grind

@[simp] theorem braceFree_append {cs ds : List Char} : BraceFree (cs ++ ds) ↔ BraceFree cs ∧ BraceFree ds := by
  simp only [BraceFree, List.mem_append, not_or]
  grind

namespace Seen

@[simp] theorem after_append (r : Seen) (cs ds : List Char) : r.after (cs ++ ds) = (r.after cs).after ds :=
  List.foldl_append

@[simp] theorem finds_append (r : Seen) (cs ds : List Char) :
    r.finds (cs ++ ds) = r.finds cs ++ (r.after cs).finds ds := by
  induction cs generalizing r with
  | nil => rfl
  | cons c cs ih => rw [List.cons_append, finds, finds, ih, List.append_assoc, after, after, List.foldl_cons]

theorem next_other {c : Char} (other : c ≠ '\x7b' ∧ c ≠ '\x7d') (r : Seen) : r.next c = r.passed c := by
  rw [next, if_neg other.1, if_neg other.2]

theorem found?_other {c : Char} (other : c ≠ '\x7d') (r : Seen) : r.found? c = none := by
  cases r <;> simp [found?, other]

section
variable {cs : List Char} (free : BraceFree cs)
include free

theorem finds_braceFree (r : Seen) : r.finds cs = [] := by
  induction cs generalizing r with
  | nil => rfl
  | cons c cs ih =>
    obtain ⟨other, rest⟩ := braceFree_cons.mp free
    rw [finds, found?_other other.2, ih rest]
    rfl

theorem after_name (chars : List Char) : (Seen.name chars).after cs = .name (chars ++ cs) := by
  induction cs generalizing chars with
  | nil => rw [List.append_nil, after, List.foldl_nil]
  | cons c cs ih =>
    obtain ⟨other, rest⟩ := braceFree_cons.mp free
    have step : (Seen.name chars).next c = .name (chars ++ [c]) := next_other other _
    rw [after, List.foldl_cons, step]
    exact (ih rest _).trans (by rw [List.append_assoc, List.singleton_append])

theorem after_nothing : Seen.nothing.after cs = .nothing := by
  induction cs with
  | nil => rfl
  | cons c cs ih =>
    obtain ⟨other, rest⟩ := braceFree_cons.mp free
    have step : Seen.nothing.next c = .nothing := next_other other _
    rw [after, List.foldl_cons, step]
    exact ih rest

end

theorem opened_opened (r : Seen) : r.opened.opened = .name [] := by
  cases r with
  | name chars => cases chars <;> rfl
  | _ => rfl

theorem placeholder_chars (name : String) :
    (Buffer.placeholderText name).toList = ['\x7b', '\x7b'] ++ name.toList ++ ['\x7d', '\x7d'] := by
  simp [Buffer.placeholderText]

theorem reads_placeholder {name : String} (free : BraceFree name.toList) (r : Seen) :
    r.finds (Buffer.placeholderText name).toList = [name] ∧
      r.after (Buffer.placeholderText name).toList = .nothing := by
  have opening : r.after ['\x7b', '\x7b'] = .name [] := r.opened_opened
  have unfound : r.finds ['\x7b', '\x7b'] = [] := by simp [finds, found?_other]
  simp only [placeholder_chars, finds_append, after_append, opening, unfound, finds_braceFree free, after_name free,
    List.nil_append]
  exact ⟨congrArg (fun s => [s]) String.ofList_toList, rfl⟩

def EndsIn (read : List Char) : Seen → Prop
  | .nothing => True
  | .brace => ∃ before, read = before ++ ['\x7b']
  | .name chars => BraceFree chars ∧ ∃ before, read = before ++ ['\x7b', '\x7b'] ++ chars
  | .half chars => BraceFree chars ∧ ∃ before, read = before ++ ['\x7b', '\x7b'] ++ chars ++ ['\x7d']

theorem EndsIn.next {read : List Char} {r : Seen} (ends : r.EndsIn read) (c : Char) :
    (r.next c).EndsIn (read ++ [c]) := by
  rw [Seen.next]
  split_ifs with opens closes
  · subst opens
    cases r with
    | nothing => exact ⟨read, rfl⟩
    | brace =>
      obtain ⟨before, rfl⟩ := ends
      exact ⟨by decide, before, by simp⟩
    | name chars =>
      obtain ⟨_, before, rfl⟩ := ends
      cases chars with
      | nil => exact ⟨by decide, before ++ ['\x7b'], by simp⟩
      | cons d ds => exact ⟨_, rfl⟩
    | half chars => exact ⟨read, rfl⟩
  · subst closes
    cases r with
    | name chars =>
      obtain ⟨free, before, rfl⟩ := ends
      exact ⟨free, before, rfl⟩
    | _ => trivial
  · cases r with
    | name chars =>
      obtain ⟨free, before, rfl⟩ := ends
      exact ⟨braceFree_append.mpr ⟨free, braceFree_cons.mpr ⟨⟨opens, closes⟩, by decide⟩⟩, before, by simp⟩
    | _ => trivial

theorem found?_eq_some {r : Seen} {c : Char} {name : String} (found : r.found? c = some name) :
    r = .half name.toList ∧ c = '\x7d' := by
  cases r with
  | half chars =>
    rw [found?] at found
    split_ifs at found with closes
    rw [← Option.some.inj found, String.toList_ofList]
    exact ⟨rfl, closes⟩
  | _ => cases found

theorem token_of_finds {r : Seen} {read cs : List Char} (ends : r.EndsIn read) {name : String}
    (found : name ∈ r.finds cs) :
    BraceFree name.toList ∧ ∃ before rest, read ++ cs = before ++ (Buffer.placeholderText name).toList ++ rest := by
  induction cs generalizing r read with
  | nil => cases found
  | cons c cs ih =>
    rw [finds, List.mem_append, Option.mem_toList] at found
    rcases found with here | later
    · obtain ⟨rfl, rfl⟩ := found?_eq_some here
      obtain ⟨free, before, rfl⟩ := ends
      exact ⟨free, before, cs, by simp [placeholder_chars]⟩
    · obtain ⟨free, before, rest, same⟩ := ih (ends.next c) later
      exact ⟨free, before, rest, by rw [← same, List.append_assoc, List.singleton_append]⟩

end Seen

/-- A placeholder separates what is found before it from what is found behind it. -/
theorem placeholders_split {name : String} (free : BraceFree name.toList) (before rest : String) :
    placeholders (before ++ Buffer.placeholderText name ++ rest) =
      placeholders before ++ name :: placeholders rest := by
  obtain ⟨found, after⟩ := Seen.reads_placeholder free (Seen.nothing.after before.toList)
  simp only [placeholders, String.toList_append, Seen.finds_append, found, after, List.append_assoc,
    List.singleton_append]

/-- The placeholders of a text are all names without braces that stand between two pairs of braces in it. -/
theorem mem_placeholders_iff {text name : String} :
    name ∈ placeholders text ↔
      BraceFree name.toList ∧ ∃ before rest, text = before ++ Buffer.placeholderText name ++ rest := by
  constructor
  · intro found
    obtain ⟨free, before, rest, same⟩ := Seen.token_of_finds (show Seen.nothing.EndsIn [] from trivial) found
    refine ⟨free, String.ofList before, String.ofList rest, String.toList_inj.mp ?_⟩
    simpa using same
  · rintro ⟨free, before, rest, rfl⟩
    simp [placeholders_split free]

/-- A piece that has braces only as a placeholder or in a literal. -/
def Piece.Tame : Piece → Prop
  | .plain text => BraceFree text.toList
  | .placeholder name => BraceFree name.toList
  | .literal _ => True

def Piece.deferred? : Piece → Option String
  | .placeholder name => some name
  | _ => none

def deferredNames (ps : List Piece) : List String := ps.filterMap Piece.deferred?

theorem deferredNames_marks (ps : List Piece) : deferredNames (marks ps) = deferredNames ps := by
  induction ps with
  | nil => rfl
  | cons p ps ih =>
    cases p with
    | plain text => exact ih
    | placeholder name => exact congrArg (name :: ·) ih
    | literal value => exact ih

/-- All variables are found, whatever has been read before them. -/
theorem variables_found {ps : List Piece} (tame : ∀ p ∈ ps, p.Tame) (r : Seen) :
    (deferredNames ps).Sublist (r.finds (written ps).toList) := by
  induction ps generalizing r with
  | nil => exact List.nil_sublist _
  | cons p ps ih =>
    obtain ⟨first, rest⟩ := List.forall_mem_cons.mp tame
    rw [written_cons, String.toList_append, Seen.finds_append]
    cases p with
    | plain text => exact List.sublist_append_of_sublist_right (ih rest _)
    | literal value => exact List.sublist_append_of_sublist_right (ih rest _)
    | placeholder name =>
      rw [Piece.text_placeholder, (Seen.reads_placeholder first r).1]
      exact (ih rest _).cons_cons name

namespace Seen

/-- The same has been read, but for characters of a name. -/
inductive Alike : Seen → Seen → Prop
  | same (r : Seen) : Alike r r
  | name {chars chars' : List Char} (begun : chars ≠ []) (begun' : chars' ≠ []) : Alike (.name chars) (.name chars')
  | half (chars chars' : List Char) : Alike (.half chars) (.half chars')

/-- The same has been read before a piece and after it: nothing, or characters of a name. -/
inductive Between : Seen → Seen → Prop
  | nothing : Between .nothing .nothing
  | name {chars chars' : List Char} (begun : chars ≠ []) (begun' : chars' ≠ []) : Between (.name chars) (.name chars')

variable {r r' : Seen}

theorem Between.alike (between : Between r r') : Alike r r' := by
  cases between with
  | nothing => exact .same _
  | name begun begun' => exact .name begun begun'

theorem Alike.passed (alike : Alike r r') (c : Char) : Between (r.passed c) (r'.passed c) := by
  cases alike with
  | same r =>
    cases r with
    | name chars => exact .name (by simp) (by simp)
    | _ => exact .nothing
  | name _ _ => exact .name (by simp) (by simp)
  | half chars chars' => exact .nothing

theorem Alike.next (alike : Alike r r') (c : Char) :
    Alike (r.next c) (r'.next c) ∧ (r.found? c).isSome = (r'.found? c).isSome := by
  cases alike with
  | same r => exact ⟨.same _, rfl⟩
  | half chars chars' =>
    refine ⟨.same _, ?_⟩
    rw [found?, found?]
    split_ifs <;> rfl
  | @name chars chars' begun begun' =>
    refine ⟨?_, rfl⟩
    have brace {cs : List Char} (begun : cs ≠ []) : (Seen.name cs).opened = .brace := by
      cases cs with
      | nil => exact absurd rfl begun
      | cons _ _ => rfl
    rw [Seen.next, Seen.next, brace begun, brace begun']
    split_ifs
    · exact .same _
    · exact .half chars chars'
    · exact ((Alike.name begun begun').passed c).alike

theorem Alike.run (alike : Alike r r') (cs : List Char) :
    Alike (r.after cs) (r'.after cs) ∧ (r.finds cs).length = (r'.finds cs).length := by
  induction cs generalizing r r' with
  | nil => exact ⟨alike, rfl⟩
  | cons c cs ih =>
    obtain ⟨further, found⟩ := alike.next c
    obtain ⟨ends, rest⟩ := ih further
    refine ⟨ends, ?_⟩
    have here : (r.found? c).toList.length = (r'.found? c).toList.length := by
      rw [Option.length_toList, Option.length_toList, found]
    rw [finds, finds, List.length_append, List.length_append, here, rest]

theorem Between.plain {cs : List Char} (between : Between r r') (free : BraceFree cs) : Between (r.after cs) r' := by
  cases between with
  | nothing =>
    rw [after_nothing free]
    exact .nothing
  | name begun begun' =>
    rw [after_name free]
    exact .name (by simp [begun]) begun'

theorem Between.literal (between : Between r r') (value : String) :
    Between (r.after (literalText value).toList) (r'.after (literalText value).toList) := by
  have quote (r : Seen) : r.after ['\''] = r.passed '\'' := next_other (c := '\'') (by decide) r
  rw [literal_chars, after_append, after_append, quote, quote]
  exact (between.alike.run _).1.passed _

theorem Between.pieces (between : Between r r') {ps : List Piece} (tame : ∀ p ∈ ps, p.Tame) :
    (r.finds (written ps).toList).length = (r'.finds (written (marks ps)).toList).length := by
  induction ps generalizing r r' with
  | nil => rfl
  | cons p ps ih =>
    obtain ⟨first, rest⟩ := List.forall_mem_cons.mp tame
    rw [written_cons, String.toList_append, finds_append, List.length_append]
    cases p with
    | plain text =>
      rw [marks_plain, Piece.text_plain, finds_braceFree first, ih (between.plain first) rest]
      exact Nat.zero_add _
    | placeholder name =>
      obtain ⟨found, ends⟩ := reads_placeholder first r
      obtain ⟨found', ends'⟩ := reads_placeholder first r'
      rw [marks_placeholder, written_cons, String.toList_append, finds_append, List.length_append,
        Piece.text_placeholder, found, found', ends, ends', ih .nothing rest]
    | literal value =>
      rw [marks_literal, written_cons, String.toList_append, finds_append, List.length_append, Piece.text_literal,
        (between.alike.run _).2, ih (between.literal value) rest]

end Seen

/-- Written one behind the other, variables and literals have the placeholders of the variables and no others. -/
def Clean (ms : List Piece) : Prop := placeholders (written ms) = deferredNames ms

instance (ms : List Piece) : Decidable (Clean ms) := inferInstanceAs (Decidable (_ = _))

/-- Only the variables of pieces are found exactly when their literals do not make up a placeholder. -/
theorem placeholders_eq_iff {ps : List Piece} (tame : ∀ p ∈ ps, p.Tame) :
    placeholders (written ps) = deferredNames ps ↔ Clean (marks ps) := by
  have tame' : ∀ p ∈ marks ps, p.Tame := fun p member => tame p (List.mem_of_mem_filter member)
  have sameLength {qs : List Piece} (tame : ∀ p ∈ qs, p.Tame) :
      placeholders (written qs) = deferredNames qs ↔ (placeholders (written qs)).length = (deferredNames qs).length :=
    ⟨congrArg List.length, fun same => ((variables_found tame .nothing).eq_of_length same.symm).symm⟩
  have same : (placeholders (written ps)).length = (placeholders (written (marks ps))).length :=
    Seen.Between.nothing.pieces tame
  rw [Clean, sameLength tame, sameLength tame', same, deferredNames_marks]

def doubled : List Char := ['\x7b', '\x7b']

namespace Seen

/-- A text without doubled braces starts no name, and neither does it with its quotes doubled. -/
theorem escaped_unopened {cs : List Char} (unopened : ¬ doubled <:+: cs) {r : Seen}
    (outside : r = .nothing ∨ r = .brace ∧ cs.head? ≠ some '\x7b') :
    r.finds (cs.flatMap literalChar) = [] ∧
      (r.after (cs.flatMap literalChar) = .nothing ∨ r.after (cs.flatMap literalChar) = .brace) := by
  induction cs generalizing r with
  | nil => exact ⟨rfl, outside.imp id And.left⟩
  | cons c cs ih =>
    have rest : ¬ doubled <:+: cs := fun within => unopened (List.infix_cons within)
    rw [List.flatMap_cons, finds_append, after_append]
    by_cases opens : c = '\x7b'
    · subst opens
      have start : r = .nothing := outside.resolve_right fun second => second.2 rfl
      have single : cs.head? ≠ some '\x7b' := by
        intro head
        obtain ⟨tail, rfl⟩ := List.head?_eq_some_iff.mp head
        exact unopened ⟨[], tail, rfl⟩
      subst start
      exact ih rest (.inr ⟨rfl, single⟩)
    · have settled : r.finds (literalChar c) = [] ∧ r.after (literalChar c) = .nothing := by
        rcases outside with rfl | ⟨rfl, _⟩
        · by_cases quote : c = '\'' <;> simp [literalChar, finds, after, next, found?, closed, passed, opens, quote]
        · by_cases quote : c = '\'' <;> simp [literalChar, finds, after, next, found?, closed, passed, opens, quote]
      rw [settled.1, settled.2]
      exact ih rest (.inl rfl)

theorem literal_unopened {value : String} (unopened : ¬ doubled <:+: value.toList) :
    Seen.nothing.finds (literalText value).toList = [] ∧ Seen.nothing.after (literalText value).toList = .nothing := by
  obtain ⟨found, ends⟩ := escaped_unopened unopened (.inl rfl)
  have quote : ∀ r : Seen, r = .nothing ∨ r = .brace → r.finds ['\''] = [] ∧ r.after ['\''] = .nothing := by
    rintro _ (rfl | rfl)
    · decide
    · decide
  obtain ⟨unfound, settled⟩ := quote _ ends
  rw [literal_chars, List.cons_append, ← List.singleton_append]
  simp only [finds_append, after_append, (quote _ (.inl rfl)).1, (quote _ (.inl rfl)).2, found, unfound, settled,
    List.append_nil, and_self]

end Seen

theorem clean_of_unopened {ms : List Piece} (tame : ∀ p ∈ ms, p.Tame)
    (unopened : ∀ value, .literal value ∈ ms → ¬ doubled <:+: value.toList) : Clean ms := by
  rw [Clean, placeholders]
  induction ms with
  | nil => rfl
  | cons p ms ih =>
    obtain ⟨first, rest⟩ := List.forall_mem_cons.mp tame
    have others := ih rest fun value member => unopened value (List.mem_cons_of_mem p member)
    rw [written_cons, String.toList_append, Seen.finds_append]
    cases p with
    | plain text =>
      rw [Piece.text_plain, Seen.finds_braceFree first, Seen.after_nothing first, others]
      rfl
    | placeholder name =>
      obtain ⟨found, ends⟩ := Seen.reads_placeholder first .nothing
      rw [Piece.text_placeholder, found, ends, others]
      rfl
    | literal value =>
      obtain ⟨found, ends⟩ := Seen.literal_unopened (unopened value List.mem_cons_self)
      rw [Piece.text_literal, found, ends, others]
      rfl

theorem braceFree_escaped {cs : List Char} (free : BraceFree cs) : BraceFree (cs.flatMap literalChar) := by
  induction cs with
  | nil => exact free
  | cons c cs ih =>
    obtain ⟨other, rest⟩ := braceFree_cons.mp free
    rw [List.flatMap_cons, braceFree_append]
    refine ⟨?_, ih rest⟩
    unfold literalChar
    split
    · decide
    · exact braceFree_cons.mpr ⟨other, braceFree_nil⟩

theorem length_le_placeholders {ps : List Piece} (tame : ∀ p ∈ ps, p.Tame) (text : String) :
    (deferredNames ps).length ≤ (placeholders (written ps ++ text)).length ∧
      (deferredNames ps).length ≤ (placeholders (text ++ written ps)).length := by
  simp only [placeholders, String.toList_append, Seen.finds_append, List.length_append]
  exact ⟨Nat.le_add_right_of_le (variables_found tame _).length_le,
    Nat.le_add_left_of_le (variables_found tame _).length_le⟩

theorem not_clean_of_placeholder {before rest : List Piece} {value name : String}
    (tame : ∀ p ∈ before ++ .literal value :: rest, p.Tame) (inside : name ∈ placeholders value) :
    ¬ Clean (before ++ .literal value :: rest) := by
  obtain ⟨free, front, back, rfl⟩ := mem_placeholders_iff.mp inside
  have foundBefore := length_le_placeholders fun (p : Piece) (member : p ∈ before) => tame p (by simp [member])
  have foundRest := length_le_placeholders fun (p : Piece) (member : p ∈ rest) => tame p (by simp [member])
  -- the name is written with its quotes doubled
  have free' : BraceFree (String.ofList (name.toList.flatMap literalChar)).toList := by
    rw [String.toList_ofList]
    exact braceFree_escaped free
  have brace : literalChar '\x7b' = ['\x7b'] ∧ literalChar '\x7d' = ['\x7d'] := by decide
  obtain ⟨opening, closing, text⟩ : ∃ opening closing : String,
      written (before ++ .literal (front ++ Buffer.placeholderText name ++ back) :: rest) =
        (written before ++ opening) ++ Buffer.placeholderText (String.ofList (name.toList.flatMap literalChar)) ++
          (closing ++ written rest) := by
    refine ⟨.ofList ('\'' :: front.toList.flatMap literalChar), .ofList (back.toList.flatMap literalChar ++ ['\'']), ?_⟩
    rw [← String.toList_inj]
    simp [literal_chars, Seen.placeholder_chars, brace]
  have names : deferredNames (before ++ .literal (front ++ Buffer.placeholderText name ++ back) :: rest) =
      deferredNames before ++ deferredNames rest := List.filterMap_append
  intro clean
  rw [Clean, text, placeholders_split free', names] at clean
  have lengths := congrArg List.length clean
  rw [List.length_append, List.length_append, List.length_cons] at lengths
  have atLeastBefore := (foundBefore opening).1
  have atLeastRest := (foundRest closing).2
  omega

def PlainFree (ps : List Piece) : Prop := ∀ text, .plain text ∈ ps → BraceFree text.toList

@[simp] theorem plainFree_nil : PlainFree [] := nofun

@[simp] theorem plainFree_plain {text : String} {ps : List Piece} :
    PlainFree (.plain text :: ps) ↔ BraceFree text.toList ∧ PlainFree ps := by
  simp [PlainFree]

@[simp] theorem plainFree_placeholder {name : String} {ps : List Piece} :
    PlainFree (.placeholder name :: ps) ↔ PlainFree ps := by
  simp [PlainFree]

@[simp] theorem plainFree_literal {value : String} {ps : List Piece} :
    PlainFree (.literal value :: ps) ↔ PlainFree ps := by
  simp [PlainFree]

@[simp] theorem plainFree_append {ps qs : List Piece} : PlainFree (ps ++ qs) ↔ PlainFree ps ∧ PlainFree qs := by
  simp only [PlainFree, List.mem_append, or_imp, forall_and]

theorem PlainFree.tame {ps : List Piece} (plain : PlainFree ps)
    (names : ∀ name ∈ deferredNames ps, BraceFree name.toList) : ∀ p ∈ ps, p.Tame := by
  intro p member
  cases p with
  | plain text => exact plain text member
  | placeholder name => exact names name (List.mem_filterMap.mpr ⟨_, member, rfl⟩)
  | literal value => trivial

theorem braceFree_quoted {name : String} (free : BraceFree name.toList) :
    BraceFree (Buffer.quotedText name).toList := by
  simpa [Buffer.quotedText] using free

theorem braceFree_list {items : List String} (each : ∀ item ∈ items, BraceFree item.toList) :
    BraceFree (Buffer.listText items).toList := by
  rw [Buffer.listText]
  induction items with
  | nil => decide
  | cons item items ih =>
    obtain ⟨first, rest⟩ := List.forall_mem_cons.mp each
    cases items with
    | nil => simpa using first
    | cons next items =>
      rw [String.intercalate_cons_cons, String.toList_append, String.toList_append, braceFree_append, braceFree_append]
      exact ⟨⟨first, by decide⟩, ih rest⟩

theorem braceFree_expand {target : String} (free : BraceFree target.toList) (batch : Bool) :
    BraceFree (expandText target batch).toList := by
  cases batch <;> simpa [expandText] using free

theorem braceFree_number (n : Json.Number) : BraceFree n.text.toList := by
  constructor <;> exact fun brace => absurd (n.numeric_text _ brace) (by decide)

theorem Scalar.plainFree (s : Scalar) : PlainFree [s.piece] := by
  cases s with
  | placeholder name => simp [piece]
  | null => simp [piece, text]
  | bool value => cases value <;> simp [piece, text]
  | number value => simpa [piece, text] using braceFree_number value
  | string value => simp [piece]

theorem plainFree_listed {ps : List Piece} (plain : PlainFree ps) : PlainFree (listed ps) := by
  rw [listed]
  induction ps with
  | nil => exact plain
  | cons p ps ih =>
    obtain ⟨first, rest⟩ := plainFree_append.mp (List.singleton_append ▸ plain)
    cases ps with
    | nil => exact plain
    | cons q ps =>
      rw [List.intersperse_cons_cons, ← List.singleton_append, plainFree_append, plainFree_plain]
      exact ⟨first, by decide, ih rest⟩

theorem plainFree_scalars (ss : List Scalar) : PlainFree (ss.map Scalar.piece) := by
  induction ss with
  | nil => exact plainFree_nil
  | cons s ss ih => exact plainFree_append.mpr ⟨s.plainFree, ih⟩

theorem Atom.plainFree {a : Atom} (free : BraceFree a.column.toList) : PlainFree a.pieces := by
  cases a with
  | compare column op value =>
    refine plainFree_plain.mpr ⟨?_, value.plainFree⟩
    cases op <;> simpa [comparisonText, Atom.column] using free
  | isNull column negated => cases negated <;> simpa [pieces, Atom.column] using free
  | isIn column values negated =>
    have list := plainFree_listed (plainFree_scalars values)
    cases negated <;> simpa [pieces, list, Atom.column] using free

theorem tokens_plainFree {ts : List Token} (each : ∀ a ∈ atoms ts, BraceFree a.column.toList) :
    PlainFree (tokensPieces ts) := by
  induction ts with
  | nil => exact plainFree_nil
  | cons token ts ih =>
    rw [tokensPieces, List.flatMap_cons, plainFree_append]
    cases token with
    | atom a =>
      obtain ⟨first, rest⟩ := List.forall_mem_cons.mp each
      exact ⟨a.plainFree first, ih rest⟩
    | constant value => exact ⟨by cases value <;> simp [Token.pieces, Token.text], ih each⟩
    | _ => exact ⟨by simp [Token.pieces, Token.text], ih each⟩

theorem Statement.plainFree {st : Statement} {ps : List Piece} (name : BraceFree st.name.toList)
    (target : BraceFree st.target.toList) (columns : ∀ column ∈ st.change.columns, BraceFree column.toList)
    (condition : PlainFree ps) : PlainFree (st.pieces ps) := by
  have list := braceFree_list columns
  have expand := braceFree_expand target
  have input : BraceFree (Buffer.quotedText "input").toList := by decide
  have opening := braceFree_quoted name
  cases change : st.change with
  | insert var columns batch =>
    rw [change, Change.columns] at list
    simp [pieces, Change.pieces, change, input, opening, list, expand, target]
  | update var columns batch text =>
    rw [change, Change.columns] at list
    simp [pieces, Change.pieces, change, input, opening, list, expand, target, condition]
  | delete text => simp [pieces, Change.pieces, change, opening, target, condition]

def filterVariables (root : Selection) : List String :=
  (root.filter.elim [] Filter.operands).filterMap fun
    | .var name => some name
    | .value _ => none

/-- The variables that the statement of a root leaves open: that of the payload, unless the root is a deletion, and
    then those of the filter, unless it is an insertion. -/
def deferred (root : Selection) : List String :=
  match root.action with
  | .insert => [root.actionVar]
  | .update => root.actionVar :: filterVariables root
  | _ => filterVariables root

theorem deferredNames_filterMarks (root : Selection) : deferredNames (filterMarks root) = filterVariables root := by
  rw [deferredNames, filterMarks, filterVariables, List.filterMap_filterMap]
  refine List.filterMap_congr fun o _ => ?_
  cases o with
  | var name => rfl
  | value literal => cases literal <;> rfl

theorem deferredNames_rootMarks (root : Selection) : deferredNames (rootMarks root) = deferred root := by
  have filter := deferredNames_filterMarks root
  cases action : root.action with
  | insert =>
    simp only [rootMarks, deferred, action]
    rfl
  | update =>
    simp only [rootMarks, deferred, action]
    exact congrArg (root.actionVar :: ·) filter
  | _ =>
    simp only [rootMarks, deferred, action]
    exact filter

/-- No name has a brace: that of no table of a snapshot, of no column, and of no variable that a root leaves open. -/
structure BraceFreeNames (s : Snapshot) (root : Selection) : Prop where
  tables : ∀ t ∈ s.tables, BraceFree t.schema.toList ∧ BraceFree t.name.toList
  columns : ∀ t ∈ s.tables, ∀ c ∈ t.columns, BraceFree c.name.toList
  deferred : ∀ name ∈ deferred root, BraceFree name.toList

/-- In the text that is appended for a root all variables that it leaves open are found, and nothing else is found
    exactly when its variables and literals are clean. -/
theorem placeholders_exact_iff {s : Snapshot} {vars : Variables} {q : Query} {b : Buffer} {plan : Plan}
    {root : Selection} (isRoot : q.root? = some root) (names : BraceFreeNames s root)
    (succeeded : ((Compiler.standard s).compileMutation vars q b).result = .ok plan) :
    ∃ text, ((Compiler.standard s).compileMutation vars q b).buffer = b.push text ∧
      (deferred root).Sublist (placeholders text) ∧ (placeholders text = deferred root ↔ Clean (rootMarks root)) := by
  obtain ⟨root', st, isRoot', stated, _, appended⟩ := Compiler.exists_statement succeeded
  obtain rfl : root = root' := Option.some.inj (isRoot.symm.trans isRoot')
  obtain ⟨t, ts, concerns, text, marked, laid⟩ := (Compiler.statement_eq_ok.mp stated).exists_pieces
  have inSnapshot : t ∈ s.tables := Snapshot.table_mem (Compiler.targetTable_eq_ok.mp concerns.target).1
  obtain ⟨schema, name⟩ := names.tables t inSnapshot
  -- all names in the text are names of the snapshot or of the root
  have plain : PlainFree (st.pieces (tokensPieces ts)) := by
    refine Statement.plainFree (concerns.name ▸ name) ?_ ?_ (tokens_plainFree ?_)
    · rw [concerns.writes, Compiler.targetName, Table.qualifiedName]
      split
      · exact name
      · simpa using ⟨schema, name⟩
    · intro column listed
      obtain ⟨c, inTable, _, rfl⟩ := concerns.columns column listed
      exact names.columns t inSnapshot c inTable
    · intro a member
      obtain ⟨c, inTable, _, same⟩ := laid a member
      exact same ▸ names.columns t inSnapshot c inTable
  have same : deferredNames (st.pieces (tokensPieces ts)) = deferred root := by
    rw [← deferredNames_marks, marked, deferredNames_rootMarks]
  have tame := plain.tame (same.symm ▸ names.deferred)
  refine ⟨st.text, appended, ?_, ?_⟩
  · rw [← same, ← text]
    exact variables_found tame .nothing
  · rw [← same, ← text, ← marked]
    exact placeholders_eq_iff tame

def pagesSnapshot : Snapshot :=
  .ofColumns .postgres 160000 "public" "app" [.plain "public" "pages" "id" "int",
    .plain "public" "pages" "body" "text"] [] []

def pageUpdate : Selection :=
  (Selection.updating "pages" "data").filtered (.and [.compare "body" .ne (.value (.string "\x7b")),
    .compare "id" .eq (.var "page")])

theorem placeholders_exact_iff_pages :
    (Query.root? ⟨[pageUpdate]⟩ = some pageUpdate ∧ BraceFreeNames pagesSnapshot pageUpdate ∧
      ((Compiler.standard pagesSnapshot).compileMutation [("data", .object [("body", .null)])] ⟨[pageUpdate]⟩
        .empty).result = .ok ⟨.update, "pages"⟩) ∧
    Clean (rootMarks pageUpdate) ∧
    ∃ text, ((Compiler.standard pagesSnapshot).compileMutation [("data", .object [("body", .null)])] ⟨[pageUpdate]⟩
        .empty).buffer = Buffer.empty.push text ∧ (deferred pageUpdate).Sublist (placeholders text) ∧
      (placeholders text = deferred pageUpdate ↔ Clean (rootMarks pageUpdate)) := by
  have names : BraceFreeNames pagesSnapshot pageUpdate := ⟨by decide +kernel, by decide +kernel, by decide +kernel⟩
  have succeeded : ((Compiler.standard pagesSnapshot).compileMutation [("data", .object [("body", .null)])]
      ⟨[pageUpdate]⟩ .empty).result = .ok ⟨.update, "pages"⟩ := by decide +kernel
  exact ⟨⟨rfl, names, succeeded⟩, by decide +kernel, placeholders_exact_iff rfl names succeeded⟩

/-- A deletion of the pages whose body is the text of a placeholder. -/
def pageDeletion : Selection :=
  (Selection.deleting "pages").filtered (.compare "body" .eq (.value (.string "\x7b\x7bx\x7d\x7d")))

/-- No variable is left open, and yet a placeholder is found. -/
theorem literal_read_as_placeholder :
    BraceFreeNames pagesSnapshot pageDeletion ∧
    ((Compiler.standard pagesSnapshot).compileMutation [] ⟨[pageDeletion]⟩ .empty).buffer =
      ⟨"WITH \"pages\" AS (DELETE FROM pages WHERE body = '\x7b\x7bx\x7d\x7d' RETURNING *) "⟩ ∧
    placeholders "WITH \"pages\" AS (DELETE FROM pages WHERE body = '\x7b\x7bx\x7d\x7d' RETURNING *) " = ["x"] ∧
    deferred pageDeletion = [] := by
  refine ⟨⟨by decide +kernel, by decide +kernel, by decide +kernel⟩, by decide +kernel, by decide +kernel,
    by decide +kernel⟩

end SchemaMutation.Sql
