import Mathlib.Order.Interval.Finset.Nat
import Mathlib.Order.Monotone.Basic
import SchemaMutation.Pattern.Regex

/-!
# The matcher decides the meaning

The matcher follows whole sets of places. What makes it right is one property of each of its parts: the set that it
makes of a set holds exactly the places that a relation reaches from the places of that set (`Follows`). It passes
from the parts to the whole expression (`follows_ends`), so that a text is matched exactly when `Spans` relates two of
its places (`Regex.matchesIn_iff`). Repetitions without a greatest number are followed for as many steps as the text
has places; whatever more steps reach is reached by then (`times_short`).
-/

namespace SchemaMutation.Pattern

variable {size : Nat} {R S : Nat → Nat → Prop} {f : Places → Places}

def StaysWithin (size : Nat) (R : Nat → Nat → Prop) : Prop := ∀ i j, i ≤ size → R i j → j ≤ size

theorem Times.append {m n i j k : Nat} (first : Times R m i j) (last : Times R n j k) : Times R (m + n) i k := by
  induction first with
  | zero i => simpa using last
  | @succ m i h j step _ ih =>
    have longer := Times.succ step (ih last)
    rwa [show m + n + 1 = m + 1 + n by omega] at longer

theorem Times.concat {n i j k : Nat} (first : Times R n i j) (last : R j k) : Times R (n + 1) i k :=
  first.append (.succ last (.zero k))

theorem Times.exists_last {n i k : Nat} (steps : Times R (n + 1) i k) : ∃ j, Times R n i j ∧ R j k := by
  induction n generalizing i with
  | zero =>
    cases steps with
    | succ step rest =>
      cases rest
      exact ⟨i, .zero i, step⟩
  | succ n ih =>
    cases steps with
    | succ step rest =>
      obtain ⟨j, before, last⟩ := ih rest
      exact ⟨j, .succ step before, last⟩

theorem Times.split {m n i k : Nat} (steps : Times R (m + n) i k) : ∃ j, Times R m i j ∧ Times R n j k := by
  induction m generalizing i with
  | zero => exact ⟨i, .zero i, by simpa using steps⟩
  | succ m ih =>
    rw [show m + 1 + n = m + n + 1 by omega] at steps
    cases steps with
    | succ step rest =>
      obtain ⟨j, before, behind⟩ := ih rest
      exact ⟨j, .succ step before, behind⟩

theorem StaysWithin.times (stays : StaysWithin size R) (n : Nat) : StaysWithin size (Times R n) := by
  intro i j inside steps
  induction steps with
  | zero => exact inside
  | succ step _ ih => exact ih (stays _ _ inside step)

open Classical in
/-- The places of a text that are reached from `i` in at most `n` steps. -/
noncomputable def reachedBy (size : Nat) (R : Nat → Nat → Prop) (i n : Nat) : Finset Nat :=
  (Finset.range (size + 1)).filter fun j => ∃ m ≤ n, Times R m i j

theorem mem_reachedBy {i n j : Nat} : j ∈ reachedBy size R i n ↔ j ≤ size ∧ ∃ m ≤ n, Times R m i j := by
  simp only [reachedBy, Finset.mem_filter, Finset.mem_range, Nat.lt_succ_iff]

theorem reachedBy_mono (size : Nat) (R : Nat → Nat → Prop) (i : Nat) : Monotone (reachedBy size R i) := by
  intro m n le j reached
  rw [mem_reachedBy] at reached ⊢
  obtain ⟨inside, l, l_le, steps⟩ := reached
  exact ⟨inside, l, l_le.trans le, steps⟩

theorem card_reachedBy_le {i n : Nat} : (reachedBy size R i n).card ≤ size + 1 := by
  have places : reachedBy size R i n ⊆ Finset.range (size + 1) := by
    intro j reached
    rw [Finset.mem_range]
    have := (mem_reachedBy.mp reached).1
    omega
  simpa using Finset.card_le_card places

/-- Once a step adds no place, no later step does. -/
theorem reachedBy_stable (stays : StaysWithin size R) {i n : Nat} (inside : i ≤ size)
    (same : reachedBy size R i n = reachedBy size R i (n + 1)) :
    reachedBy size R i (n + 1) = reachedBy size R i (n + 2) := by
  refine (reachedBy_mono size R i (by omega)).antisymm fun k reached => ?_
  rw [mem_reachedBy] at reached
  obtain ⟨k_inside, m, m_le, steps⟩ := reached
  cases m with
  | zero => exact mem_reachedBy.mpr ⟨k_inside, 0, by omega, steps⟩
  | succ m =>
    obtain ⟨j, before, last⟩ := steps.exists_last
    have earlier : j ∈ reachedBy size R i n := by
      rw [same]
      exact mem_reachedBy.mpr ⟨stays.times m _ _ inside before, m, by omega, before⟩
    obtain ⟨-, l, l_le, shorter⟩ := mem_reachedBy.mp earlier
    exact mem_reachedBy.mpr ⟨k_inside, l + 1, by omega, shorter.concat last⟩

/-- Whatever is reached in a text is reached in no more steps than the text has places. -/
theorem times_short (stays : StaysWithin size R) {i j n : Nat} (inside : i ≤ size) (steps : Times R n i j) :
    ∃ m ≤ size + 1, Times R m i j := by
  rcases Nat.le_total n (size + 1) with few | many
  · exact ⟨n, few, steps⟩
  · -- the number of places reached grows until it stays, and it cannot grow beyond their number
    have settled : (reachedBy size R i n).card = (reachedBy size R i (size + 1)).card := by
      refine Nat.stabilises_of_monotone (f := fun n => (reachedBy size R i n).card) ?_ ?_ ?_ many
      · intro m n le
        exact Finset.card_le_card (reachedBy_mono size R i le)
      · intro m
        exact card_reachedBy_le
      · intro m same
        have equal := Finset.eq_of_subset_of_card_le (reachedBy_mono size R i (Nat.le_succ m)) same.ge
        exact congrArg Finset.card (reachedBy_stable stays inside equal)
    have equal := Finset.eq_of_subset_of_card_le (reachedBy_mono size R i many) settled.le
    have reached : j ∈ reachedBy size R i n := mem_reachedBy.mpr ⟨stays.times n _ _ inside steps, n, le_rfl, steps⟩
    rw [← equal] at reached
    exact (mem_reachedBy.mp reached).2

def InText (size : Nat) (s : Places) : Prop := ∀ i, s.testBit i = true → i ≤ size

theorem testBit_placesWhere {p : Nat → Bool} {n i : Nat} :
    (placesWhere p n).testBit i = true ↔ i ≤ n ∧ p i = true := by
  have single (k : Nat) : (if p k then 1 <<< k else 0).testBit i = true ↔ i = k ∧ p i = true := by
    by_cases holds : p k
    · simp only [holds, if_true, Nat.one_shiftLeft, Nat.testBit_two_pow, decide_eq_true_eq]
      constructor
      · rintro rfl
        exact ⟨rfl, holds⟩
      · rintro ⟨rfl, -⟩
        rfl
    · simp only [holds, Nat.zero_testBit, Bool.false_eq_true, if_false, false_iff]
      rintro ⟨rfl, is⟩
      exact holds is
  induction n with
  | zero =>
    rw [placesWhere, Nat.le_zero]
    exact single 0
  | succ n ih =>
    rw [placesWhere, Nat.testBit_or, Bool.or_eq_true, or_congr ih (single (n + 1))]
    constructor
    · rintro (⟨le, holds⟩ | ⟨rfl, holds⟩)
      · exact ⟨by omega, holds⟩
      · exact ⟨le_rfl, holds⟩
    · rintro ⟨le, holds⟩
      rcases Nat.lt_or_ge n i with last | earlier
      · exact .inr ⟨by omega, holds⟩
      · exact .inl ⟨earlier, holds⟩

theorem inText_placesWhere (p : Nat → Bool) (n : Nat) : InText n (placesWhere p n) :=
  fun _ member => (testBit_placesWhere.mp member).1

/-- What `f` makes of a set of places is what a relation reaches from it. -/
def Follows (size : Nat) (f : Places → Places) (R : Nat → Nat → Prop) : Prop :=
  ∀ s, InText size s → ∀ j, (f s).testBit j = true ↔ ∃ i, s.testBit i = true ∧ R i j

theorem Follows.inText {s : Places} (follows : Follows size f R) (stays : StaysWithin size R) (inside : InText size s) :
    InText size (f s) := by
  intro j member
  obtain ⟨i, start, step⟩ := (follows s inside j).mp member
  exact stays i j (inside i start) step

theorem Follows.congr (follows : Follows size f R) (same : ∀ i j, i ≤ size → (R i j ↔ S i j)) : Follows size f S := by
  intro s inside j
  rw [follows s inside j]
  constructor
  · rintro ⟨i, start, step⟩
    exact ⟨i, start, (same i j (inside i start)).mp step⟩
  · rintro ⟨i, start, step⟩
    exact ⟨i, start, (same i j (inside i start)).mpr step⟩

theorem Follows.comp {g : Places → Places} (first : Follows size f R) (stays : StaysWithin size R)
    (second : Follows size g S) : Follows size (fun s => g (f s)) fun i k => ∃ j, R i j ∧ S j k := by
  intro s inside k
  rw [second _ (first.inText stays inside)]
  constructor
  · rintro ⟨j, member, last⟩
    obtain ⟨i, start, step⟩ := (first s inside j).mp member
    exact ⟨i, start, j, step, last⟩
  · rintro ⟨i, start, j, step, last⟩
    exact ⟨j, (first s inside j).mpr ⟨i, start, step⟩, last⟩

theorem Follows.union {g : Places → Places} (left : Follows size f R) (right : Follows size g S) :
    Follows size (fun s => f s ||| g s) fun i j => R i j ∨ S i j := by
  intro s inside j
  rw [Nat.testBit_or, Bool.or_eq_true, left s inside, right s inside]
  constructor
  · rintro (⟨i, start, step⟩ | ⟨i, start, step⟩)
    · exact ⟨i, start, .inl step⟩
    · exact ⟨i, start, .inr step⟩
  · rintro ⟨i, start, step | step⟩
    · exact .inl ⟨i, start, step⟩
    · exact .inr ⟨i, start, step⟩

theorem follows_stay (p : Nat → Bool) :
    Follows size (fun s => s &&& placesWhere p size) fun i j => i = j ∧ p i = true := by
  intro s inside j
  rw [Nat.testBit_and, Bool.and_eq_true, testBit_placesWhere]
  constructor
  · rintro ⟨member, -, holds⟩
    exact ⟨j, member, rfl, holds⟩
  · rintro ⟨i, member, rfl, holds⟩
    exact ⟨member, inside i member, holds⟩

theorem follows_advance (p : Nat → Bool) :
    Follows size (fun s => (s &&& placesWhere p size) <<< 1) fun i j => j = i + 1 ∧ p i = true := by
  intro s inside j
  rw [Nat.testBit_shiftLeft, Bool.and_eq_true, decide_eq_true_eq, Nat.testBit_and, Bool.and_eq_true,
    testBit_placesWhere]
  constructor
  · rintro ⟨positive, member, -, holds⟩
    exact ⟨j - 1, member, by omega, holds⟩
  · rintro ⟨i, member, rfl, holds⟩
    exact ⟨by omega, member, inside i member, holds⟩

theorem Follows.closed {s : Places} (follows : Follows size f R) (inside : InText size s)
    (closed : ∀ j, (f s).testBit j = true → s.testBit j = true) {n i j : Nat} (start : s.testBit i = true)
    (steps : Times R n i j) : s.testBit j = true := by
  induction steps with
  | zero => exact start
  | @succ n i k j step _ ih => exact ih (closed k ((follows s inside k).mpr ⟨i, start, step⟩))

theorem Follows.stepTimes (follows : Follows size f R) (stays : StaysWithin size R) (n : Nat) :
    Follows size (stepTimes f n) (Times R n) := by
  induction n with
  | zero =>
    intro s inside j
    constructor
    · intro member
      exact ⟨j, member, .zero j⟩
    · rintro ⟨i, start, steps⟩
      cases steps
      exact start
  | succ n ih =>
    intro s inside k
    have further : (Pattern.stepTimes f n (f s)).testBit k = true ↔ ∃ i, s.testBit i = true ∧ Times R (n + 1) i k := by
      rw [(follows.comp stays ih) s inside k]
      constructor
      · rintro ⟨i, start, j, step, rest⟩
        exact ⟨i, start, .succ step rest⟩
      · rintro ⟨i, start, steps⟩
        cases steps with
        | succ step rest => exact ⟨i, start, _, step, rest⟩
    rw [Pattern.stepTimes]
    split
    · next same =>
      -- a set that stays as it is after one step does so after all
      rw [← further, same]
      have unchanged (m : Nat) : Pattern.stepTimes f m s = s := by
        cases m with
        | zero => rfl
        | succ m => simp [Pattern.stepTimes, same]
      rw [unchanged]
    · exact further

theorem Follows.stepUpTo (follows : Follows size f R) (stays : StaysWithin size R) (n : Nat) :
    Follows size (stepUpTo f n) fun i j => ∃ m ≤ n, Times R m i j := by
  induction n with
  | zero =>
    intro s inside j
    constructor
    · intro member
      exact ⟨j, member, 0, le_rfl, .zero j⟩
    · rintro ⟨i, start, m, le, steps⟩
      cases steps with
      | zero => exact start
      | succ => omega
  | succ n ih =>
    intro s inside k
    have wider (j : Nat) : (s ||| f s).testBit j = true ↔ s.testBit j = true ∨ ∃ i, s.testBit i = true ∧ R i j := by
      rw [Nat.testBit_or, Bool.or_eq_true, follows s inside j]
    rw [Pattern.stepUpTo]
    split
    · next same =>
      -- a set that one step does not leave holds what any number of steps reaches
      constructor
      · intro member
        exact ⟨k, member, 0, Nat.zero_le _, .zero k⟩
      · rintro ⟨i, start, m, -, steps⟩
        refine follows.closed inside (fun j member => ?_) start steps
        rw [← same, Nat.testBit_or, member, Bool.or_true]
    · have wider_inside : InText size (s ||| f s) := by
        intro j member
        rw [Nat.testBit_or, Bool.or_eq_true] at member
        rcases member with member | member
        · exact inside j member
        · exact follows.inText stays inside j member
      rw [ih _ wider_inside k]
      constructor
      · rintro ⟨j, member, m, le, steps⟩
        rcases (wider j).mp member with start | ⟨i, start, step⟩
        · exact ⟨j, start, m, by omega, steps⟩
        · exact ⟨i, start, m + 1, by omega, .succ step steps⟩
      · rintro ⟨i, start, m, le, steps⟩
        cases steps with
        | zero => exact ⟨k, (wider k).mpr (.inl start), 0, Nat.zero_le _, .zero k⟩
        | succ step rest =>
          exact ⟨_, (wider _).mpr (.inr ⟨i, start, step⟩), _, Nat.le_of_succ_le_succ le, rest⟩

theorem Spans.le_length {text : List Char} {r : Regex} : StaysWithin text.length (Spans text r) := by
  induction r with
  | empty =>
    rintro i j inside rfl
    exact inside
  | chars set =>
    rintro i j inside ⟨rfl, c, at_i, -⟩
    exact (List.getElem?_eq_some_iff.mp at_i).1
  | look l =>
    rintro i j inside ⟨rfl, -⟩
    exact inside
  | seq a b iha ihb =>
    rintro i k inside ⟨j, first, second⟩
    exact ihb j k (iha i j inside first) second
  | alt a b iha ihb =>
    rintro i j inside (left | right)
    · exact iha i j inside left
    · exact ihb i j inside right
  | rep least greatest r ih =>
    rintro i j inside ⟨n, -, -, steps⟩
    exact ih.times n i j inside steps

theorem spans_rep {text : List Char} {least : Nat} {greatest : Option Nat} {r : Regex} {i k : Nat} :
    Spans text (.rep least greatest r) i k ↔
      ∃ j, Times (Spans text r) least i j ∧
        ∃ m, (∀ n ∈ greatest, least + m ≤ n) ∧ Times (Spans text r) m j k := by
  constructor
  · rintro ⟨n, at_least, at_most, steps⟩
    obtain ⟨m, rfl⟩ := Nat.exists_eq_add_of_le at_least
    obtain ⟨j, first, more⟩ := steps.split
    exact ⟨j, first, m, at_most, more⟩
  · rintro ⟨j, first, m, at_most, more⟩
    exact ⟨least + m, Nat.le_add_right _ _, at_most, first.append more⟩

theorem follows_ends (text : List Char) (r : Regex) :
    Follows text.length ((r.locate text.toArray).ends text.length) (Spans text r) := by
  induction r with
  | empty =>
    refine (follows_stay fun _ => true).congr fun i j _ => ?_
    simp [Spans]
  | chars set =>
    simp only [Regex.locate, Located.ends, List.getElem?_toArray]
    refine (follows_advance fun i => text[i]?.any set.hasChar).congr fun i j _ => ?_
    simp [Spans, Option.any_eq_true]
  | look l =>
    simp only [Regex.locate, Located.ends, List.getElem?_toArray]
    exact follows_stay fun i => l.holdsAt text i
  | seq a b iha ihb => exact iha.comp Spans.le_length ihb
  | alt a b iha ihb => exact iha.union ihb
  | rep least greatest r ih =>
    have stays : StaysWithin text.length (Spans text r) := Spans.le_length
    have first := ih.stepTimes stays least
    cases greatest with
    | none =>
      -- what any number of steps reaches is reached in as many as the text has places
      refine (first.comp (stays.times least) (ih.stepUpTo stays (text.length + 1))).congr fun i k inside => ?_
      rw [spans_rep]
      constructor
      · rintro ⟨j, before, m, -, more⟩
        exact ⟨j, before, m, by simp, more⟩
      · rintro ⟨j, before, m, -, more⟩
        exact ⟨j, before, times_short stays (stays.times least i j inside before) more⟩
    | some most =>
      by_cases ordered : least ≤ most
      · have both := first.comp (stays.times least) (ih.stepUpTo stays (most - least))
        simp only [Regex.locate, Located.ends, ordered, if_true]
        refine both.congr fun i k _ => ?_
        rw [spans_rep]
        constructor
        · rintro ⟨j, before, m, le, more⟩
          exact ⟨j, before, m, by simp; omega, more⟩
        · rintro ⟨j, before, m, le, more⟩
          have := le most rfl
          exact ⟨j, before, m, by omega, more⟩
      · -- no number of repetitions is between bounds that are the wrong way round
        intro s _ k
        simp only [Regex.locate, Located.ends, ordered, if_false, Nat.zero_testBit, Bool.false_eq_true, false_iff]
        rintro ⟨i, -, n, at_least, at_most, -⟩
        have := at_most most rfl
        omega

/-- The matcher finds a match exactly when there is one. -/
theorem Regex.matchesIn_iff (r : Regex) (text : List Char) : r.matchesIn text = true ↔ Matches text r := by
  have found : r.matchesIn text = true ↔
      ∃ j, ((r.locate text.toArray).ends text.length (placesWhere (fun _ => true) text.length)).testBit j = true := by
    rw [matchesIn, bne_iff_ne]
    constructor
    · exact Nat.exists_testBit_of_ne_zero
    · rintro ⟨j, member⟩ zero
      simp [zero] at member
  rw [found, Matches]
  constructor
  · rintro ⟨j, member⟩
    obtain ⟨i, start, spans⟩ := (follows_ends text r _ (inText_placesWhere _ _) j).mp member
    exact ⟨i, j, (testBit_placesWhere.mp start).1, spans⟩
  · rintro ⟨i, j, inside, spans⟩
    exact ⟨j, (follows_ends text r _ (inText_placesWhere _ _) j).mpr ⟨i, testBit_placesWhere.mpr ⟨inside, rfl⟩, spans⟩⟩

end SchemaMutation.Pattern
