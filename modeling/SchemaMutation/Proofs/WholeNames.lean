import SchemaMutation.BlockList
import SchemaMutation.Proofs.Pattern.Matching
import SchemaMutation.Proofs.Pattern.Reading

/-!
# Whole names

A block list is meant to hide the names that one of its patterns takes from the first character to the last
(`Pattern.TakesWhole`), limits on size and depth apart. The pattern is read inside of a group, however, and what is
written in it can reach out of the group: a parenthesis that closes it, or a comment that hides the parenthesis behind
the pattern. Patterns that do neither are blocked as meant (`BlockList.blocks_iff`). A pattern with an open comment
matches no name at all (`Pattern.matchesName_of_openComment`).
-/

namespace SchemaMutation

namespace Pattern

variable {last : State} {pattern name : String}

/-- The expression that a text is, limits on its size and its depth apart. -/
def expression? (cs : List Char) : Option Regex := (read? cs).bind fun ast => (ast.resolve? .start).map Prod.fst

def WithinLimits (cs : List Char) : Prop :=
  ∀ ast ∈ read? cs, ast.depth ≤ depthLimit ∧ ∀ resolved ∈ ast.resolve? .start, resolved.1.fits = true

instance (cs : List Char) : Decidable (WithinLimits cs) :=
  decidable_of_iff ((read? cs).all fun ast => decide (ast.depth ≤ depthLimit) && (ast.resolve? .start).all (·.1.fits))
    (by simp [WithinLimits, Option.all_eq_true])

/-- A pattern is an expression on its own that takes a whole name. -/
def TakesWhole (pattern name : String) : Prop :=
  ∃ r, expression? pattern.toList = some r ∧ Spans name.toList r 0 name.toList.length

/-- A pattern that reaches out of no group that is put around it. -/
structure Contained (pattern : String) : Prop where
  closes_own : ¬ Overcloses .start pattern.toList
  ends_comments : ¬ OpenComment pattern.toList

/-- A well-formed pattern reaches out of no group if a parenthesis behind it cannot be read. -/
theorem contained_of_read (well_formed : (read? pattern.toList).isSome)
    (closed : (read? (pattern.toList ++ closing)).isNone) : Contained pattern where
  closes_own overcloses := by
    rw [overcloses.read?_eq_none] at well_formed
    cases well_formed
  ends_comments := by
    rintro ⟨-, behind⟩
    rw [Option.isNone_iff_eq_none.mp closed] at behind
    cases behind

theorem compile?_eq {cs : List Char} (limits : WithinLimits cs) : compile? cs = expression? cs := by
  rw [compile?, expression?, parse]
  cases read : read? cs with
  | none => rfl
  | some ast =>
    obtain ⟨shallow, small⟩ := limits ast read
    have kept : (some ast).filter (fun a => a.depth ≤ depthLimit) = some ast := by simp [shallow]
    rw [kept]
    cases resolved : ast.resolve? .start with
    | none => simp [resolved]
    | some r => simp [resolved, small r resolved]

theorem reads_anchored :
    Reads .start (anchored pattern) last ↔ Reads (State.start.inside [wrapper]) (pattern.toList ++ closing) last := by
  have text : anchored pattern = '^' :: '(' :: '?' :: ':' :: (pattern.toList ++ closing) := rfl
  have start : State.start.step '^' ('(' :: '?' :: ':' :: (pattern.toList ++ closing)) =
      some (State.start.push (.assertion .lineStart), '(' :: '?' :: ':' :: (pattern.toList ++ closing)) := rfl
  have group : (State.start.push (.assertion .lineStart)).step '(' ('?' :: ':' :: (pattern.toList ++ closing)) =
      some (State.start.inside [wrapper], pattern.toList ++ closing) := rfl
  rw [text, Reads.part_iff rfl start, Reads.part_iff rfl group]

theorem closed_ast (s : State) :
    s.closed.level.ast = .concat [.assertion .lineStart, .group [] s.level.ast, .assertion .lineEnd] := rfl

theorem read?_anchored (contained : Contained pattern) : read? (anchored pattern) =
    (read? pattern.toList).map fun ast => .concat [.assertion .lineStart, .group [] ast, .assertion .lineEnd] := by
  ext ast
  rw [Option.map_eq_some_iff, read?_eq_some]
  constructor
  · rintro ⟨last, reads, closed, rfl⟩
    obtain ⟨final, alone, closing_read⟩ := Reads.of_closing (List.cons_ne_nil _ _) (reads_anchored.mp reads) rfl
      (.behind _) contained.closes_own closed
    have none_open := none_open_of_closed closing_read closed
    rw [(reads_wrapper none_open).mp closing_read]
    exact ⟨final.level.ast, read?_eq_some.mpr ⟨final, alone, none_open, rfl⟩, (closed_ast final).symm⟩
  · rintro ⟨ast, alone, rfl⟩
    obtain ⟨final, reads, none_open, rfl⟩ := read?_eq_some.mp alone
    rcases reads.with_closing (.behind _) with swallowed | closing_read
    · have behind : read? (pattern.toList ++ closing) = some final.level.ast :=
        read?_eq_some.mpr ⟨final, (swallowed [] final).mpr (State.inside_nil final).symm, none_open, rfl⟩
      exact absurd ⟨by rw [alone]; rfl, by rw [behind]; rfl⟩ contained.ends_comments
    · exact ⟨final.closed, reads_anchored.mpr ((closing_read _ _).mpr ((reads_wrapper none_open).mpr rfl)), rfl,
        closed_ast final⟩

def Regex.whole (r : Regex) : Regex := .seq (.look .textStart) (.seq r (.look .textEnd))

theorem expression?_anchored (contained : Contained pattern) :
    expression? (anchored pattern) = (expression? pattern.toList).map Regex.whole := by
  rw [expression?, expression?, read?_anchored contained]
  cases read? pattern.toList with
  | none => rfl
  | some ast =>
    rw [Option.map_some, Option.bind_some, Option.bind_some]
    have resolved : (Ast.concat [.assertion .lineStart, .group [] ast, .assertion .lineEnd]).resolve? .start =
        (ast.resolve? .start).map fun r => (r.1.whole, Flags.start) := by
      simp only [Ast.resolve?, Ast.resolveItems?, Flags.apply, List.foldl_nil, Option.bind_eq_bind, Option.bind_some]
      cases ast.resolve? .start <;> rfl
    rw [resolved, Option.map_map, Option.map_map]
    rfl

theorem matches_whole (text : List Char) (r : Regex) : Matches text r.whole ↔ Spans text r 0 text.length := by
  have at_start (i : Nat) (inside : i ≤ text.length) : Look.textStart.holdsAt text i = true ↔ i = 0 := by
    rw [Look.holdsAt, Look.holds, charBefore, Option.isNone_iff_eq_none]
    split
    · next start => simp [start]
    · next later =>
      rw [List.getElem?_eq_none_iff]
      omega
  have at_end (j : Nat) (inside : j ≤ text.length) : Look.textEnd.holdsAt text j = true ↔ j = text.length := by
    rw [Look.holdsAt, Look.holds, Option.isNone_iff_eq_none, List.getElem?_eq_none_iff]
    omega
  constructor
  · rintro ⟨i, j, inside, k, ⟨rfl, start⟩, l, spans, rfl, finish⟩
    rw [(at_start i inside).mp start] at spans
    rw [(at_end l (Spans.le_length 0 l (Nat.zero_le _) spans)).mp finish] at spans
    exact spans
  · intro spans
    exact ⟨0, text.length, Nat.zero_le _, 0, ⟨rfl, (at_start 0 (Nat.zero_le _)).mpr rfl⟩, text.length, spans, rfl,
      (at_end _ (Nat.le_refl _)).mpr rfl⟩

theorem matchesName_iff (limits : WithinLimits (anchored pattern)) (contained : Contained pattern) :
    matchesName pattern name = true ↔ TakesWhole pattern name := by
  rw [matchesName, compile?_eq limits, expression?_anchored contained, TakesWhole]
  cases expression? pattern.toList with
  | none => simp
  | some r =>
    rw [Option.map_some, Option.any_some, Regex.matchesIn_iff, matches_whole]
    constructor
    · intro spans
      exact ⟨r, rfl, spans⟩
    · rintro ⟨_, same, spans⟩
      cases same
      exact spans

/-- A pattern that leaves a comment open matches no name: the comment hides what closes the group around. -/
theorem matchesName_of_openComment (open_comment : OpenComment pattern.toList) : matchesName pattern name = false := by
  obtain ⟨alone, behind⟩ := open_comment
  obtain ⟨ast, alone⟩ := Option.isSome_iff_exists.mp alone
  obtain ⟨ast', behind⟩ := Option.isSome_iff_exists.mp behind
  obtain ⟨final, reads, none_open, -⟩ := read?_eq_some.mp alone
  have unread : read? (anchored pattern) = none := by
    rw [Option.eq_none_iff_forall_ne_some]
    intro whole read
    obtain ⟨last, around, closed, -⟩ := read?_eq_some.mp read
    rcases reads.with_closing (.behind _) with swallowed | closing_read
    · rw [(swallowed _ _).mp (reads_anchored.mp around)] at closed
      exact absurd (List.append_eq_nil_iff.mp closed).2 (List.cons_ne_nil _ _)
    · -- without a comment the parenthesis would be read, and no group is open
      obtain ⟨last', behind, -⟩ := read?_eq_some.mp behind
      have further := (closing_read [] last').mp behind
      rw [State.inside_nil] at further
      exact (Overcloses.here blanks_closing none_open).not_reads further
  simp [matchesName, compile?, parse, unread]

end Pattern

open Pattern

/-- Of patterns that reach out of no group, those hide a name that take it from the first character to the last. A
    pattern that is malformed on its own hides none. -/
theorem BlockList.blocks_iff (patterns : BlockList) (name : String)
    (limits : ∀ pattern ∈ patterns, WithinLimits (anchored pattern))
    (contained : ∀ pattern ∈ patterns, Contained pattern) :
    patterns.blocks name = true ↔ ∃ pattern ∈ patterns, TakesWhole pattern name := by
  rw [blocks, List.any_eq_true]
  refine exists_congr fun pattern => and_congr_right fun given => ?_
  exact matchesName_iff (limits pattern given) (contained pattern given)

def shopPatterns : BlockList := ["ord.*", "order|tmp_[0-9]+", "["]

theorem BlockList.blocks_iff_orders :
    ((∀ pattern ∈ shopPatterns, WithinLimits (anchored pattern)) ∧ ∀ pattern ∈ shopPatterns, Contained pattern) ∧
      (shopPatterns.blocks "orders" = true ↔ ∃ pattern ∈ shopPatterns, TakesWhole pattern "orders") := by
  have limits : ∀ pattern ∈ shopPatterns, WithinLimits (anchored pattern) := by decide +kernel
  have contained : ∀ pattern ∈ shopPatterns, Contained pattern := by
    intro pattern given
    simp only [shopPatterns, List.mem_cons, List.not_mem_nil, or_false] at given
    rcases given with rfl | rfl | rfl
    · exact contained_of_read (by decide +kernel) (by decide +kernel)
    · exact contained_of_read (by decide +kernel) (by decide +kernel)
    · refine ⟨?_, fun comment => absurd comment.1 (by decide +kernel)⟩
      rintro (⟨seen, -⟩ | ⟨seen, step, -⟩)
      · cases seen
      · cases seen
        cases step
  exact ⟨⟨limits, contained⟩, BlockList.blocks_iff shopPatterns "orders" limits contained⟩

/-- A pattern that closes the group around it. Behind the parenthesis it opens another one, which is closed in place
    of the first. -/
def closingPattern : String := "a)(?:b"

def commentPattern : String := "(?x)a#"

theorem read?_commentPattern {z : List Char} (hidden : dropComment z = []) : read? (commentPattern.toList ++ z) =
    some (.concat [.flags [(.ignoreBlanks, true)], .literal ⟨'a', false⟩]) := by
  have comment : blanks true ('#' :: z) = [] := by
    have seen : ('#' :: z).dropWhile isBlank = '#' :: z := by simp [isBlank_eq_false (c := '#') (by decide) (by decide)]
    simp only [blanks, if_true, dropIgnored, seen, hidden]
    rfl
  have letter : blanks true ('a' :: '#' :: z) = 'a' :: '#' :: z :=
    blanks_cons (isBlank_eq_false (by decide) (by decide)) (by decide)
  have flags : State.start.step '(' ('?' :: 'x' :: ')' :: 'a' :: '#' :: z) =
      some ({ State.start.push (.flags [(.ignoreBlanks, true)]) with ignore := true }, 'a' :: '#' :: z) := rfl
  exact read?_eq_some.mpr ⟨_, .part rfl flags (.part letter rfl (.done comment)), rfl, rfl⟩

/-- A pattern that closes the group around hides a name although it is malformed on its own. A pattern that leaves a
    comment open hides no name although it takes one as a whole. -/
theorem escaping_patterns :
    (BlockList.blocks [closingPattern] "ab" = true ∧ ¬ ∃ pattern ∈ [closingPattern], TakesWhole pattern "ab") ∧
      BlockList.blocks [commentPattern] "a" = false ∧ ∃ pattern ∈ [commentPattern], TakesWhole pattern "a" := by
  refine ⟨⟨by decide +kernel, ?_⟩, ?_, commentPattern, .head _, ?_⟩
  · rintro ⟨pattern, given, r, known, -⟩
    rw [List.mem_singleton.mp given] at known
    have malformed : (expression? closingPattern.toList).isSome = false := by decide +kernel
    rw [known] at malformed
    cases malformed
  · have alone := read?_commentPattern (z := []) rfl
    have behind := read?_commentPattern (z := closing) rfl
    rw [List.append_nil] at alone
    have comment : OpenComment commentPattern.toList := ⟨by rw [alone]; rfl, by rw [behind]; rfl⟩
    simp [BlockList.blocks, matchesName_of_openComment comment]
  · have alone := read?_commentPattern (z := []) rfl
    rw [List.append_nil] at alone
    refine ⟨.seq .empty (.chars (.single 97)), ?_, 0, rfl, rfl, 'a', rfl, rfl⟩
    rw [expression?, alone]
    rfl

end SchemaMutation
