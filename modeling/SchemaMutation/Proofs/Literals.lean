import SchemaMutation.Proofs.Pieces

/-!
# Literals

What the string literals of a filter do to its condition. Whatever a literal holds, it is read to the quote that closes
it and no further: a quote inside it is written twice, and what comes behind it never begins with one. So filters that
differ in nothing but their string literals become conditions that differ in nothing else (`literals_contained`).
-/

namespace SchemaMutation

namespace Query

def Operand.string? : Operand → Option String
  | .value (.string s) => some s
  | _ => none

def Operand.blank : Operand → Operand
  | .value (.string _) => .value (.string "")
  | o => o

namespace Filter

def strings (f : Filter) : List String := f.operands.filterMap Operand.string?

mutual
/-- A filter with nothing in its string literals: what is left of it without their contents. -/
def blank : Filter → Filter
  | .and parts => .and (blankAll parts)
  | .or parts => .or (blankAll parts)
  | .not part => .not part.blank
  | .compare column op value => .compare column op value.blank
  | .isNull column negated => .isNull column negated
  | .isIn column values negated => .isIn column (values.map Operand.blank) negated

def blankAll : List Filter → List Filter
  | [] => []
  | part :: rest => part.blank :: blankAll rest
end

end Filter

end Query

namespace Sql

open Query (Filter Operand Comparison)
open Schema (Table Column Snapshot)

/-- What a literal holds from some place in it on, and the text behind it. Of quotes, two in a row stand for one, and a
    single one closes the literal. -/
def scanQuoted : List Char → Option (List Char × List Char)
  | [] => none
  | '\'' :: '\'' :: cs => (scanQuoted cs).map fun (value, rest) => ('\'' :: value, rest)
  | '\'' :: cs => some ([], cs)
  | c :: cs => (scanQuoted cs).map fun (value, rest) => (c :: value, rest)

def scanLiteral : List Char → Option (List Char × List Char)
  | '\'' :: cs => scanQuoted cs
  | _ => none

def Unquoted (cs : List Char) : Prop := cs.head? ≠ some '\''

theorem unquoted_cons {c : Char} (other : c ≠ '\'') (cs : List Char) : Unquoted (c :: cs) := by
  intro quote
  exact other (Option.some.inj quote)

theorem scanQuoted_closing {rest : List Char} (unquoted : Unquoted rest) :
    scanQuoted ('\'' :: rest) = some ([], rest) := by
  cases rest with
  | nil => rfl
  | cons c cs =>
    have other : c ≠ '\'' := fun quote => unquoted (congrArg some quote)
    simp [scanQuoted, other]

theorem scanQuoted_other {c : Char} (other : c ≠ '\'') (cs : List Char) :
    scanQuoted (c :: cs) = (scanQuoted cs).map fun (value, rest) => (c :: value, rest) := by
  simp [scanQuoted, other]

/-- A literal that is written is read back, up to the text behind it. -/
theorem scanLiteral_literalText (value : String) {rest : List Char} (unquoted : Unquoted rest) :
    scanLiteral ((literalText value).toList ++ rest) = some (value.toList, rest) := by
  have body (cs : List Char) : scanQuoted (cs.flatMap literalChar ++ '\'' :: rest) = some (cs, rest) := by
    induction cs with
    | nil => exact scanQuoted_closing unquoted
    | cons c cs ih =>
      rw [List.flatMap_cons, List.append_assoc]
      by_cases quote : c = '\''
      · have doubled : literalChar c = ['\'', '\''] := if_pos quote
        rw [doubled, List.cons_append, List.cons_append, List.nil_append, scanQuoted, ih, Option.map_some, quote]
      · have single : literalChar c = [c] := if_neg quote
        rw [single, List.singleton_append, scanQuoted_other quote, ih, Option.map_some]
  simpa [literal_chars, scanLiteral] using body value.toList

def Piece.literal? : Piece → Option String
  | .literal value => some value
  | _ => none

def literals (ps : List Piece) : List String := ps.filterMap Piece.literal?

def Piece.blank : Piece → Piece
  | .literal _ => .literal ""
  | p => p

theorem literals_marks (ps : List Piece) : literals (marks ps) = literals ps := by
  induction ps with
  | nil => rfl
  | cons p ps ih =>
    cases p with
    | plain text => exact ih
    | placeholder name => exact ih
    | literal value => exact congrArg (value :: ·) ih

/-- Each literal among pieces is read from its opening quote to its end, and holds there what it stands for, whatever
    text without a quote at its beginning comes behind the pieces. -/
def Delimited (ps : List Piece) : Prop :=
  ∀ before value after, ps = before ++ .literal value :: after → ∀ further, Unquoted further →
    scanLiteral ((written (.literal value :: after)).toList ++ further) =
      some (value.toList, (written after).toList ++ further)

/-- No literal among pieces with this text behind them is followed by a quote. -/
def Closed : List Piece → List Char → Prop
  | [], _ => True
  | .literal _ :: ps, rest => Unquoted ((written ps).toList ++ rest) ∧ Closed ps rest
  | _ :: ps, rest => Closed ps rest

section
variable {ps qs : List Piece} {rest : List Char}

@[simp] theorem closed_nil : Closed [] rest := trivial

@[simp] theorem closed_plain {text : String} : Closed (.plain text :: ps) rest ↔ Closed ps rest := Iff.rfl

@[simp] theorem closed_placeholder {name : String} : Closed (.placeholder name :: ps) rest ↔ Closed ps rest := Iff.rfl

@[simp] theorem closed_literal {value : String} :
    Closed (.literal value :: ps) rest ↔ Unquoted ((written ps).toList ++ rest) ∧ Closed ps rest := Iff.rfl

@[simp] theorem closed_append :
    Closed (ps ++ qs) rest ↔ Closed ps ((written qs).toList ++ rest) ∧ Closed qs rest := by
  induction ps with
  | nil => simp
  | cons p ps ih =>
    cases p with
    | plain text => exact ih
    | placeholder name => exact ih
    | literal value =>
      rw [List.cons_append, closed_literal, closed_literal, ih, written_append, String.toList_append,
        List.append_assoc, and_assoc]

end

theorem unquoted_plain {text : String} {c : Char} {cs : List Char} (first : text.toList = c :: cs) (other : c ≠ '\'')
    (ps : List Piece) (rest : List Char) : Unquoted ((written (.plain text :: ps)).toList ++ rest) := by
  rw [written_cons, String.toList_append, Piece.text_plain, first]
  exact unquoted_cons other _

theorem delimited_of_closed {ps : List Piece} (closed : ∀ rest, Unquoted rest → Closed ps rest) : Delimited ps := by
  rintro before value after rfl further unquoted
  obtain ⟨behind, _⟩ := closed_literal.mp (closed_append.mp (closed further unquoted)).2
  rw [written_cons, String.toList_append, List.append_assoc, Piece.text_literal]
  exact scanLiteral_literalText value behind

theorem tokensPieces_cons (token : Token) (ts : List Token) :
    tokensPieces (token :: ts) = token.pieces ++ tokensPieces ts := List.flatMap_cons

theorem tokensPieces_append (ts us : List Token) :
    tokensPieces (ts ++ us) = tokensPieces ts ++ tokensPieces us := List.flatMap_append

theorem Scalar.closed (s : Scalar) {rest : List Char} (unquoted : Unquoted rest) : Closed [s.piece] rest := by
  cases s with
  | string value => exact ⟨unquoted, trivial⟩
  | _ => trivial

theorem scalars_closed (ss : List Scalar) {rest : List Char} (unquoted : Unquoted rest) :
    Closed (listed (ss.map Scalar.piece)) rest := by
  induction ss with
  | nil => trivial
  | cons s ss ih =>
    cases ss with
    | nil => exact s.closed unquoted
    | cons next ss =>
      have split : listed ((s :: next :: ss).map Scalar.piece) =
          [s.piece] ++ .plain ", " :: listed ((next :: ss).map Scalar.piece) := rfl
      rw [split, closed_append, closed_plain]
      exact ⟨s.closed (unquoted_plain rfl (by decide) _ rest), ih⟩

theorem Atom.closed (a : Atom) {rest : List Char} (unquoted : Unquoted rest) : Closed a.pieces rest := by
  cases a with
  | compare column op value => exact closed_plain.mpr (value.closed unquoted)
  | isNull column negated => trivial
  | isIn column values negated =>
    rw [Atom.pieces, List.cons_append, closed_plain, closed_append]
    exact ⟨scalars_closed values (unquoted_plain rfl (by decide) [] rest), trivial⟩

def LaidClosed (ts : List Token) : Prop := ∀ rest, Unquoted rest → Closed (tokensPieces ts) rest

theorem LaidClosed.parenthesized {ts : List Token} (closed : LaidClosed ts) : LaidClosed (.open :: ts ++ [.close]) := by
  intro rest _
  rw [tokensPieces_append, tokensPieces_cons, closed_append]
  exact ⟨closed _ (unquoted_plain rfl (by decide) [] rest), trivial⟩

theorem Atom.laidClosed (a : Atom) : LaidClosed [.atom a] := by
  intro rest unquoted
  have pieces : tokensPieces [.atom a] = a.pieces := List.append_nil _
  rw [pieces]
  exact a.closed unquoted

section
variable {t : Table} {joiner : Token}

theorem joinedTokens_unquoted (joins : joiner = .and ∨ joiner = .or) {parts : List Filter} {ts : List Token}
    (laid : joinedTokens t joiner parts = .ok ts) {rest : List Char} (unquoted : Unquoted rest) :
    Unquoted ((written (tokensPieces ts)).toList ++ rest) := by
  cases parts with
  | nil =>
    simp only [joinedTokens, Except.ok.injEq] at laid
    subst laid
    exact unquoted
  | cons part parts =>
    obtain ⟨first, _, others, _, rfl⟩ := joinedTokens_cons.mp laid
    rw [List.cons_append, tokensPieces_cons, written_append, String.toList_append, List.append_assoc]
    rcases joins with rfl | rfl
    · exact unquoted_plain rfl (by decide) [] _
    · exact unquoted_plain rfl (by decide) [] _

theorem LaidClosed.append {first others : List Token} {parts : List Filter} (joins : joiner = .and ∨ joiner = .or)
    (firstClosed : LaidClosed first) (laid : joinedTokens t joiner parts = .ok others)
    (othersClosed : LaidClosed others) : LaidClosed (first ++ others) := by
  intro rest unquoted
  rw [tokensPieces_append, closed_append]
  exact ⟨firstClosed _ (joinedTokens_unquoted joins laid unquoted), othersClosed rest unquoted⟩

theorem joinedTokens_closed (joins : joiner = .and ∨ joiner = .or) {parts : List Filter}
    (each : ∀ part ∈ parts, ∀ top ts, tokens t top part = .ok ts → LaidClosed ts) :
    ∀ ts, joinedTokens t joiner parts = .ok ts → LaidClosed ts := by
  induction parts with
  | nil =>
    intro ts laid
    simp only [joinedTokens, Except.ok.injEq] at laid
    subst laid
    exact fun _ _ => trivial
  | cons part parts ih =>
    intro ts laid
    obtain ⟨first, firstLaid, others, othersLaid, rfl⟩ := joinedTokens_cons.mp laid
    obtain ⟨firstEach, othersEach⟩ := List.forall_mem_cons.mp each
    have both := (firstEach false first firstLaid).append joins othersLaid (ih othersEach others othersLaid)
    intro rest unquoted
    rw [List.cons_append, tokensPieces_cons, closed_append]
    refine ⟨?_, both rest unquoted⟩
    rcases joins with rfl | rfl <;> trivial

theorem groupTokens_closed (joins : joiner = .and ∨ joiner = .or) {top neutral : Bool} {parts : List Filter}
    (each : ∀ part ∈ parts, ∀ top ts, tokens t top part = .ok ts → LaidClosed ts) {ts : List Token}
    (laid : groupTokens t top joiner neutral parts = .ok ts) : LaidClosed ts := by
  rcases groupTokens_cases laid with ⟨rfl, rfl⟩ | ⟨part, rfl, laid⟩ |
    ⟨part, rest, first, others, rfl, firstLaid, othersLaid, rfl⟩
  · exact fun _ _ => trivial
  · exact each part List.mem_cons_self top ts laid
  · obtain ⟨firstEach, othersEach⟩ := List.forall_mem_cons.mp each
    have both := (firstEach false first firstLaid).append joins othersLaid
      (joinedTokens_closed joins othersEach others othersLaid)
    cases top with
    | true => exact both
    | false => exact both.parenthesized

theorem tokens_closed (f : Filter) : ∀ top ts, tokens t top f = .ok ts → LaidClosed ts := by
  induction f using Filter.induct with
  | and parts each =>
    intro top ts laid
    exact groupTokens_closed (.inl rfl) each (tokens_and parts ▸ laid)
  | or parts each =>
    intro top ts laid
    exact groupTokens_closed (.inr rfl) each (tokens_or parts ▸ laid)
  | not part ih =>
    intro top ts laid
    obtain ⟨inner, innerLaid, rfl⟩ := tokens_not.mp laid
    exact (ih true inner innerLaid).parenthesized
  | compare column op value =>
    intro top ts laid
    obtain ⟨name, _, s, _, rfl⟩ := tokens_compare.mp laid
    exact Atom.laidClosed _
  | isNull column negated =>
    intro top ts laid
    obtain ⟨name, _, rfl⟩ := tokens_isNull.mp laid
    exact Atom.laidClosed _
  | isIn column values negated =>
    intro top ts laid
    obtain ⟨_, name, _, ss, _, rfl⟩ := tokens_isIn.mp laid
    exact Atom.laidClosed _

end

/-- A filter is laid out with its string literals, each once and in order. -/
theorem tokens_literals {t : Table} {f : Filter} {ts : List Token} (laid : tokens t true f = .ok ts) :
    literals (tokensPieces ts) = f.strings := by
  rw [← literals_marks, tokens_marks laid, literals, List.filterMap_filterMap, Filter.strings]
  refine List.filterMap_congr fun o _ => ?_
  cases o with
  | var name => rfl
  | value literal => cases literal <;> rfl

def Scalar.blank : Scalar → Scalar
  | .string _ => .string ""
  | s => s

def Atom.blank : Atom → Atom
  | .compare column op value => .compare column op value.blank
  | .isNull column negated => .isNull column negated
  | .isIn column values negated => .isIn column (values.map Scalar.blank) negated

def Token.blank : Token → Token
  | .atom a => .atom a.blank
  | token => token

theorem Scalar.piece_blank (s : Scalar) : s.blank.piece = s.piece.blank := by
  cases s <;> rfl

theorem listed_blank (ps : List Piece) : listed (ps.map Piece.blank) = (listed ps).map Piece.blank := by
  rw [listed, listed]
  induction ps with
  | nil => rfl
  | cons p ps ih =>
    cases ps with
    | nil => rfl
    | cons q ps =>
      rw [List.map_cons, List.map_cons, List.intersperse_cons_cons, ← List.map_cons, ih, List.intersperse_cons_cons]
      rfl

theorem Atom.pieces_blank (a : Atom) : a.blank.pieces = a.pieces.map Piece.blank := by
  cases a with
  | compare column op value => simp [blank, pieces, Scalar.piece_blank, Piece.blank]
  | isNull column negated => rfl
  | isIn column values negated =>
    have list : (values.map Scalar.blank).map Scalar.piece = (values.map Scalar.piece).map Piece.blank := by
      simp [Scalar.piece_blank, Function.comp_def]
    rw [blank, pieces, pieces, list, listed_blank, List.map_append]
    rfl

theorem tokensPieces_blank (ts : List Token) :
    tokensPieces (ts.map Token.blank) = (tokensPieces ts).map Piece.blank := by
  induction ts with
  | nil => rfl
  | cons token ts ih =>
    rw [List.map_cons, tokensPieces_cons, tokensPieces_cons, List.map_append, ih]
    cases token with
    | atom a => exact congrArg (· ++ _) a.pieces_blank
    | _ => rfl

theorem scalar_blank (o : Operand) : scalar o.blank = (scalar o).map Scalar.blank := by
  cases o with
  | var name => rfl
  | value literal => cases literal <;> rfl

theorem scalars_blank (os : List Operand) :
    scalars (os.map Operand.blank) = (scalars os).map (List.map Scalar.blank) := by
  induction os with
  | nil => rfl
  | cons o os ih =>
    rw [List.map_cons, scalars, scalars, scalar_blank, ih]
    cases scalar o with
    | error e => rfl
    | ok s => cases scalars os <;> rfl

section
variable {t : Table}

theorem joinedTokens_blank {joiner : Token} (wordless : joiner.blank = joiner) {parts : List Filter}
    (each : ∀ part ∈ parts, ∀ top, tokens t top part.blank = (tokens t top part).map (List.map Token.blank)) :
    joinedTokens t joiner (Filter.blankAll parts) = (joinedTokens t joiner parts).map (List.map Token.blank) := by
  induction parts with
  | nil =>
    rw [Filter.blankAll, joinedTokens]
    rfl
  | cons part parts ih =>
    obtain ⟨first, others⟩ := List.forall_mem_cons.mp each
    rw [Filter.blankAll, joinedTokens, joinedTokens, first false, ih others]
    cases tokens t false part with
    | error e => rfl
    | ok ts =>
      cases joinedTokens t joiner parts with
      | error e => rfl
      | ok us => simp [Except.map, wordless]

theorem groupTokens_blank {joiner : Token} (wordless : joiner.blank = joiner) {top neutral : Bool}
    {parts : List Filter}
    (each : ∀ part ∈ parts, ∀ top, tokens t top part.blank = (tokens t top part).map (List.map Token.blank)) :
    groupTokens t top joiner neutral (Filter.blankAll parts) =
      (groupTokens t top joiner neutral parts).map (List.map Token.blank) := by
  rcases parts with _ | ⟨part, _ | ⟨next, parts⟩⟩
  · rw [Filter.blankAll, groupTokens]
    rfl
  · rw [Filter.blankAll, Filter.blankAll, groupTokens, groupTokens]
    exact each part List.mem_cons_self top
  · obtain ⟨first, others⟩ := List.forall_mem_cons.mp each
    have joined := joinedTokens_blank wordless others
    rw [Filter.blankAll] at joined
    rw [Filter.blankAll, Filter.blankAll, groupTokens, groupTokens, first false, joined]
    cases tokens t false part with
    | error e => rfl
    | ok ts =>
      cases joinedTokens t joiner (next :: parts) with
      | error e => rfl
      | ok us => cases top <;> simp [Except.map, Token.blank]

/-- The contents of string literals make no difference to the layout of a filter, except for themselves. -/
theorem tokens_blank (f : Filter) :
    ∀ top, tokens t top f.blank = (tokens t top f).map (List.map Token.blank) := by
  induction f using Filter.induct with
  | and parts each =>
    intro top
    rw [Filter.blank, tokens_and, tokens_and]
    exact groupTokens_blank rfl each
  | or parts each =>
    intro top
    rw [Filter.blank, tokens_or, tokens_or]
    exact groupTokens_blank rfl each
  | not part ih =>
    intro top
    rw [Filter.blank, tokens, tokens, ih true]
    cases tokens t true part with
    | error e => rfl
    | ok ts => simp [Except.map, Token.blank]
  | compare column op value =>
    intro top
    rw [Filter.blank, tokens, tokens, scalar_blank]
    cases columnName t column with
    | error e => rfl
    | ok name => cases scalar value <;> rfl
  | isNull column negated =>
    intro top
    rw [Filter.blank, tokens]
    cases columnName t column <;> rfl
  | isIn column values negated =>
    intro top
    rw [Filter.blank, tokens, tokens, scalars_blank, List.isEmpty_map]
    split
    · rfl
    · cases columnName t column with
      | error e => rfl
      | ok name => cases scalars values <;> rfl

end

/-- Pieces of the condition of a filter, among them its string literals in order and each delimited by its quotes. -/
structure CutAtLiterals (f : Filter) (text : String) (ps : List Piece) : Prop where
  text : written ps = text
  literals : literals ps = f.strings
  delimited : Delimited ps

theorem cutAtLiterals_of_laid {t : Table} {f : Filter} {ts : List Token} (laid : tokens t true f = .ok ts) :
    CutAtLiterals f (tokensText ts) (tokensPieces ts) where
  text := written_tokens ts
  literals := tokens_literals laid
  delimited := delimited_of_closed (tokens_closed f true ts laid)

/-- A condition can be cut at its string literals so that each of them is read as what it stands for and no further. If
    nothing but the contents of string literals is changed in the filter, the condition stays the same apart from
    these. -/
theorem literals_contained {f : Filter} {t : Table} {text : String} (rendered : renderFilter f t = .ok text) :
    ∃ ps, CutAtLiterals f text ps ∧ ∀ f' : Filter, f'.blank = f.blank →
      ∃ text' ps', renderFilter f' t = .ok text' ∧ CutAtLiterals f' text' ps' ∧
        ps'.map Piece.blank = ps.map Piece.blank := by
  obtain ⟨ts, laid, rfl⟩ := renderFilter_eq_ok.mp rendered
  refine ⟨tokensPieces ts, cutAtLiterals_of_laid laid, ?_⟩
  intro f' same
  have blanked : tokens t true f'.blank = .ok (ts.map Token.blank) := by
    rw [same, tokens_blank, laid]
    rfl
  obtain ⟨ts', laid', sameTokens⟩ := map_eq_ok.mp (tokens_blank f' true ▸ blanked)
  refine ⟨tokensText ts', tokensPieces ts', renderFilter_eq_ok.mpr ⟨ts', laid', rfl⟩, cutAtLiterals_of_laid laid', ?_⟩
  rw [← tokensPieces_blank, ← tokensPieces_blank, sameTokens]

def notesTable : Table :=
  .ofColumns "public" "notes" "" [.plain "public" "notes" "id" "bigint", .plain "public" "notes" "author" "text"]

def notesBy (first second third : String) : Filter :=
  .or [.isIn "author" [.value (.string first), .value (.string second), .value (.string third)] false,
    .not (.compare "ID" .lte (.var "least"))]

theorem literals_contained_notes :
    renderFilter (notesBy "o'neil" "" "'") notesTable =
      .ok "author IN ('o''neil', '', '''') OR NOT (id <= \x7b\x7bleast\x7d\x7d)" ∧
    (notesBy "') OR (true" "''" "-- ").blank = (notesBy "o'neil" "" "'").blank ∧
    ∃ ps, CutAtLiterals (notesBy "o'neil" "" "'")
        "author IN ('o''neil', '', '''') OR NOT (id <= \x7b\x7bleast\x7d\x7d)" ps ∧
      ∃ text' ps', renderFilter (notesBy "') OR (true" "''" "-- ") notesTable = .ok text' ∧
        CutAtLiterals (notesBy "') OR (true" "''" "-- ") text' ps' ∧ ps'.map Piece.blank = ps.map Piece.blank := by
  have rendered : renderFilter (notesBy "o'neil" "" "'") notesTable =
      .ok "author IN ('o''neil', '', '''') OR NOT (id <= \x7b\x7bleast\x7d\x7d)" := by decide +kernel
  have same : (notesBy "') OR (true" "''" "-- ").blank = (notesBy "o'neil" "" "'").blank := rfl
  obtain ⟨ps, cut, others⟩ := literals_contained rendered
  exact ⟨rendered, same, ps, cut, others _ same⟩

end Sql

end SchemaMutation
