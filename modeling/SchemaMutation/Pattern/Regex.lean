import SchemaMutation.Text.Characters

/-!
# Regular expressions and their meaning

A regular expression over characters, with conditions on the places between them. Its meaning is a relation between
two places of a text: `Spans text r i j` says that `r` can take the characters from place `i` to place `j`. A text is
matched when some two of its places are related. The matcher works on whole sets of places at once and compares
nothing twice; it is `ends`.
-/

namespace SchemaMutation.Pattern

open Text (RangeSet)

inductive WordCondition where
  | boundary
  | noBoundary
  | start
  | finish
  | startHalf
  | finishHalf
deriving DecidableEq, Repr

inductive Look where
  | textStart
  | textEnd
  | lineStart (crlf : Bool)
  | lineEnd (crlf : Bool)
  | word (condition : WordCondition) (unicode : Bool)
deriving DecidableEq, Repr

inductive Regex where
  | empty
  | chars (set : RangeSet)
  | look (condition : Look)
  | seq (a b : Regex)
  | alt (a b : Regex)
  /-- Between `least` and `greatest` repetitions, or any number from `least` on. -/
  | rep (least : Nat) (greatest : Option Nat) (r : Regex)
deriving Repr, Inhabited

def isWordChar (unicode : Bool) (c : Char) : Bool :=
  if unicode then Text.wordChars.hasChar c else c.isAlphanum || c == '_'

/-- Whether a word condition holds between a side inside or outside of a word and another. -/
def WordCondition.holds : WordCondition → Bool → Bool → Bool
  | .boundary, before, after => before != after
  | .noBoundary, before, after => before == after
  | .start, before, after => !before && after
  | .finish, before, after => before && !after
  | .startHalf, before, _ => !before
  | .finishHalf, _, after => !after

/-- Whether a condition holds between two characters, `none` standing for an end of the text. -/
def Look.holds (l : Look) (before after : Option Char) : Bool :=
  match l with
  | .textStart => before.isNone
  | .textEnd => after.isNone
  | .lineStart false => before.all (· == '\n')
  | .lineEnd false => after.all (· == '\n')
  | .lineStart true => before.all fun c => c == '\n' || (c == '\r' && after != some '\n')
  | .lineEnd true => after.all fun c => c == '\r' || (c == '\n' && before != some '\r')
  | .word condition unicode => condition.holds (before.any (isWordChar unicode)) (after.any (isWordChar unicode))

def charBefore (text : List Char) (i : Nat) : Option Char := if i = 0 then none else text[i - 1]?

def Look.holdsAt (l : Look) (text : List Char) (i : Nat) : Bool := l.holds (charBefore text i) text[i]?

/-- A relation taken a number of times. -/
inductive Times (R : Nat → Nat → Prop) : Nat → Nat → Nat → Prop where
  | zero (i : Nat) : Times R 0 i i
  | succ {n i j k : Nat} : R i j → Times R n j k → Times R (n + 1) i k

/-- The places between which an expression can take the characters of a text. -/
def Spans (text : List Char) : Regex → Nat → Nat → Prop
  | .empty => fun i j => i = j
  | .chars set => fun i j => j = i + 1 ∧ ∃ c, text[i]? = some c ∧ set.hasChar c = true
  | .look l => fun i j => i = j ∧ l.holdsAt text i = true
  | .seq a b => fun i k => ∃ j, Spans text a i j ∧ Spans text b j k
  | .alt a b => fun i j => Spans text a i j ∨ Spans text b i j
  | .rep least greatest r => fun i j => ∃ n, least ≤ n ∧ (∀ m ∈ greatest, n ≤ m) ∧ Times (Spans text r) n i j

/-- Whether an expression matches somewhere in a text. -/
def Matches (text : List Char) (r : Regex) : Prop := ∃ i j, i ≤ text.length ∧ Spans text r i j

/-- A set of places; place `i` is in it when bit `i` is set. -/
abbrev Places := Nat

def placesWhere (p : Nat → Bool) : Nat → Places
  | 0 => if p 0 then 1 else 0
  | n + 1 => placesWhere p n ||| (if p (n + 1) then 1 <<< (n + 1) else 0)

/-- An expression with its classes and conditions resolved to the places of one text. -/
inductive Located where
  | stay (places : Places)
  | advance (places : Places)
  | seq (a b : Located)
  | alt (a b : Located)
  | rep (least : Nat) (greatest : Option Nat) (r : Located)

def Regex.locate (text : Array Char) : Regex → Located
  | .empty => .stay (placesWhere (fun _ => true) text.size)
  | .chars set => .advance (placesWhere (fun i => text[i]?.any set.hasChar) text.size)
  | .look l =>
    .stay (placesWhere (fun i => l.holds (if i = 0 then none else text[i - 1]?) text[i]?) text.size)
  | .seq a b => .seq (a.locate text) (b.locate text)
  | .alt a b => .alt (a.locate text) (b.locate text)
  | .rep least greatest r => .rep least greatest (r.locate text)

/-- A step made a number of times. A set that a step does not change stays as it is. -/
def stepTimes (f : Places → Places) : Nat → Places → Places
  | 0, s => s
  | n + 1, s =>
    let t := f s
    if t = s then s else stepTimes f n t

def stepUpTo (f : Places → Places) : Nat → Places → Places
  | 0, s => s
  | n + 1, s =>
    let t := s ||| f s
    if t = s then s else stepUpTo f n t

/-- The places where an expression can end when it starts at some of the places given. `size` is the length of the
    text: more steps than that reach no further place. No number of repetitions is between bounds that are the wrong
    way round. -/
def Located.ends (size : Nat) : Located → Places → Places
  | .stay places, s => s &&& places
  | .advance places, s => (s &&& places) <<< 1
  | .seq a b, s => b.ends size (a.ends size s)
  | .alt a b, s => a.ends size s ||| b.ends size s
  | .rep least greatest r, s =>
    let reached := stepTimes (r.ends size) least s
    match greatest with
    | none => stepUpTo (r.ends size) (size + 1) reached
    | some m => if least ≤ m then stepUpTo (r.ends size) (m - least) reached else 0

def Regex.matchesIn (r : Regex) (text : List Char) : Bool :=
  (r.locate text.toArray).ends text.length (placesWhere (fun _ => true) text.length) != 0

end SchemaMutation.Pattern
