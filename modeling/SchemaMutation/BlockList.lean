import SchemaMutation.Pattern.Parser
import SchemaMutation.Pattern.Regex
import SchemaMutation.Pattern.Resolve

/-!
# Block lists

A block list is a list of patterns; it matches a name when one of its patterns takes the whole name. A pattern is put
into a group between the start and the end of the text and read together with them. A pattern that cannot be read, or
is too large, matches no name.

A pattern is too large when an automaton over bytes that matches it would take more than ten mebibytes, in the direction
of the text or against it. The size is an estimate: a state takes 32 bytes, a transition of a state with several of
them eight, and an alternative four. A set of characters is measured by the byte sequences that encode its members.
-/

namespace SchemaMutation.Pattern

open Text (RangeSet)

/-- A sequence of byte ranges, one for each byte of an encoded character. -/
abbrev ByteSequence := List (Nat × Nat)

/-- The sequences for the characters from `first` to `last` that share their leading mark, `tail` further bytes
    following the first one. -/
def tailSequences (lead : Nat) : Nat → Nat → Nat → List ByteSequence
  | 0, first, last => [[(lead + first, lead + last)]]
  | tail + 1, first, last =>
    let block := Nat.pow 64 (tail + 1)
    let a := first / block
    let b := last / block
    let under (n x y : Nat) : List ByteSequence := (tailSequences 0x80 tail x y).map ((lead + n, lead + n) :: ·)
    if a = b then under a (first % block) (last % block)
    else
      let cutLow := first % block ≠ 0
      let cutHigh := last % block ≠ block - 1
      let low := if cutLow then under a (first % block) (block - 1) else []
      let high := if cutHigh then under b 0 (last % block) else []
      let start := if cutLow then a + 1 else a
      let stop := if cutHigh then b - 1 else b
      let middle := if start ≤ stop ∧ (!cutHigh ∨ 0 < b) then
          [(lead + start, lead + stop) :: List.replicate (tail + 1) (0x80, 0xBF)] else []
      low ++ middle ++ high

def byteSequences (r : Nat × Nat) : List ByteSequence :=
  let part (lead tail lo hi : Nat) : List ByteSequence :=
    let first := max r.1 lo
    let last := min r.2 hi
    if first ≤ last then tailSequences lead tail first last else []
  part 0 0 0 0x7F ++ part 0xC0 1 0x80 0x7FF ++ part 0xE0 2 0x800 0xFFFF ++ part 0xF0 3 0x10000 0x10FFFF

/-- The states that have been met, each as its transitions to the numbers of other states. -/
abbrev StateTable := List (List ((Nat × Nat) × Nat))

/-- The number of a state; a new one is added to the table. Number 0 is the end of a character. -/
def stateNumber (table : StateTable) (state : List ((Nat × Nat) × Nat)) : StateTable × Nat :=
  match table.findIdx? (· == state) with
  | some i => (table, table.length - i)
  | none => (state :: table, table.length + 1)

def groupByHead : List ByteSequence → List ((Nat × Nat) × List ByteSequence)
  | [] => []
  | [] :: rest => groupByHead rest
  | (r :: tail) :: rest =>
    match groupByHead rest with
    | (s, tails) :: groups => if r = s then (s, tail :: tails) :: groups else (r, [tail]) :: (s, tails) :: groups
    | [] => [(r, [tail])]

def addStates : Nat → StateTable → List ByteSequence → StateTable × Nat
  | 0, table, _ => (table, 0)
  | length + 1, table, sequences =>
    if sequences.all List.isEmpty then (table, 0)
    else
      let (table, transitions) := (groupByHead sequences).foldl (fun (table, done) group =>
        let (table, n) := addStates length table group.2
        (table, (group.1, n) :: done)) (table, [])
      stateNumber table transitions.reverse

/-- The size of the automaton for a set, in the direction of the text. -/
def forwardSetSize (s : RangeSet) : Nat :=
  let (table, _) := addStates 4 [] (s.ranges.flatMap byteSequences)
  32 * (table.length + 1) + 8 * table.flatten.length

def sharedLength : ByteSequence → ByteSequence → Nat
  | a :: as, b :: bs => if a = b then sharedLength as bs + 1 else 0
  | _, _ => 0

def beginnings (last : ByteSequence) : List ByteSequence → Nat
  | [] => 0
  | s :: rest => (s.length - sharedLength last s) + beginnings s rest

def backwardSetSize (s : RangeSet) : Nat :=
  let sequences := s.ranges.flatMap byteSequences
  32 * (beginnings [] sequences + 2) + 4 * sequences.length

/-- The size of a set; `wide` measures a set that goes beyond ASCII. -/
def setSize (wide : RangeSet → Nat) (s : RangeSet) : Nat :=
  let s := s.inter .chars
  match s.ranges with
  | [] => 32
  | [(a, b)] => if a = b then 32 * (Char.ofNat a).utf8Size else if b < 128 then 72 else wide s
  | rs => if s.within 127 then 64 + 8 * rs.length else wide s

def Regex.size (wide : RangeSet → Nat) : Regex → Nat
  | .empty => 32
  | .chars s => setSize wide s
  | .look _ => 32
  | .seq a b => a.size wide + b.size wide
  | .alt a b => a.size wide + b.size wide + 68
  | .rep least greatest r =>
    let one := r.size wide
    match greatest with
    | none => if least = 0 then one + 72 else least * one + 40
    | some m => if m = least then max 32 (least * one) else least * one + 32 + (m - least) * (one + 40)

def sizeLimit : Nat := 10 * 1024 * 1024

/-- An upper bound for the size of a set in either direction. -/
def looseSetSize (s : RangeSet) : Nat := 100 + 1000 * s.ranges.length

/-- Whether an expression is small enough. The exact sizes are worked out only where the bound leaves it open. -/
def Regex.fits (r : Regex) : Bool :=
  decide (r.size looseSetSize ≤ sizeLimit) ||
    (decide (r.size forwardSetSize ≤ sizeLimit) && decide (r.size backwardSetSize ≤ sizeLimit))

end SchemaMutation.Pattern

namespace SchemaMutation

def Pattern.anchored (pattern : String) : List Char := "^(?:".toList ++ pattern.toList ++ ")$".toList

/-- The expression that a text stands for, if it is well formed and not too large. -/
def Pattern.compile? (text : List Char) : Option Pattern.Regex := do
  let ast ← Pattern.parse text
  let (regex, _) ← ast.resolve? .start
  if regex.fits then some regex else none

/-- Whether a pattern takes a whole name. -/
def Pattern.matchesName (pattern name : String) : Bool :=
  (Pattern.compile? (Pattern.anchored pattern)).any (·.matchesIn name.toList)

/-- Patterns for names that are hidden. -/
abbrev BlockList := List String

def BlockList.blocks (patterns : BlockList) (name : String) : Bool := patterns.any (Pattern.matchesName · name)

end SchemaMutation
