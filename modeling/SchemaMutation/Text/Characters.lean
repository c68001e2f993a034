import SchemaMutation.Text.CaseTable
import SchemaMutation.Text.CategoryTable
import SchemaMutation.Text.PropertyTable

/-!
# Characters

Digits and signs, sets of characters, their kinds, and the forms of a text in lower case and in messages.

A set of code points is a list of closed ranges, in order, disjoint and never adjacent. The set operations keep that
form. A table of a set is its ranges in hexadecimal, separated by blanks or line ends, as in `41-5A 5F 61-7A`.

In lower case each character has a form of its own, with two exceptions: the capital I with a dot becomes two
characters, and a capital sigma at the end of a word becomes the final sigma.
-/

namespace SchemaMutation.Text

/-- What was read from the front of a text and the text behind it. -/
abbrev Parsed (α : Type) := α × List Char

/-- Whether a minus stands at the front, and the text behind the sign. -/
def takeSign : List Char → Bool × List Char
  | '+' :: cs => (false, cs)
  | '-' :: cs => (true, cs)
  | cs => (false, cs)

def hexValue? (c : Char) : Option Nat :=
  if c.isDigit then some (c.toNat - 48)
  else if 'A' ≤ c ∧ c ≤ 'F' then some (c.toNat - 55)
  else if 'a' ≤ c ∧ c ≤ 'f' then some (c.toNat - 87)
  else none

def isHexDigit (c : Char) : Bool := (hexValue? c).isSome

def numeral (base : Nat) (digits : List Char) : Nat :=
  digits.foldl (fun n d => n * base + (hexValue? d).getD 0) 0

/-- Closed ranges of code points in order. -/
structure RangeSet where
  ranges : List (Nat × Nat)
deriving DecidableEq, Repr, Inhabited

namespace RangeSet

def empty : RangeSet := ⟨[]⟩

def contains (s : RangeSet) (n : Nat) : Bool := s.ranges.any fun r => decide (r.1 ≤ n ∧ n ≤ r.2)

def hasChar (s : RangeSet) (c : Char) : Bool := s.contains c.toNat

/-- Joins ranges that overlap or touch, given in the order of their starts. -/
def coalesce : List (Nat × Nat) → List (Nat × Nat)
  | [] => []
  | r :: rest => go r rest
where
  go (r : Nat × Nat) : List (Nat × Nat) → List (Nat × Nat)
    | [] => [r]
    | s :: rest => if s.1 ≤ r.2 + 1 then go (r.1, max r.2 s.2) rest else r :: go s rest

def ofRanges (rs : List (Nat × Nat)) : RangeSet := ⟨coalesce (rs.mergeSort fun a b => a.1 ≤ b.1)⟩

def range (first last : Nat) : RangeSet := ⟨if first ≤ last then [(first, last)] else []⟩

def single (n : Nat) : RangeSet := ⟨[(n, n)]⟩

def union (s t : RangeSet) : RangeSet := ofRanges (s.ranges ++ t.ranges)

def inter (s t : RangeSet) : RangeSet :=
  ⟨s.ranges.flatMap fun a => t.ranges.filterMap fun b =>
    let first := max a.1 b.1
    let last := min a.2 b.2
    if first ≤ last then some (first, last) else none⟩

/-- The code points from `start` to `last` outside the ranges. -/
def gaps (last : Nat) (start : Nat) : List (Nat × Nat) → List (Nat × Nat)
  | [] => if start ≤ last then [(start, last)] else []
  | r :: rest => if start < r.1 then (start, r.1 - 1) :: gaps last (r.2 + 1) rest else gaps last (r.2 + 1) rest

/-- Every character: all code points but the surrogates. -/
def chars : RangeSet := ⟨[(0, 0xD7FF), (0xE000, 0x10FFFF)]⟩

def complement (s : RangeSet) : RangeSet := chars.inter ⟨gaps 0x10FFFF 0 s.ranges⟩

def diff (s t : RangeSet) : RangeSet := s.inter ⟨gaps 0x10FFFF 0 t.ranges⟩

def symmDiff (s t : RangeSet) : RangeSet := (s.diff t).union (t.diff s)

def isEmpty (s : RangeSet) : Bool := s.ranges.isEmpty

def within (s : RangeSet) (n : Nat) : Bool := s.ranges.all fun r => decide (r.2 ≤ n)

/-- Where a reader of tables stands: the ranges before, the start of an open range, and the number being read. -/
structure TableState where
  done : List (Nat × Nat)
  start : Option Nat
  number : Option Nat

def TableState.close (s : TableState) : TableState :=
  match s.number with
  | none => s
  | some n => ⟨(s.start.getD n, n) :: s.done, none, none⟩

def TableState.step (s : TableState) (c : Char) : TableState :=
  match hexValue? c with
  | some d => { s with number := some (s.number.getD 0 * 16 + d) }
  | none => if c = '-' then { s with start := s.number, number := none } else s.close

def ofTable (table : String) : RangeSet :=
  ⟨(table.toList.foldl TableState.step ⟨[], none, none⟩).close.done.reverse⟩

end RangeSet

/-- A table with the rows of sets under their names. -/
abbrev NamedSets := List (List String × String)

def NamedSets.find? (table : NamedSets) (name : String) : Option RangeSet :=
  (List.find? (fun row => row.1.contains name) table).map fun row => RangeSet.ofTable row.2

def NamedSets.union (table : NamedSets) (names : List String) : RangeSet :=
  RangeSet.ofRanges (names.flatMap fun n => ((NamedSets.find? table n).getD .empty).ranges)

def categories (names : List String) : RangeSet := NamedSets.union categoryTable names

def withProperty (name : String) : RangeSet := NamedSets.union propertyTable [name]

def decimalDigits : RangeSet := categories ["nd"]

def alphabetic : RangeSet := withProperty "alphabetic"

def whiteSpace : RangeSet := withProperty "whitespace"

def numeric : RangeSet := categories ["nd", "nl", "no"]

/-- The characters of words: letters, marks, digits, connecting punctuation and joiners. -/
def wordChars : RangeSet :=
  alphabetic.union ((categories ["mn", "mc", "me", "nd", "pc"]).union (withProperty "joincontrol"))

def printable : RangeSet :=
  (categories ["ll", "lm", "lo", "lt", "lu", "mc", "me", "mn", "nd", "nl", "no", "pc", "pd", "pe", "pf", "pi", "po",
    "ps", "sc", "sk", "sm", "so"]).union (.single 0x20)

def graphemeExtend : RangeSet := withProperty "graphemeextend"

def cased : RangeSet := withProperty "cased"

def caseIgnorable : RangeSet := withProperty "caseignorable"

/-- The characters that no category but the unassigned one holds. -/
def unassigned : RangeSet :=
  (RangeSet.ofRanges (categoryTable.flatMap fun row => (RangeSet.ofTable row.2).ranges)).complement

def CaseRun.image? (run : CaseRun) (n : Nat) : Option Nat :=
  if run.1 ≤ n ∧ n ≤ run.2.1 ∧ (n - run.1) % run.2.2.1 = 0 then some (Int.ofNat n + run.2.2.2).toNat else none

/-- The lower-case form of a character other than a sigma at the end of a word. -/
def lowerChar (c : Char) : List Char :=
  if c.toNat < 128 then [c.toLower]
  else if c.toNat = 0x130 then ['i', Char.ofNat 0x307]
  else match lowerCaseRuns.findSome? (CaseRun.image? · c.toNat) with
    | some n => [Char.ofNat n]
    | none => [c]

def startsCased (cs : List Char) : Bool :=
  match cs.dropWhile caseIgnorable.hasChar with
  | c :: _ => cased.hasChar c
  | [] => false

/-- The lower-case form of a text, the characters before it being given in reverse. -/
def lowerChars (before : List Char) : List Char → List Char
  | [] => []
  | c :: cs =>
    (if c = 'Σ' then [if startsCased before && !startsCased cs then 'ς' else 'σ'] else lowerChar c)
      ++ lowerChars (c :: before) cs

def lowercase (s : String) : String := String.ofList (lowerChars [] s.toList)

/-- Only the letters A to Z are changed. -/
def lowercaseAscii (s : String) : String := String.ofList (s.toList.map Char.toLower)

/-- A character of a quoted text: the quote, the backslash and the usual controls by their letters, characters that
    show nothing or join the one before them by their number. -/
def showChar (c : Char) : List Char :=
  if c = '"' then ['\\', '"']
  else if c = '\\' then ['\\', '\\']
  else if c = '\n' then ['\\', 'n']
  else if c = '\r' then ['\\', 'r']
  else if c = '\t' then ['\\', 't']
  else if c.toNat = 0 then ['\\', '0']
  else if 32 ≤ c.toNat ∧ c.toNat < 127 then [c]
  else if printable.hasChar c && !graphemeExtend.hasChar c then [c]
  else '\\' :: 'u' :: '\x7b' :: Nat.toDigits 16 c.toNat ++ ['\x7d']

def shown (s : String) : String := String.ofList ('"' :: s.toList.flatMap showChar ++ ['"'])

end SchemaMutation.Text
