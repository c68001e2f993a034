import SchemaMutation.Pattern.Property
import SchemaMutation.Pattern.Regex
import SchemaMutation.Text.CaseTable
import SchemaMutation.Text.Characters

/-!
# From patterns to regular expressions

Flags are applied in the order of the text, and the classes become sets of characters. Characters that differ in case
only have one representative; a set is closed under case when it holds, with a character, all characters that have its
representative. Without the Unicode flag a class is a set of bytes and must hold ASCII characters only, since a part of
a character cannot be matched.
-/

namespace SchemaMutation.Pattern

open Text (RangeSet CaseRun)

def runPairs (run : CaseRun) : List (Nat × Nat) :=
  (List.range ((run.2.1 - run.1) / run.2.2.1 + 1)).map fun k =>
    let n := run.1 + k * run.2.2.1
    (n, (Int.ofNat n + run.2.2.2).toNat)

/-- All characters that are not their own representative, with it. -/
def foldingPairs : List (Nat × Nat) := Text.foldingRuns.flatMap runPairs

/-- The set with all characters that differ from a member in case only. -/
def closeUnderCase (s : RangeSet) : RangeSet :=
  let touched := foldingPairs.filterMap fun (n, f) => if s.contains n || s.contains f then some f else none
  let related := foldingPairs.filterMap fun (n, f) => if touched.contains f then some (n, n) else none
  RangeSet.ofRanges (s.ranges ++ touched.map (fun f => (f, f)) ++ related)

def closeUnderAsciiCase (s : RangeSet) : RangeSet :=
  let other := (List.range 26).flatMap fun k =>
    (if s.contains (65 + k) then [(97 + k, 97 + k)] else []) ++ (if s.contains (97 + k) then [(65 + k, 65 + k)] else [])
  RangeSet.ofRanges (s.ranges ++ other)

open Text (RangeSet)

/-- The flags in force at a place of a pattern. -/
structure Flags where
  caseInsensitive : Bool
  multiLine : Bool
  dotAll : Bool
  unicode : Bool
  crlf : Bool
deriving DecidableEq, Repr

def Flags.start : Flags := ⟨false, false, false, true, false⟩

def Flags.change (f : Flags) : Flag × Bool → Flags
  | (.caseInsensitive, on) => { f with caseInsensitive := on }
  | (.multiLine, on) => { f with multiLine := on }
  | (.dotAll, on) => { f with dotAll := on }
  | (.unicode, on) => { f with unicode := on }
  | (.crlf, on) => { f with crlf := on }
  | (.swapGreed, _) => f
  | (.ignoreBlanks, _) => f

def Flags.apply (f : Flags) (changes : FlagChanges) : Flags := changes.foldl Flags.change f

def AsciiClass.set : AsciiClass → RangeSet
  | .alnum => ⟨[(48, 57), (65, 90), (97, 122)]⟩
  | .alpha => ⟨[(65, 90), (97, 122)]⟩
  | .ascii => ⟨[(0, 127)]⟩
  | .blank => ⟨[(9, 9), (32, 32)]⟩
  | .cntrl => ⟨[(0, 31), (127, 127)]⟩
  | .digit => ⟨[(48, 57)]⟩
  | .graph => ⟨[(33, 126)]⟩
  | .lower => ⟨[(97, 122)]⟩
  | .print => ⟨[(32, 126)]⟩
  | .punct => ⟨[(33, 47), (58, 64), (91, 96), (123, 126)]⟩
  | .space => ⟨[(9, 13), (32, 32)]⟩
  | .upper => ⟨[(65, 90)]⟩
  | .word => ⟨[(48, 57), (65, 90), (95, 95), (97, 122)]⟩
  | .xdigit => ⟨[(48, 57), (65, 70), (97, 102)]⟩

def Shorthand.set (unicode : Bool) : Shorthand → RangeSet
  | .digit => if unicode then Text.decimalDigits else AsciiClass.digit.set
  | .space => if unicode then Text.whiteSpace else AsciiClass.space.set
  | .word => if unicode then Text.wordChars else AsciiClass.word.set

namespace Flags

def fold (f : Flags) (s : RangeSet) : RangeSet :=
  if !f.caseInsensitive then s else if f.unicode then closeUnderCase s else closeUnderAsciiCase s

/-- The set or its opposite. A set of bytes must not go beyond ASCII. -/
def negate? (f : Flags) (negated : Bool) (s : RangeSet) : Option RangeSet :=
  if f.unicode then some (if negated then s.complement else s)
  else
    let s := if negated then (RangeSet.range 0 255).diff s else s
    if s.within 127 then some s else none

def classLiteral? (f : Flags) (l : Literal) : Option Nat :=
  if f.unicode || decide (l.char.toNat < 128) then some l.char.toNat else none

def shorthandSet? (f : Flags) (cls : Shorthand) (negated : Bool) : Option RangeSet :=
  f.negate? negated (cls.set f.unicode)

def propertySet? (f : Flags) (query : PropertyQuery) (negated : Bool) : Option RangeSet :=
  if f.unicode then query.set?.bind fun s => f.negate? negated (f.fold s) else none

end Flags

def ClassOp.combine : ClassOp → RangeSet → RangeSet → RangeSet
  | .intersection, a, b => a.inter b
  | .difference, a, b => a.diff b
  | .symmetricDifference, a, b => a.symmDiff b

mutual
/-- The set that a class stands for, its outermost brackets apart. -/
def ClassSet.resolve? (f : Flags) : ClassSet → Option RangeSet
  | .literal l => (f.classLiteral? l).map .single
  | .range a b => do
    let first ← f.classLiteral? a
    let last ← f.classLiteral? b
    some (.range first last)
  | .ascii cls negated => f.negate? negated (f.fold cls.set)
  | .shorthand cls negated => f.shorthandSet? cls negated
  | .property query negated => f.propertySet? query negated
  | .bracketed negated set => do f.negate? negated (f.fold (← set.resolve? f))
  | .union items => resolveAll? f items
  | .op kind lhs rhs => do
    let a ← lhs.resolve? f
    let b ← rhs.resolve? f
    some (kind.combine (f.fold a) (f.fold b))

def ClassSet.resolveAll? (f : Flags) : List ClassSet → Option RangeSet
  | [] => some .empty
  | s :: ss => do
    let a ← s.resolve? f
    let b ← resolveAll? f ss
    some (a.union b)
end

def Flags.literal? (f : Flags) (l : Literal) : Option Regex :=
  if !f.unicode && l.byte && decide (127 < l.char.toNat) then none
  else some (.chars (f.fold (.single l.char.toNat)))

/-- Any character; without further flags any but a line end. -/
def Flags.dot? (f : Flags) : Option Regex :=
  if !f.unicode then none
  else if f.dotAll then some (.chars .chars)
  else if f.crlf then some (.chars (RangeSet.complement ⟨[(10, 10), (13, 13)]⟩))
  else some (.chars (RangeSet.complement (.single 10)))

def Flags.assertion (f : Flags) : Assertion → Look
  | .lineStart => if f.multiLine then .lineStart f.crlf else .textStart
  | .lineEnd => if f.multiLine then .lineEnd f.crlf else .textEnd
  | .textStart => .textStart
  | .textEnd => .textEnd
  | .wordBoundary => .word .boundary f.unicode
  | .notWordBoundary => .word .noBoundary f.unicode
  | .wordStart => .word .start f.unicode
  | .wordEnd => .word .finish f.unicode
  | .wordStartHalf => .word .startHalf f.unicode
  | .wordEndHalf => .word .finishHalf f.unicode

mutual
/-- The expression that a pattern stands for, and the flags in force behind it. -/
def Ast.resolve? (f : Flags) : Ast → Option (Regex × Flags)
  | .empty => some (.empty, f)
  | .flags changes => some (.empty, f.apply changes)
  | .literal l => (f.literal? l).map (·, f)
  | .dot => f.dot?.map (·, f)
  | .assertion a => some (.look (f.assertion a), f)
  | .shorthand cls negated => (f.shorthandSet? cls negated).map fun s => (.chars s, f)
  | .property query negated => (f.propertySet? query negated).map fun s => (.chars s, f)
  | .bracketed negated set => do
    let s ← f.negate? negated (f.fold (← set.resolve? f))
    some (.chars s, f)
  | .repetition least greatest a => do
    let (r, g) ← a.resolve? f
    some (.rep least greatest r, g)
  | .group changes a => do
    let (r, _) ← a.resolve? (f.apply changes)
    some (r, f)
  | .alternation as => resolveBranches? f as
  | .concat as => resolveItems? f as

def Ast.resolveItems? (f : Flags) : List Ast → Option (Regex × Flags)
  | [] => some (.empty, f)
  | [a] => a.resolve? f
  | a :: as => do
    let (r, g) ← a.resolve? f
    let (s, h) ← resolveItems? g as
    some (.seq r s, h)

def Ast.resolveBranches? (f : Flags) : List Ast → Option (Regex × Flags)
  | [] => some (.chars .empty, f)
  | [a] => a.resolve? f
  | a :: as => do
    let (r, g) ← a.resolve? f
    let (s, h) ← resolveBranches? g as
    some (.alt r s, h)
end

end SchemaMutation.Pattern
