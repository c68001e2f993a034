/-!
# Patterns as written

The parts of a regular expression in the order in which they are written, before flags are applied and classes are
resolved. How deep a pattern is nested is counted here, since a pattern that is nested too deep is refused.
-/

namespace SchemaMutation.Pattern

inductive Flag where
  | caseInsensitive
  | multiLine
  | dotAll
  | swapGreed
  | unicode
  | crlf
  | ignoreBlanks
deriving DecidableEq, Repr

abbrev FlagChanges := List (Flag × Bool)

/-- A single character. `byte` says that it was written as two hexadecimal digits. -/
structure Literal where
  char : Char
  byte : Bool
deriving DecidableEq, Repr

inductive Assertion where
  | lineStart
  | lineEnd
  | textStart
  | textEnd
  | wordBoundary
  | notWordBoundary
  | wordStart
  | wordEnd
  | wordStartHalf
  | wordEndHalf
deriving DecidableEq, Repr

/-- The classes that have a letter of their own. -/
inductive Shorthand where
  | digit
  | space
  | word
deriving DecidableEq, Repr

inductive AsciiClass where
  | alnum
  | alpha
  | ascii
  | blank
  | cntrl
  | digit
  | graph
  | lower
  | print
  | punct
  | space
  | upper
  | word
  | xdigit
deriving DecidableEq, Repr

/-- A property of characters, by its name or by name and value. -/
inductive PropertyQuery where
  | name (name : String)
  | value (name value : String)
deriving DecidableEq, Repr

inductive ClassOp where
  | intersection
  | difference
  | symmetricDifference
deriving DecidableEq, Repr

/-- What stands in brackets. -/
inductive ClassSet where
  | literal (l : Literal)
  | range (first last : Literal)
  | ascii (cls : AsciiClass) (negated : Bool)
  | shorthand (cls : Shorthand) (negated : Bool)
  | property (query : PropertyQuery) (negated : Bool)
  | bracketed (negated : Bool) (set : ClassSet)
  | union (items : List ClassSet)
  | op (kind : ClassOp) (lhs rhs : ClassSet)
deriving Repr

inductive Ast where
  | empty
  | flags (changes : FlagChanges)
  | literal (l : Literal)
  | dot
  | assertion (a : Assertion)
  | shorthand (cls : Shorthand) (negated : Bool)
  | property (query : PropertyQuery) (negated : Bool)
  | bracketed (negated : Bool) (set : ClassSet)
  | repetition (least : Nat) (greatest : Option Nat) (ast : Ast)
  | group (changes : FlagChanges) (ast : Ast)
  | alternation (branches : List Ast)
  | concat (items : List Ast)
deriving Repr, Inhabited

/-- Items as one class; a single one stands for itself. -/
def ClassSet.ofItems : List ClassSet → ClassSet
  | [s] => s
  | ss => .union ss

def Ast.ofItems : List Ast → Ast
  | [] => .empty
  | [a] => a
  | as => .concat as

def Ast.ofBranches : List Ast → Ast
  | [a] => a
  | as => .alternation as

mutual
def ClassSet.depth : ClassSet → Nat
  | .bracketed _ set => set.depth + 1
  | .union [] => 0
  | .union (s :: ss) => max s.depth (depthAll ss) + 1
  | .op _ lhs rhs => max lhs.depth rhs.depth + 1
  | _ => 0

def ClassSet.depthAll : List ClassSet → Nat
  | [] => 0
  | s :: ss => max s.depth (depthAll ss)
end

mutual
def Ast.depth : Ast → Nat
  | .bracketed _ set => set.depth + 1
  | .repetition _ _ a => a.depth + 1
  | .group _ a => a.depth + 1
  | .alternation as => depthAll as + 1
  | .concat as => depthAll as + 1
  | _ => 0

def Ast.depthAll : List Ast → Nat
  | [] => 0
  | a :: as => max a.depth (depthAll as)
end

def depthLimit : Nat := 250

end SchemaMutation.Pattern
