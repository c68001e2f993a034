import SchemaMutation.Pattern.Scanner

/-!
# Reading patterns

A pattern is read one part after the other. The groups that are open stand on a stack, each with what was read before
it, so that what a part does depends only on the level it stands in; the brackets of a class work the same way.
`parse` gives the pattern, or `none` if the text is malformed or nested too deep.
-/

namespace SchemaMutation.Pattern

open Text (Parsed)

/-- What has been read of a class: the left-hand side of an operator that waits for its right-hand side, and the
    items since, last one first. -/
structure ClassLevel where
  pending : Option (ClassOp × ClassSet)
  items : List ClassSet

def ClassLevel.start : ClassLevel := ⟨none, []⟩

def ClassLevel.push (l : ClassLevel) (s : ClassSet) : ClassLevel := { l with items := s :: l.items }

def ClassLevel.set (l : ClassLevel) : ClassSet :=
  let items := ClassSet.ofItems l.items.reverse
  match l.pending with
  | none => items
  | some (op, lhs) => .op op lhs items

/-- What stands before an operator becomes its left-hand side. -/
def ClassLevel.operate (l : ClassLevel) (op : ClassOp) : ClassLevel := ⟨some (op, l.set), []⟩

structure ClassFrame where
  negated : Bool
  outer : ClassLevel

/-- Hyphens at the front of a class stand for themselves. Each takes one unit of `fuel`. -/
def scanHyphens (ignore : Bool) : Nat → ClassLevel → List Char → Option (Parsed ClassLevel)
  | 0, _, _ => none
  | _, _, [] => none
  | fuel + 1, level, c :: cs =>
    if c = '-' then scanHyphens ignore fuel (level.push (.literal ⟨'-', false⟩)) (blanks ignore cs)
    else some (level, c :: cs)

/-- Whether a class is the opposite of what it lists, from behind its bracket. -/
def scanSign (ignore : Bool) (cs : List Char) : Parsed Bool :=
  match blanks ignore cs with
  | '^' :: rest => (true, blanks ignore rest)
  | rest => (false, rest)

/-- Opens a class behind its bracket. A closing bracket as the first item stands for itself. -/
def openClass (ignore : Bool) (cs : List Char) : Option (Parsed (Bool × ClassLevel)) :=
  let (negated, cs) := scanSign ignore cs
  (scanHyphens ignore (cs.length + 1) .start cs).bind fun (level, rest) =>
    match rest with
    | [] => none
    | c :: more =>
      if level.items.isEmpty ∧ c = ']' then
        match blanks ignore more with
        | [] => none
        | more => some ((negated, level.push (.literal ⟨']', false⟩)), more)
      else some ((negated, level), c :: more)

def asciiClassOf? (name : String) : Option AsciiClass :=
  let named : List (String × AsciiClass) :=
    [("alnum", .alnum), ("alpha", .alpha), ("ascii", .ascii), ("blank", .blank), ("cntrl", .cntrl), ("digit", .digit),
      ("graph", .graph), ("lower", .lower), ("print", .print), ("punct", .punct), ("space", .space), ("upper", .upper),
      ("word", .word), ("xdigit", .xdigit)]
  named.lookup name

def scanAsciiName (negated : Bool) (cs : List Char) : Option (Parsed ClassSet) :=
  let name := cs.takeWhile (· != ':')
  match cs.drop name.length with
  | ':' :: ']' :: more => (asciiClassOf? (String.ofList name)).map fun cls => (.ascii cls negated, more)
  | _ => none

/-- A named class such as `[:alpha:]`, behind its opening bracket. -/
def scanAsciiClass (cs : List Char) : Option (Parsed ClassSet) :=
  match cs with
  | ':' :: rest =>
    match rest with
    | '^' :: more => scanAsciiName true more
    | _ => scanAsciiName false rest
  | _ => none

def scanClassPrimitive (ignore : Bool) (cs : List Char) : Option (Parsed Primitive) :=
  match cs with
  | [] => none
  | '\\' :: rest => scanEscape ignore rest
  | c :: rest => some (.literal ⟨c, false⟩, rest)

def scanRangeEnd (ignore : Bool) (first : Primitive) (cs : List Char) : Option (Parsed ClassSet) := do
  let (last, rest) ← scanClassPrimitive ignore (blanks ignore cs)
  let a ← first.toLiteral?
  let b ← last.toLiteral?
  if a.char ≤ b.char then some (.range a b, rest) else none

/-- The item that a primitive begins, from behind the primitive. A hyphen before a bracket or a hyphen makes no
    range. -/
def scanItemRest (ignore : Bool) (first : Primitive) (cs : List Char) : Option (Parsed ClassSet) :=
  match blanks ignore cs with
  | [] => none
  | c :: more =>
    let next := peekPast ignore (c :: more)
    if c ≠ '-' ∨ next = some ']' ∨ next = some '-' then first.toClassSet?.map (·, c :: more)
    else scanRangeEnd ignore first more

def scanClassItem (ignore : Bool) (cs : List Char) : Option (Parsed ClassSet) :=
  (scanClassPrimitive ignore cs).bind fun (first, rest) => scanItemRest ignore first rest

def classOpOf? : Char → Option ClassOp
  | '&' => some .intersection
  | '-' => some .difference
  | '~' => some .symmetricDifference
  | _ => none

/-- An operator between classes is a sign that is written twice. -/
def scanClassOp (cs : List Char) : Option (Parsed ClassOp) :=
  match cs with
  | c :: d :: rest => if c = d then (classOpOf? c).map (·, rest) else none
  | _ => none

/-- Reads a class from behind its first item on. Each item takes one unit of `fuel`. -/
def scanClassItems (ignore : Bool) : Nat → List ClassFrame → Bool → ClassLevel → List Char →
    Option (Parsed (Bool × ClassSet))
  | 0, _, _, _, _ => none
  | fuel + 1, stack, negated, level, cs =>
    match blanks ignore cs with
    | [] => none
    | '[' :: rest =>
      match scanAsciiClass rest with
      | some (set, more) => scanClassItems ignore fuel stack negated (level.push set) more
      | none =>
        (openClass ignore rest).bind fun ((inner, start), more) =>
          scanClassItems ignore fuel (⟨negated, level⟩ :: stack) inner start more
    | ']' :: rest =>
      match stack with
      | [] => some ((negated, level.set), rest)
      | frame :: stack =>
        scanClassItems ignore fuel stack frame.negated (frame.outer.push (.bracketed negated level.set)) rest
    | cs =>
      match scanClassOp cs with
      | some (op, rest) => scanClassItems ignore fuel stack negated (level.operate op) rest
      | none =>
        (scanClassItem ignore cs).bind fun (set, rest) =>
          scanClassItems ignore fuel stack negated (level.push set) rest

def scanClass (ignore : Bool) (cs : List Char) : Option (Parsed Ast) :=
  (openClass ignore cs).bind fun ((negated, level), rest) =>
    (scanClassItems ignore (rest.length + 1) [] negated level rest).map fun ((negated, set), rest) =>
      (.bracketed negated set, rest)

/-- What has been read of a group: the branches that are complete and the items of the open branch, both with the
    last one first. -/
structure Level where
  branches : List Ast
  items : List Ast

def Level.start : Level := ⟨[], []⟩

def Level.push (l : Level) (a : Ast) : Level := { l with items := a :: l.items }

def Level.branch (l : Level) : Ast := .ofItems l.items.reverse

def Level.ast (l : Level) : Ast := .ofBranches (l.branch :: l.branches).reverse

/-- A group that is open: its flags, what stands before it, and whether blanks are ignored around it. -/
structure Frame where
  changes : FlagChanges
  outer : Level
  ignore : Bool

structure State where
  level : Level
  stack : List Frame
  ignore : Bool
  names : List String

def State.start : State := ⟨.start, [], false, []⟩

def State.push (s : State) (a : Ast) : State := { s with level := s.level.push a }

/-- Whether changes of flags have blanks ignored, if they say so. -/
def ignoresBlanks? (changes : FlagChanges) : Option Bool := changes.lookup .ignoreBlanks

/-- Repeats the last item. Flags and nothing at all cannot be repeated. -/
def State.repeatLast (s : State) (bounds : Bounds) : Option State :=
  match s.level.items with
  | [] => none
  | .flags _ :: _ => none
  | .empty :: _ => none
  | a :: rest => some { s with level := { s.level with items := .repetition bounds.1 bounds.2 a :: rest } }

def State.branch (s : State) : State := { s with level := ⟨s.level.branch :: s.level.branches, []⟩ }

/-- Opens a group, or changes the flags of the open one. -/
def State.opened (s : State) (opening : Opening) : Option State :=
  match opening with
  | .flags changes => some { s.push (.flags changes) with ignore := (ignoresBlanks? changes).getD s.ignore }
  | .group changes name =>
    if name.any s.names.contains then none
    else some ⟨.start, ⟨changes, s.level, s.ignore⟩ :: s.stack, (ignoresBlanks? changes).getD s.ignore,
      name.toList ++ s.names⟩

def State.close (s : State) : Option State :=
  match s.stack with
  | [] => none
  | frame :: stack => some { s with
      level := frame.outer.push (.group frame.changes s.level.ast), stack, ignore := frame.ignore }

def State.step (s : State) (c : Char) (cs : List Char) : Option (State × List Char) :=
  match c with
  | '(' => (scanOpening s.ignore cs).bind fun (opening, rest) => (s.opened opening).map (·, rest)
  | ')' => s.close.map (·, cs)
  | '|' => some (s.branch, cs)
  | '[' => (scanClass s.ignore cs).map fun (a, rest) => (s.push a, rest)
  | '?' => (s.repeatLast (0, some 1)).map (·, dropLazy cs)
  | '*' => (s.repeatLast (0, none)).map (·, dropLazy cs)
  | '+' => (s.repeatLast (1, none)).map (·, dropLazy cs)
  | '\x7b' => (scanBounds s.ignore cs).bind fun (bounds, rest) =>
    (s.repeatLast bounds).map (·, dropLazy (blanks s.ignore rest))
  | '\\' => (scanEscape s.ignore cs).map fun (p, rest) => (s.push p.toAst, rest)
  | '.' => some (s.push .dot, cs)
  | '^' => some (s.push (.assertion .lineStart), cs)
  | '$' => some (s.push (.assertion .lineEnd), cs)
  | c => some (s.push (.literal ⟨c, false⟩), cs)

/-- Reads the parts of a pattern up to its end. Each takes one unit of `fuel`. -/
def State.run : Nat → State → List Char → Option State
  | 0, _, _ => none
  | fuel + 1, s, cs =>
    match blanks s.ignore cs with
    | [] => some s
    | c :: rest => (s.step c rest).bind fun (next, rest) => next.run fuel rest

/-- Reads a pattern, however deep it is nested. -/
def read? (cs : List Char) : Option Ast :=
  (State.start.run (cs.length + 1) cs).bind fun s => if s.stack.isEmpty then some s.level.ast else none

def parse (cs : List Char) : Option Ast := (read? cs).filter fun a => a.depth ≤ depthLimit

end SchemaMutation.Pattern
