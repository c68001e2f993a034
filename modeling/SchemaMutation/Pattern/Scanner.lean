import SchemaMutation.Pattern.Syntax
import SchemaMutation.Text.Characters

/-!
# The smallest parts of a pattern

Escapes, counts, names and flags, each taken from the front of a pattern with the rest returned. `none` means that
the pattern is malformed. Where blanks are ignored, `blanks` passes over them and over comments.
-/

namespace SchemaMutation.Pattern

open Text (Parsed hexValue? isHexDigit numeral)

def isBlank (c : Char) : Bool := Text.whiteSpace.hasChar c

def dropComment (cs : List Char) : List Char := (cs.dropWhile (· != '\n')).drop 1

/-- Passes over blanks and comments; `fuel` bounds the number of comments. -/
def dropIgnored : Nat → List Char → List Char
  | 0, cs => cs
  | fuel + 1, cs =>
    match cs.dropWhile isBlank with
    | '#' :: rest => dropIgnored fuel (dropComment rest)
    | rest => rest

def blanks (ignore : Bool) (cs : List Char) : List Char := if ignore then dropIgnored (cs.length + 1) cs else cs

/-- The character behind the first one, looking past blanks and the sign of a comment. -/
def peekPast (ignore : Bool) (cs : List Char) : Option Char :=
  let rest := cs.drop 1
  if !ignore then rest.head?
  else
    let seen := rest.dropWhile isBlank
    let seen := match seen with
      | '#' :: more => more.dropWhile isBlank
      | _ => seen
    (seen.head?).or rest.head?

/-- Takes the characters with a property, passing over ignored ones behind each. -/
def takeCounted (ignore : Bool) (p : Char → Bool) : Nat → List Char → List Char × List Char
  | 0, cs => ([], cs)
  | _, [] => ([], [])
  | fuel + 1, c :: cs =>
    if p c then
      let (more, rest) := takeCounted ignore p fuel (blanks ignore cs)
      (c :: more, rest)
    else ([], c :: cs)

def takeChars (ignore : Bool) (p : Char → Bool) (cs : List Char) : List Char × List Char :=
  takeCounted ignore p cs.length cs

def scanCount (ignore : Bool) (cs : List Char) : Option (Parsed Nat) :=
  let (digits, rest) := takeChars ignore Char.isDigit (cs.dropWhile isBlank)
  let n := numeral 10 digits
  if digits.isEmpty || decide (0x100000000 ≤ n) then none
  else some (n, if ignore then blanks true rest else rest.dropWhile isBlank)

abbrev Bounds := Nat × Option Nat

/-- The greatest number of repetitions, from behind the least one. Without a comma both are the same. -/
def scanGreatest (ignore : Bool) (least : Nat) (cs : List Char) : Option (Parsed (Option Nat)) :=
  match cs with
  | ',' :: more =>
    match blanks ignore more with
    | '\x7d' :: more => some (none, '\x7d' :: more)
    | more => (scanCount ignore more).map fun (n, rest) => (some n, rest)
  | _ => some (some least, cs)

def scanBounds (ignore : Bool) (cs : List Char) : Option (Parsed Bounds) := do
  let (least, rest) ← scanCount ignore (blanks ignore cs)
  let (greatest, rest) ← scanGreatest ignore least rest
  match rest with
  | '\x7d' :: more => if greatest.all (least ≤ ·) then some ((least, greatest), more) else none
  | _ => none

def dropLazy (cs : List Char) : List Char :=
  match cs with
  | '?' :: rest => rest
  | _ => cs

inductive Primitive where
  | literal (l : Literal)
  | assertion (a : Assertion)
  | shorthand (cls : Shorthand) (negated : Bool)
  | property (query : PropertyQuery) (negated : Bool)
deriving Repr

def Primitive.toAst : Primitive → Ast
  | .literal l => .literal l
  | .assertion a => .assertion a
  | .shorthand c n => .shorthand c n
  | .property q n => .property q n

/-- The part inside brackets; a condition cannot stand there. -/
def Primitive.toClassSet? : Primitive → Option ClassSet
  | .literal l => some (.literal l)
  | .assertion _ => none
  | .shorthand c n => some (.shorthand c n)
  | .property q n => some (.property q n)

def Primitive.toLiteral? : Primitive → Option Literal
  | .literal l => some l
  | _ => none

def charOf? (n : Nat) : Option Char := if n.isValidChar then some (Char.ofNat n) else none

def scanHexDigits (ignore : Bool) (count : Nat) (acc : Nat) (cs : List Char) : Option (Parsed Nat) :=
  match count with
  | 0 => some (acc, cs)
  | n + 1 =>
    match cs with
    | c :: rest => (hexValue? c).bind fun d => scanHexDigits ignore n (acc * 16 + d) (blanks ignore rest)
    | [] => none

/-- A character by its number, behind the letter `x`, `u` or `U`. -/
def scanHex (ignore : Bool) (letter : Char) (cs : List Char) : Option (Parsed Literal) :=
  match blanks ignore cs with
  | '\x7b' :: rest =>
    let (digits, rest) := takeChars ignore isHexDigit (blanks ignore rest)
    match rest with
    | '\x7d' :: more =>
      if digits.isEmpty then none
      else (charOf? (numeral 16 digits)).map fun c => (⟨c, false⟩, blanks ignore more)
    | _ => none
  | rest => do
    let count := if letter = 'x' then 2 else if letter = 'u' then 4 else 8
    let (n, rest) ← scanHexDigits ignore count 0 rest
    let c ← charOf? n
    some (⟨c, letter == 'x'⟩, rest)

def splitFirst (sep : List Char) : List Char → Option (List Char × List Char)
  | [] => none
  | c :: cs =>
    if sep.isPrefixOf (c :: cs) then some ([], (c :: cs).drop sep.length)
    else (splitFirst sep cs).map fun (before, rest) => (c :: before, rest)

/-- The property that the text in braces asks for, and whether it asks for its opposite. -/
def propertyOf (cs : List Char) : PropertyQuery × Bool :=
  let pair (p : List Char × List Char) : PropertyQuery := .value (String.ofList p.1) (String.ofList p.2)
  match splitFirst ['!', '='] cs, splitFirst [':'] cs, splitFirst ['='] cs with
  | some p, _, _ => (pair p, true)
  | none, some p, _ => (pair p, false)
  | none, none, some p => (pair p, false)
  | none, none, none => (.name (String.ofList cs), false)

def scanProperty (ignore : Bool) (negated : Bool) (cs : List Char) : Option (Parsed Primitive) :=
  match blanks ignore cs with
  | [] => none
  | '\x7b' :: rest =>
    let (name, rest) := takeChars ignore (· != '\x7d') (blanks ignore rest)
    match rest with
    | '\x7d' :: more =>
      let (query, opposite) := propertyOf name
      some (.property query (negated != opposite), more)
    | _ => none
  | c :: rest =>
    if c = '\\' then none else some (.property (.name (String.ofList [c])) negated, blanks ignore rest)

/-- The condition that a name in braces behind `\b` stands for. -/
def wordAssertion? (name : String) : Option Assertion :=
  if name = "start" then some .wordStart
  else if name = "end" then some .wordEnd
  else if name = "start-half" then some .wordStartHalf
  else if name = "end-half" then some .wordEndHalf
  else none

/-- What `\b` stands for. Braces behind it that do not start with a letter or a hyphen are bounds. -/
def scanBoundary (ignore : Bool) (cs : List Char) : Option (Parsed Primitive) :=
  let inName (c : Char) : Bool := c.isAlpha || c == '-'
  match cs with
  | '\x7b' :: rest =>
    match blanks ignore rest with
    | [] => none
    | c :: more =>
      if inName c then
        let (name, rest) := takeChars ignore inName (c :: more)
        match rest with
        | '\x7d' :: rest => (wordAssertion? (String.ofList name)).map fun a => (.assertion a, rest)
        | _ => none
      else some (.assertion .wordBoundary, cs)
  | _ => some (.assertion .wordBoundary, cs)

/-- Whether a backslash may stand before a character that it does not change. -/
def isEscapable (c : Char) : Bool := decide (c.toNat < 128) && !c.isAlphanum && c != '<' && c != '>'

def scanEscape (ignore : Bool) (cs : List Char) : Option (Parsed Primitive) :=
  match cs with
  | [] => none
  | c :: rest =>
    let literal (n : Nat) : Option (Parsed Primitive) := some (.literal ⟨Char.ofNat n, false⟩, rest)
    let assertion (a : Assertion) : Option (Parsed Primitive) := some (.assertion a, rest)
    match c with
    | 'x' => (scanHex ignore 'x' rest).map fun (l, more) => (.literal l, more)
    | 'u' => (scanHex ignore 'u' rest).map fun (l, more) => (.literal l, more)
    | 'U' => (scanHex ignore 'U' rest).map fun (l, more) => (.literal l, more)
    | 'p' => scanProperty ignore false rest
    | 'P' => scanProperty ignore true rest
    | 'd' => some (.shorthand .digit false, rest)
    | 'D' => some (.shorthand .digit true, rest)
    | 's' => some (.shorthand .space false, rest)
    | 'S' => some (.shorthand .space true, rest)
    | 'w' => some (.shorthand .word false, rest)
    | 'W' => some (.shorthand .word true, rest)
    | 'a' => literal 7
    | 'f' => literal 12
    | 't' => literal 9
    | 'n' => literal 10
    | 'r' => literal 13
    | 'v' => literal 11
    | 'A' => assertion .textStart
    | 'z' => assertion .textEnd
    | 'b' => scanBoundary ignore rest
    | 'B' => assertion .notWordBoundary
    | '<' => assertion .wordStart
    | '>' => assertion .wordEnd
    | c => if isEscapable c then literal c.toNat else none

def flagOf? : Char → Option Flag
  | 'i' => some .caseInsensitive
  | 'm' => some .multiLine
  | 's' => some .dotAll
  | 'U' => some .swapGreed
  | 'u' => some .unicode
  | 'R' => some .crlf
  | 'x' => some .ignoreBlanks
  | _ => none

/-- Flags up to a colon or a closing parenthesis. No flag stands twice, and something follows the minus sign. -/
def scanFlags (changes : FlagChanges) (on dangling : Bool) : List Char → Option (Parsed FlagChanges)
  | [] => none
  | c :: cs =>
    if c = ':' ∨ c = ')' then if dangling then none else some (changes.reverse, c :: cs)
    else if c = '-' then if on then scanFlags changes false true cs else none
    else match flagOf? c with
      | none => none
      | some f => if changes.any (·.1 == f) then none else scanFlags ((f, on) :: changes) on false cs

def isNameChar (first : Bool) (c : Char) : Bool :=
  if first then c == '_' || Text.alphabetic.hasChar c
  else c == '_' || c == '.' || c == '[' || c == ']' || Text.alphabetic.hasChar c || Text.numeric.hasChar c

def scanName (cs : List Char) : Option (Parsed String) :=
  let name := cs.takeWhile (· != '>')
  match name, cs.drop name.length with
  | c :: more, _ :: rest =>
    if isNameChar true c && more.all (isNameChar false) then some (String.ofList name, rest) else none
  | _, _ => none

/-- What stands behind an opening parenthesis. -/
inductive Opening where
  /-- Flags for the rest of the group around. -/
  | flags (changes : FlagChanges)
  /-- A group with flags of its own, and its name if it has one. -/
  | group (changes : FlagChanges) (name : Option String)
deriving Repr

def scanNamed (cs : List Char) : Option (Parsed Opening) :=
  (scanName cs).map fun (name, more) => (.group [] (some name), more)

def scanAngle (cs : List Char) : Option (Parsed Opening) :=
  match cs with
  | '=' :: _ => none
  | '!' :: _ => none
  | _ => scanNamed cs

def scanFlagged (cs : List Char) : Option (Parsed Opening) :=
  match scanFlags [] true false cs with
  | some (changes, ':' :: more) => some (.group changes none, more)
  | some (c :: changes, ')' :: more) => some (.flags (c :: changes), more)
  | _ => none

/-- What stands behind the question mark of a group. Conditions on the text around are not supported. -/
def scanMarked (cs : List Char) : Option (Parsed Opening) :=
  match cs with
  | '=' :: _ => none
  | '!' :: _ => none
  | '<' :: rest => scanAngle rest
  | 'P' :: rest =>
    match rest with
    | '<' :: more => scanNamed more
    | _ => scanFlagged cs
  | _ => scanFlagged cs

def scanOpening (ignore : Bool) (cs : List Char) : Option (Parsed Opening) :=
  match blanks ignore cs with
  | '?' :: rest => scanMarked rest
  | rest => some (.group [] none, rest)

end SchemaMutation.Pattern
