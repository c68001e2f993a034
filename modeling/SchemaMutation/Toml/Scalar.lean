import SchemaMutation.Text.Characters
import SchemaMutation.Toml.Value

/-!
# The smallest parts of a TOML text

Blanks, line ends and comments, strings, numbers, dates and times, each read from the front of a text, with the rest
returned. `none` says that the text is not well formed there; no reason is given.
-/

namespace SchemaMutation.Toml

open Text (Parsed takeSign hexValue? isHexDigit numeral)

def isBlank (c : Char) : Bool := c == ' ' || c == '\t'

/-- Whether a character may stand in strings and comments: of the control characters only the tab may. -/
def isPlain (c : Char) : Bool := c == '\t' || (decide (32 ≤ c.toNat) && c.toNat != 127)

def lineEnd? : List Char → Option (List Char)
  | '\n' :: cs => some cs
  | '\r' :: '\n' :: cs => some cs
  | _ => none

/-- Reads what may follow on a line: blanks and a comment, up to the end of the line or of the text. -/
def endLine? (cs : List Char) : Option (List Char) :=
  let rest := match cs.dropWhile isBlank with
    | '#' :: comment => comment.dropWhile isPlain
    | other => other
  if rest.isEmpty then some [] else lineEnd? rest

def dropTrivia (inComment : Bool) : List Char → Option (List Char)
  | [] => if inComment then none else some []
  | '\n' :: cs => dropTrivia false cs
  | '\r' :: '\n' :: cs => dropTrivia false cs
  | c :: cs =>
    if inComment then if isPlain c then dropTrivia true cs else none
    else if isBlank c then dropTrivia false cs
    else if c = '#' then dropTrivia true cs
    else some (c :: cs)

def simpleEscape? : Char → Option Char
  | '"' => some '"'
  | '\\' => some '\\'
  | 'b' => some (Char.ofNat 8)
  | 'f' => some (Char.ofNat 12)
  | 'n' => some '\n'
  | 'r' => some '\r'
  | 't' => some '\t'
  | _ => none

def numberedChar? (digits : List Char) : Option Char := do
  let n ← digits.foldlM (fun n d => do some (n * 16 + (← hexValue? d))) 0
  if n < 0xD800 ∨ (0xDFFF < n ∧ n ≤ 0x10FFFF) then some (Char.ofNat n) else none

def prepend (c : Char) : Option (Parsed (List Char)) → Option (Parsed (List Char)) :=
  Option.map fun (cs, rest) => (c :: cs, rest)

def escapedString : List Char → Option (Parsed (List Char))
  | [] => none
  | '"' :: rest => some ([], rest)
  | '\\' :: 'u' :: a :: b :: c :: d :: rest =>
    match numberedChar? [a, b, c, d] with
    | some x => prepend x (escapedString rest)
    | none => none
  | '\\' :: 'U' :: a :: b :: c :: d :: e :: f :: g :: h :: rest =>
    match numberedChar? [a, b, c, d, e, f, g, h] with
    | some x => prepend x (escapedString rest)
    | none => none
  | '\\' :: e :: rest =>
    match simpleEscape? e with
    | some x => prepend x (escapedString rest)
    | none => none
  | c :: rest => if isPlain c then prepend c (escapedString rest) else none

def literalString : List Char → Option (Parsed (List Char))
  | [] => none
  | '\'' :: rest => some ([], rest)
  | c :: rest => if isPlain c then prepend c (literalString rest) else none

def endsLine (cs : List Char) : Bool := (lineEnd? (cs.dropWhile isBlank)).isSome

/-- Reads a string of many lines with escapes from behind its opening quotes. Up to two quotes may stand before the
    closing three. A backslash at the end of a line takes away the blanks and line ends behind it, which is what
    `skipping` says. -/
def escapedLines (skipping : Bool) : List Char → Option (Parsed (List Char))
  | [] => none
  | '"' :: '"' :: '"' :: '"' :: '"' :: rest => some (['"', '"'], rest)
  | '"' :: '"' :: '"' :: '"' :: rest => some (['"'], rest)
  | '"' :: '"' :: '"' :: rest => some ([], rest)
  | '\r' :: '\n' :: rest => if skipping then escapedLines true rest else prepend '\n' (escapedLines false rest)
  | '\n' :: rest => if skipping then escapedLines true rest else prepend '\n' (escapedLines false rest)
  | '\\' :: 'u' :: a :: b :: c :: d :: rest =>
    match numberedChar? [a, b, c, d] with
    | some x => prepend x (escapedLines false rest)
    | none => none
  | '\\' :: 'U' :: a :: b :: c :: d :: e :: f :: g :: h :: rest =>
    match numberedChar? [a, b, c, d, e, f, g, h] with
    | some x => prepend x (escapedLines false rest)
    | none => none
  | '\\' :: e :: rest =>
    if endsLine (e :: rest) then escapedLines true (e :: rest)
    else match simpleEscape? e with
      | some x => prepend x (escapedLines false rest)
      | none => none
  | c :: rest =>
    if skipping && isBlank c then escapedLines true rest
    else if isPlain c then prepend c (escapedLines false rest)
    else none

def literalLines : List Char → Option (Parsed (List Char))
  | [] => none
  | '\'' :: '\'' :: '\'' :: '\'' :: '\'' :: rest => some (['\'', '\''], rest)
  | '\'' :: '\'' :: '\'' :: '\'' :: rest => some (['\''], rest)
  | '\'' :: '\'' :: '\'' :: rest => some ([], rest)
  | '\r' :: '\n' :: rest => prepend '\n' (literalLines rest)
  | '\n' :: rest => prepend '\n' (literalLines rest)
  | c :: rest => if isPlain c then prepend c (literalLines rest) else none

/-- A line end right behind the opening quotes does not count. -/
def dropLineEnd (cs : List Char) : List Char := (lineEnd? cs).getD cs

def readString? : List Char → Option (Parsed (List Char))
  | '"' :: '"' :: '"' :: rest => escapedLines false (dropLineEnd rest)
  | '"' :: rest => escapedString rest
  | '\'' :: '\'' :: '\'' :: rest => literalLines (dropLineEnd rest)
  | '\'' :: rest => literalString rest
  | _ => none

/-- Reads further digits. An underscore may stand between two digits. -/
def moreDigits (isDigit : Char → Bool) : List Char → Option (Parsed (List Char))
  | [] => some ([], [])
  | '_' :: c :: cs => if isDigit c then prepend c (moreDigits isDigit cs) else none
  | c :: cs => if isDigit c then prepend c (moreDigits isDigit cs) else if c = '_' then none else some ([], c :: cs)

def readDigits (isDigit : Char → Bool) : List Char → Option (Parsed (List Char))
  | c :: cs => if isDigit c then prepend c (moreDigits isDigit cs) else none
  | [] => none

def integer? (i : Int) (rest : List Char) : Option (Parsed Number) :=
  if -0x8000000000000000 ≤ i ∧ i < 0x8000000000000000 then some (.int i, rest) else none

def readExponent? (cs : List Char) : Option (Parsed Int) :=
  match cs with
  | c :: rest =>
    if c = 'e' ∨ c = 'E' then do
      let (negative, rest) := takeSign rest
      let (digits, rest) ← readDigits Char.isDigit rest
      let n : Int := numeral 10 digits
      some (if negative then -n else n, rest)
    else some (0, cs)
  | [] => some (0, [])

/-- The double nearest to the digits. One that is too large must be negative. -/
def double? (negative : Bool) (digits : List Char) (exponent : Int) (rest : List Char) : Option (Parsed Number) :=
  match Decimal.Binary64.nearestDecimal negative (numeral 10 digits) exponent with
  | some x => some (.double x, rest)
  | none => if negative then some (.infinite true, rest) else none

/-- Reads the whole part of a decimal number, which has no zeros in front. -/
def readWhole? : List Char → Option (Parsed (List Char))
  | '0' :: cs => some (['0'], cs)
  | cs => readDigits Char.isDigit cs

def readDecimal? (negative : Bool) (cs : List Char) : Option (Parsed Number) := do
  let (whole, rest) ← readWhole? cs
  match rest with
  | '.' :: more => do
    let (fraction, more) ← readDigits Char.isDigit more
    let (exponent, more) ← readExponent? more
    double? negative (whole ++ fraction) (exponent - fraction.length) more
  | c :: _ =>
    if c = 'e' ∨ c = 'E' then do
      let (exponent, more) ← readExponent? rest
      double? negative whole exponent more
    else signed whole rest
  | [] => signed whole rest
where
  signed (whole rest : List Char) : Option (Parsed Number) :=
    let n : Int := numeral 10 whole
    integer? (if negative then -n else n) rest

def isOctalDigit (c : Char) : Bool := decide ('0' ≤ c ∧ c ≤ '7')
def isBinaryDigit (c : Char) : Bool := c == '0' || c == '1'

def readBased? (base : Nat) (isDigit : Char → Bool) (cs : List Char) : Option (Parsed Number) := do
  let (digits, rest) ← readDigits isDigit cs
  integer? (numeral base digits) rest

/-- Reads a number. A sign stands before decimal numbers, infinity and what is not a number only. -/
def readNumber? : List Char → Option (Parsed Number)
  | '0' :: 'x' :: cs => readBased? 16 isHexDigit cs
  | '0' :: 'o' :: cs => readBased? 8 isOctalDigit cs
  | '0' :: 'b' :: cs => readBased? 2 isBinaryDigit cs
  | cs =>
    let (negative, cs) := takeSign cs
    match cs with
    | 'i' :: 'n' :: 'f' :: rest => some (.infinite negative, rest)
    | 'n' :: 'a' :: 'n' :: rest => some (.notANumber, rest)
    | cs => readDecimal? negative cs

/-- Reads a number of exactly `count` digits between two bounds. -/
def readField? (count least greatest : Nat) (cs : List Char) : Option (Parsed Nat) :=
  let digits := cs.take count
  let n := numeral 10 digits
  if digits.length = count ∧ digits.all Char.isDigit ∧ least ≤ n ∧ n ≤ greatest then some (n, cs.drop count) else none

def expect? (c : Char) : List Char → Option (List Char)
  | d :: cs => if c = d then some cs else none
  | [] => none

def daysOf (year month : Nat) : Nat :=
  if month = 2 then if year % 4 = 0 ∧ (year % 100 ≠ 0 ∨ year % 400 = 0) then 29 else 28
  else if month = 4 ∨ month = 6 ∨ month = 9 ∨ month = 11 then 30
  else 31

def dropDate? (cs : List Char) : Option (List Char) := do
  let (year, cs) ← readField? 4 0 9999 cs
  let (month, cs) ← readField? 2 1 12 (← expect? '-' cs)
  let (_, cs) ← readField? 2 1 (daysOf year month) (← expect? '-' cs)
  some cs

/-- Passes over a time. The sixtieth second is a leap second. -/
def dropTime? (cs : List Char) : Option (List Char) := do
  let (_, cs) ← readField? 2 0 23 cs
  let (_, cs) ← readField? 2 0 59 (← expect? ':' cs)
  let (_, cs) ← readField? 2 0 60 (← expect? ':' cs)
  match cs with
  | '.' :: c :: rest => some (if c.isDigit then rest.dropWhile Char.isDigit else cs)
  | _ => some cs

def dropOffset? : List Char → Option (List Char)
  | 'Z' :: cs => some cs
  | 'z' :: cs => some cs
  | c :: cs =>
    if c = '+' ∨ c = '-' then do
      let (_, cs) ← readField? 2 0 23 cs
      let (_, cs) ← readField? 2 0 59 (← expect? ':' cs)
      some cs
    else none
  | [] => none

/-- Passes over a time and its distance to universal time, behind the letter or the blank that follows a date. -/
def dropTimeOfDay? : List Char → Option (List Char)
  | c :: cs =>
    if c = 'T' ∨ c = 't' ∨ c = ' ' then do
      let cs ← dropTime? cs
      some ((dropOffset? cs).getD cs)
    else none
  | [] => none

/-- Passes over a date, a date with a time, or a time. -/
def dropMoment? (cs : List Char) : Option (List Char) :=
  match dropDate? cs with
  | some rest => some ((dropTimeOfDay? rest).getD rest)
  | none => dropTime? cs

end SchemaMutation.Toml
