import SchemaMutation.Json.ReadError

/-!
# The smallest parts of a JSON text

Blanks, words, strings and numbers, each read from the front of a text, with the rest returned. A number keeps at
most 64 bits of its digits: further digits count only for the exponent, and the double that it stands for comes from
those digits and that exponent (`Binary64.ofParts`). The value of a field that no record knows is only checked for its
syntax. Its nesting has no limit: the lists and objects that are open stand on a stack.
-/

namespace SchemaMutation.Json

open Text (Parsed takeSign hexValue? isHexDigit)

/-- The outcome of reading: a value or the first error. -/
abbrev Reading := Except ReadError

def fault {α : Type} (f : Fault) : Reading α := .error (.malformed f)

def isBlank (c : Char) : Bool := c == ' ' || c == '\n' || c == '\t' || c == '\r'

def skipBlanks (cs : List Char) : List Char := cs.dropWhile isBlank

def expectWord : List Char → List Char → Reading (List Char)
  | [], cs => .ok cs
  | _ :: _, [] => fault .endInValue
  | w :: ws, c :: cs => if c = w then expectWord ws cs else fault .expectedWord

/-- The value of four hexadecimal digits and the rest. The text ends too early when it has fewer than four bytes. -/
def hexFour (cs : List Char) : Reading (Parsed Nat) :=
  match cs with
  | a :: b :: c :: d :: rest =>
    match hexValue? a, hexValue? b, hexValue? c, hexValue? d with
    | some x, some y, some z, some w => .ok (((x * 16 + y) * 16 + z) * 16 + w, rest)
    | _, _, _, _ => fault .invalidEscape
  | few => if (String.ofList few).utf8ByteSize < 4 then fault .endInString else fault .invalidEscape

def simpleEscape? : Char → Option Char
  | '"' => some '"'
  | '\\' => some '\\'
  | '/' => some '/'
  | 'b' => some (Char.ofNat 8)
  | 'f' => some (Char.ofNat 12)
  | 'n' => some '\n'
  | 'r' => some '\r'
  | 't' => some '\t'
  | _ => none

/-- The second half of a character whose first half is a leading surrogate. -/
def trailingHalf (lead : Nat) : List Char → Reading (Parsed Char)
  | [] => fault .endInString
  | ['\\'] => fault .endInString
  | '\\' :: 'u' :: cs => do
    let (trail, rest) ← hexFour cs
    if 0xDC00 ≤ trail ∧ trail ≤ 0xDFFF then
      .ok (Char.ofNat ((lead - 0xD800) * 0x400 + (trail - 0xDC00) + 0x10000), rest)
    else fault .loneSurrogate
  | _ => fault .endOfHexEscape

def hexEscape (cs : List Char) : Reading (Parsed Char) := do
  let (n, rest) ← hexFour cs
  if 0xDC00 ≤ n ∧ n ≤ 0xDFFF then fault .loneSurrogate
  else if 0xD800 ≤ n ∧ n ≤ 0xDBFF then trailingHalf n rest
  else .ok (Char.ofNat n, rest)

/-- Reads one character of a string; the closing quote gives none. -/
def stringChar : List Char → Reading (Parsed (Option Char))
  | [] => fault .endInString
  | '"' :: rest => .ok (none, rest)
  | ['\\'] => fault .endInString
  | '\\' :: 'u' :: rest => do
    let (c, rest) ← hexEscape rest
    .ok (some c, rest)
  | '\\' :: e :: rest =>
    match simpleEscape? e with
    | some c => .ok (some c, rest)
    | none => fault .invalidEscape
  | c :: rest => if c.toNat < 32 then fault .controlCharacter else .ok (some c, rest)

/-- Reads a string from behind its opening quote. Each character takes one unit of `fuel`. -/
def stringChars : Nat → List Char → Reading (Parsed (List Char))
  | 0, _ => fault .endInString
  | fuel + 1, cs => do
    match ← stringChar cs with
    | (none, rest) => .ok ([], rest)
    | (some c, rest) => do
      let (more, rest) ← stringChars fuel rest
      .ok (c :: more, rest)

def stringBody (cs : List Char) : Reading (Parsed String) := do
  let (chars, rest) ← stringChars (cs.length + 1) cs
  .ok (String.ofList chars, rest)

/-- Passes over a string from behind its opening quote. Halves of characters are not matched up. -/
def skipString : List Char → Reading (List Char)
  | [] => fault .endInString
  | '"' :: rest => .ok rest
  | ['\\'] => fault .endInString
  | '\\' :: 'u' :: a :: b :: c :: d :: rest =>
    if [a, b, c, d].all isHexDigit then skipString rest else fault .invalidEscape
  | '\\' :: 'u' :: few =>
    if (String.ofList few).utf8ByteSize < 4 then fault .endInString else fault .invalidEscape
  | '\\' :: e :: rest => if (simpleEscape? e).isSome then skipString rest else fault .invalidEscape
  | c :: rest => if c.toNat < 32 then fault .controlCharacter else skipString rest

def greatestUnsigned : Nat := 0xFFFFFFFFFFFFFFFF

/-- The greatest exponent that is read as written. -/
def greatestExponent : Nat := 0x7FFFFFFF

def digitValue (c : Char) : Nat := c.toNat - 48

def startsWithDigit : List Char → Bool
  | c :: _ => c.isDigit
  | [] => false

def dropDigits (cs : List Char) : List Char := cs.dropWhile Char.isDigit

/-- Reads digits behind a significand as long as it keeps within 64 bits: the significand, how many were read, and
    the rest. -/
def takeDigits (significand count : Nat) : List Char → Nat × Nat × List Char
  | [] => (significand, count, [])
  | c :: cs =>
    if c.isDigit ∧ significand * 10 + digitValue c ≤ greatestUnsigned then
      takeDigits (significand * 10 + digitValue c) (count + 1) cs
    else (significand, count, c :: cs)

def doubleOf (negative : Bool) (significand : Nat) (exponent : Int) (rest : List Char) : Reading (Parsed Number) :=
  match Decimal.Binary64.ofParts negative significand exponent with
  | some x => .ok (.double x, rest)
  | none => fault .numberOutOfRange

def exponentPart (negative : Bool) (significand : Nat) (exponent : Int) (cs : List Char) : Reading (Parsed Number) :=
  let (down, cs) := takeSign cs
  match cs with
  | [] => fault .endInValue
  | c :: _ =>
    if c.isDigit then
      let n := Text.numeral 10 (cs.takeWhile Char.isDigit)
      let rest := dropDigits cs
      if n ≤ greatestExponent then doubleOf negative significand (if down then exponent - n else exponent + n) rest
      else if significand ≠ 0 ∧ !down then fault .numberOutOfRange
      else .ok (.double (.zero negative), rest)
    else fault .invalidNumber

def exponentOrEnd (negative : Bool) (significand : Nat) (exponent : Int) (cs : List Char) : Reading (Parsed Number) :=
  match cs with
  | c :: rest =>
    if c = 'e' ∨ c = 'E' then exponentPart negative significand exponent rest
    else doubleOf negative significand exponent cs
  | [] => doubleOf negative significand exponent cs

def decimalPart (negative : Bool) (significand : Nat) (exponent : Int) (cs : List Char) : Reading (Parsed Number) :=
  let (significand, count, rest) := takeDigits significand 0 cs
  if startsWithDigit rest then exponentOrEnd negative significand (exponent - count) (dropDigits rest)
  else if count = 0 then if rest.isEmpty then fault .endInValue else fault .invalidNumber
  else exponentOrEnd negative significand (exponent - count) rest

/-- An integer without a point or an exponent. A negative zero and a number below 64 bits are doubles. -/
def wholeNumber (negative : Bool) (significand : Nat) (rest : List Char) : Reading (Parsed Number) :=
  if !negative then .ok (.int significand, rest)
  else if significand = 0 ∨ 0x8000000000000000 < significand then doubleOf true significand 0 rest
  else .ok (.int (-significand), rest)

def numberBody (negative : Bool) (cs : List Char) : Reading (Parsed Number) :=
  match cs with
  | [] => fault .endInValue
  | '0' :: rest => if startsWithDigit rest then fault .invalidNumber else afterWhole 0 0 rest
  | c :: _ =>
    if c.isDigit then
      let (significand, _, rest) := takeDigits 0 0 cs
      let extra := rest.takeWhile Char.isDigit
      afterWhole significand extra.length (rest.drop extra.length)
    else fault .invalidNumber
where
  afterWhole (significand extra : Nat) (cs : List Char) : Reading (Parsed Number) :=
    match cs with
    | '.' :: rest => decimalPart negative significand extra rest
    | c :: rest =>
      if c = 'e' ∨ c = 'E' then exponentPart negative significand extra rest
      else if extra = 0 then wholeNumber negative significand cs else doubleOf negative significand extra cs
    | [] => if extra = 0 then wholeNumber negative significand cs else doubleOf negative significand extra cs

def skipExponent (cs : List Char) : Reading (List Char) :=
  let (_, cs) := takeSign cs
  if startsWithDigit cs then .ok (dropDigits cs) else fault .invalidNumber

def skipExponentOrEnd (cs : List Char) : Reading (List Char) :=
  match cs with
  | c :: rest => if c = 'e' ∨ c = 'E' then skipExponent rest else .ok cs
  | [] => .ok cs

def skipNumber (cs : List Char) : Reading (List Char) :=
  match cs with
  | '0' :: rest => if startsWithDigit rest then fault .invalidNumber else afterWhole rest
  | c :: rest => if c.isDigit then afterWhole (dropDigits rest) else fault .invalidNumber
  | [] => fault .invalidNumber
where
  afterWhole (cs : List Char) : Reading (List Char) :=
    match cs with
    | '.' :: rest => if startsWithDigit rest then skipExponentOrEnd (dropDigits rest) else fault .invalidNumber
    | _ => skipExponentOrEnd cs

/-- A list or an object that is open. -/
inductive Enclosing where
  | list
  | object
deriving DecidableEq, Repr

def Enclosing.close : Enclosing → Char
  | .list => ']'
  | .object => '\x7d'

def Enclosing.endFault : Enclosing → Fault
  | .list => .endInList
  | .object => .endInObject

def Enclosing.commaFault : Enclosing → Fault
  | .list => .expectedListCommaOrEnd
  | .object => .expectedObjectCommaOrEnd

def expectColon (cs : List Char) : Reading (List Char) :=
  match skipBlanks cs with
  | ':' :: rest => .ok rest
  | [] => fault .endInObject
  | _ => fault .expectedColon

def skipKey (cs : List Char) : Reading (List Char) :=
  match skipBlanks cs with
  | '"' :: rest => do expectColon (← skipString rest)
  | [] => fault .endInObject
  | _ => fault .keyNotString

mutual
/-- Passes over a value inside the open lists and objects, and then over the rest of these. -/
def skipNested : Nat → List Enclosing → List Char → Reading (List Char)
  | 0, _, _ => fault .endInValue
  | fuel + 1, stack, cs =>
    match skipBlanks cs with
    | [] => fault .endInValue
    | '[' :: rest => skipMember fuel .list stack false rest
    | '\x7b' :: rest => skipMember fuel .object stack false rest
    | '"' :: rest => do skipClosing fuel stack (← skipString rest)
    | 'n' :: rest => do skipClosing fuel stack (← expectWord ['u', 'l', 'l'] rest)
    | 't' :: rest => do skipClosing fuel stack (← expectWord ['r', 'u', 'e'] rest)
    | 'f' :: rest => do skipClosing fuel stack (← expectWord ['a', 'l', 's', 'e'] rest)
    | '-' :: rest => do skipClosing fuel stack (← skipNumber rest)
    | c :: rest => if c.isDigit then do skipClosing fuel stack (← skipNumber (c :: rest)) else fault .expectedValue

def skipClosing : Nat → List Enclosing → List Char → Reading (List Char)
  | _, [], cs => .ok cs
  | 0, _ :: _, _ => fault .endInValue
  | fuel + 1, enclosing :: stack, cs => skipMember fuel enclosing stack true cs

/-- Passes over the next member of a list or an object, or over its end. A comma is accepted only behind a value. -/
def skipMember : Nat → Enclosing → List Enclosing → Bool → List Char → Reading (List Char)
  | 0, _, _, _, _ => fault .endInValue
  | fuel + 1, enclosing, stack, comma, cs =>
    match skipBlanks cs with
    | [] => fault enclosing.endFault
    | c :: rest =>
      if c = ',' ∧ comma then skipItem fuel enclosing stack rest
      else if c = enclosing.close then skipClosing fuel stack rest
      else if comma then fault enclosing.commaFault
      else skipItem fuel enclosing stack (c :: rest)

def skipItem : Nat → Enclosing → List Enclosing → List Char → Reading (List Char)
  | 0, _, _, _ => fault .endInValue
  | fuel + 1, .list, stack, cs => skipNested fuel (.list :: stack) cs
  | fuel + 1, .object, stack, cs => do skipNested fuel (.object :: stack) (← skipKey cs)
end

/-- Passes over a value. Four steps at most are made for each character. -/
def skipValue (cs : List Char) : Reading (List Char) := skipNested (4 * cs.length + 4) [] cs

end SchemaMutation.Json
