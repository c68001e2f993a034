import SchemaMutation.Text.Characters

/-!
# Connection URLs

The scheme of a URL, and whether its authority is well formed: user information, host and port. Nothing else of a URL
is looked at. Control characters and blanks around the text do not count, nor do tabs and line ends inside it.
-/

namespace SchemaMutation.Url

inductive Fault where
  | noBase
  | emptyHost
  | invalidPort
  | invalidIPv4
  | invalidIPv6
  | invalidDomain
  | invalidInternationalDomain
deriving DecidableEq, Repr

def Fault.message : Fault → String
  | .noBase => "relative URL without a base"
  | .emptyHost => "empty host"
  | .invalidPort => "invalid port number"
  | .invalidIPv4 => "invalid IPv4 address"
  | .invalidIPv6 => "invalid IPv6 address"
  | .invalidDomain => "invalid domain character"
  | .invalidInternationalDomain => "invalid international domain name"

/-- The kinds of schemes that the syntax tells apart. -/
inductive SchemeKind where
  | file
  | special
  | other
deriving DecidableEq, Repr

def SchemeKind.ofScheme (scheme : String) : SchemeKind :=
  if scheme = "file" then .file
  else if ["http", "https", "ws", "wss", "ftp"].contains scheme then .special
  else .other

/-- The text without controls and blanks at its ends and without tabs and line ends. -/
def clean (s : String) : List Char :=
  let outer (c : Char) : Bool := decide (c.toNat ≤ 32)
  let trimmed := ((s.toList.dropWhile outer).reverse.dropWhile outer).reverse
  trimmed.filter fun c => !(c == '\t' || c == '\n' || c == '\r')

def splitScheme? (cs : List Char) : Option (String × List Char) :=
  let named (c : Char) : Bool := c.isAlphanum || c == '+' || c == '-' || c == '.'
  let name := cs.takeWhile named
  match name, cs.dropWhile named with
  | c :: _, ':' :: rest => if c.isAlpha then some (String.ofList (name.map Char.toLower), rest) else none
  | _, _ => none

/-- A decimal number up to 255 without zeros in front. -/
def isOctet (cs : List Char) : Bool :=
  !cs.isEmpty && cs.all Char.isDigit && (cs.length == 1 || cs.head? != some '0') && decide (cs.length ≤ 3)
    && decide ((cs.foldl (fun n c => n * 10 + (c.toNat - 48)) 0) ≤ 255)

def splitAt (sep : Char) : List Char → List (List Char)
  | [] => [[]]
  | c :: cs =>
    if c = sep then [] :: splitAt sep cs
    else match splitAt sep cs with
      | [] => [[c]]
      | part :: parts => (c :: part) :: parts

def isDottedQuad (cs : List Char) : Bool :=
  let parts := splitAt '.' cs
  parts.length == 4 && parts.all isOctet

/-- Whether a text completes an IPv6 address that has `room` pieces left, `gap` telling whether the double colon has
    been met. -/
def completesIPv6 : Nat → Bool → List Char → Bool
  | room, gap, [] => gap || room == 0
  | 0, _, _ :: _ => false
  | room + 1, gap, c :: cs =>
    if c = ':' then !gap && completesIPv6 room true cs
    else
      let digits := ((c :: cs).take 4).takeWhile Text.isHexDigit
      match (c :: cs).drop digits.length with
      | [] => completesIPv6 room gap []
      | '.' :: _ => !digits.isEmpty && decide (1 ≤ room) && isDottedQuad (c :: cs) && (gap || room == 1)
      | ':' :: more => !more.isEmpty && completesIPv6 room gap more
      | _ => false

def isIPv6 : List Char → Bool
  | ':' :: ':' :: cs => completesIPv6 7 true cs
  | ':' :: _ => false
  | cs => decide (2 ≤ cs.length) && completesIPv6 8 false cs

/-- A host in brackets must be an IPv6 address; `plain` judges any other. -/
def checkBracketed (cs : List Char) (plain : Except Fault Unit) : Except Fault Unit :=
  match cs with
  | '[' :: rest =>
    if rest.getLast? = some ']' ∧ isIPv6 rest.dropLast then .ok () else .error .invalidIPv6
  | _ => plain

/-- The characters that cannot stand in the host of a scheme that gives hosts no meaning. -/
def forbiddenInHost (c : Char) : Bool := "\x00\t\n\r #/:<>?@[\\]^|".toList.contains c

def checkOpaqueHost (cs : List Char) : Except Fault Unit :=
  checkBracketed cs (if cs.any forbiddenInHost then .error .invalidDomain else .ok ())

def percentDecode : List Char → List Char
  | '%' :: a :: b :: rest =>
    match Text.hexValue? a, Text.hexValue? b with
    | some x, some y => Char.ofNat (x * 16 + y) :: percentDecode rest
    | _, _ => '%' :: percentDecode (a :: b :: rest)
  | c :: rest => c :: percentDecode rest
  | [] => []

/-- A part of a numeric address: decimal, octal behind a zero, or hexadecimal behind `0x`. -/
def addressPart? (cs : List Char) : Option Nat :=
  let number (base : Nat) (ds : List Char) : Option Nat := ds.foldlM (fun n c => do
    let d ← Text.hexValue? c
    if d < base then some (n * base + d) else none) 0
  match cs with
  | [] => none
  | '0' :: 'x' :: ds => number 16 ds
  | '0' :: 'X' :: ds => number 16 ds
  | '0' :: d :: ds => number 8 (d :: ds)
  | ds => number 10 ds

/-- The parts of a host between points, less an empty one at the end. -/
def hostParts (cs : List Char) : List (List Char) :=
  let parts := splitAt '.' cs
  if 1 < parts.length ∧ parts.getLast? = some [] then parts.dropLast else parts

/-- Whether a host has to be an IPv4 address because its last part is a number. -/
def endsInNumber (cs : List Char) : Bool :=
  match (hostParts cs).getLast? with
  | none => false
  | some last => (!last.isEmpty && last.all Char.isDigit) ||
    ((last.take 2 == ['0', 'x'] || last.take 2 == ['0', 'X']) && (addressPart? last).isSome)

def isIPv4 (cs : List Char) : Bool :=
  let parts := hostParts cs
  match parts.mapM addressPart? with
  | none => false
  | some numbers => decide (numbers.length ≤ 4) && numbers.dropLast.all (fun n => decide (n ≤ 255)) &&
    numbers.getLast?.any fun n => decide (n < Nat.pow 256 (5 - numbers.length))

def checkSpecialHost (cs : List Char) : Except Fault Unit :=
  checkBracketed cs <|
    let decoded := percentDecode cs
    if decoded.any fun c => forbiddenInHost c || c == '%' || decide (c.toNat < 32) || c.toNat == 127 then
      .error .invalidInternationalDomain
    else if decoded.isEmpty then .error .emptyHost
    else if endsInNumber decoded && !isIPv4 decoded then .error .invalidIPv4
    else .ok ()

def endsAuthority (kind : SchemeKind) (c : Char) : Bool :=
  c == '/' || c == '?' || c == '#' || (c == '\\' && kind != .other)

/-- The user information before the last `@`, if there is one, and what follows it. -/
def splitUser (authority : List Char) : Option (List Char) × List Char :=
  let host := (authority.reverse.takeWhile (· != '@')).reverse
  if authority.contains '@' then (some (authority.take (authority.length - host.length - 1)), host)
  else (none, authority)

/-- The host up to a colon outside brackets, and the rest. -/
def splitHost (inside : Bool) : List Char → List Char × List Char
  | [] => ([], [])
  | c :: cs =>
    if c = ':' ∧ !inside then ([], c :: cs)
    else
      let (host, rest) := splitHost (if c = '[' then true else if c = ']' then false else inside) cs
      (c :: host, rest)

/-- Checks the digits of a port, which a backslash may end too. -/
def checkPort (port : Nat) : List Char → Except Fault Unit
  | [] => .ok ()
  | c :: cs =>
    if c.isDigit then
      let port := port * 10 + (c.toNat - 48)
      if 65535 < port then .error .invalidPort else checkPort port cs
    else if c = '\\' then .ok ()
    else .error .invalidPort

def checkAuthority (kind : SchemeKind) (cs : List Char) : Except Fault Unit := do
  let authority := cs.takeWhile fun c => !endsAuthority kind c
  let more := cs.drop authority.length
  let (user, hostPort) := splitUser authority
  let (host, port) := splitHost false hostPort
  if user = some [] ∧ hostPort.isEmpty ∧ !more.isEmpty then throw .emptyHost
  if kind = .special ∧ host.isEmpty then throw .emptyHost
  if kind = .other then checkOpaqueHost host else checkSpecialHost host
  if host.isEmpty ∧ !port.isEmpty then throw .emptyHost
  checkPort 0 (port.drop 1)
  let named : Bool := user.any fun u => !u.isEmpty && u != [':']
  if host.isEmpty && named then throw .emptyHost

/-- The letter of a drive with its mark, which is part of the path of a file. -/
def isDriveLetter : List Char → Bool
  | [letter, mark] => letter.isAlpha && (mark == ':' || mark == '|')
  | _ => false

def checkRest (kind : SchemeKind) (rest : List Char) : Except Fault Unit :=
  match kind with
  | .special => checkAuthority kind (rest.dropWhile fun c => c == '/' || c == '\\')
  | .other =>
    match rest with
    | '/' :: '/' :: authority => checkAuthority kind authority
    | _ => .ok ()
  | .file =>
    match rest.take 2 |>.map (fun c => if c = '\\' then '/' else c) with
    | ['/', '/'] =>
      let host := (rest.drop 2).takeWhile fun c => !endsAuthority kind c
      if host.isEmpty || isDriveLetter host then .ok () else checkSpecialHost host
    | _ => .ok ()

/-- The scheme of an absolute URL, in lower case. -/
def scheme (text : String) : Except Fault String :=
  match splitScheme? (clean text) with
  | none => .error .noBase
  | some (scheme, rest) => do
    checkRest (.ofScheme scheme) rest
    .ok scheme

end SchemaMutation.Url
