import SchemaMutation.Json.Basic

/-!
# JSON text

Two written forms of a value: compact, and indented by two spaces a level. Both write the members of an object in
the order in which they stand. In strings the quote, the backslash and the control characters are escaped.
-/

namespace SchemaMutation.Json

def hexDigit (n : Nat) : Char := if n < 10 then Char.ofNat (48 + n) else Char.ofNat (87 + n)

def escape (c : Char) : List Char :=
  if c = '"' then ['\\', '"']
  else if c = '\\' then ['\\', '\\']
  else if c = '\n' then ['\\', 'n']
  else if c = '\r' then ['\\', 'r']
  else if c = '\t' then ['\\', 't']
  else if c.toNat = 8 then ['\\', 'b']
  else if c.toNat = 12 then ['\\', 'f']
  else if c.toNat < 32 then ['\\', 'u', '0', '0', hexDigit (c.toNat / 16), hexDigit (c.toNat % 16)]
  else [c]

def quoted (s : String) : List Char := '"' :: s.toList.flatMap escape ++ ['"']

def atom : Json → List Char
  | .null => "null".toList
  | .bool true => "true".toList
  | .bool false => "false".toList
  | .number n => n.text.toList
  | .string s => quoted s
  | .array _ => ['[', ']']
  | .object _ => ['\x7b', '\x7d']

mutual
def compactChars : Json → List Char
  | .array (x :: xs) => '[' :: compactChars x ++ compactItems xs
  | .object ((k, v) :: rest) => '\x7b' :: quoted k ++ ':' :: compactChars v ++ compactMembers rest
  | other => atom other

def compactItems : List Json → List Char
  | [] => [']']
  | x :: xs => ',' :: compactChars x ++ compactItems xs

def compactMembers : List (String × Json) → List Char
  | [] => ['\x7d']
  | (k, v) :: rest => ',' :: quoted k ++ ':' :: compactChars v ++ compactMembers rest
end

def newline (level : Nat) : List Char := '\n' :: List.replicate (2 * level) ' '

mutual
/-- The indented text of a value that stands at a level. -/
def prettyChars (level : Nat) : Json → List Char
  | .array (x :: xs) => '[' :: newline (level + 1) ++ prettyChars (level + 1) x ++ prettyItems level xs
  | .object ((k, v) :: rest) =>
    '\x7b' :: newline (level + 1) ++ quoted k ++ ':' :: ' ' :: prettyChars (level + 1) v ++ prettyMembers level rest
  | other => atom other

def prettyItems (level : Nat) : List Json → List Char
  | [] => newline level ++ [']']
  | x :: xs => ',' :: newline (level + 1) ++ prettyChars (level + 1) x ++ prettyItems level xs

def prettyMembers (level : Nat) : List (String × Json) → List Char
  | [] => newline level ++ ['\x7d']
  | (k, v) :: rest =>
    ',' :: newline (level + 1) ++ quoted k ++ ':' :: ' ' :: prettyChars (level + 1) v ++ prettyMembers level rest
end

def compact (j : Json) : String := String.ofList j.compactChars

def pretty (j : Json) : String := String.ofList (prettyChars 0 j)

end SchemaMutation.Json
