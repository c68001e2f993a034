/-!
# Digests

SHA-256, and the digests of structured values. A byte string is padded to whole blocks of 64 bytes, and each block is
mixed into a state of eight words in 64 rounds. A value is digested as a list of fields behind a tag that names its
kind. Every field is encoded so that its end is known: texts carry their length, numbers and flags have a fixed size,
and so have digests of parts. A collection whose order does not count is encoded by the sorted digests of its members.
-/

namespace SchemaMutation.Digest

abbrev Bytes := List UInt8

/-- The eight words of the state. -/
structure Words where
  a : UInt32
  b : UInt32
  c : UInt32
  d : UInt32
  e : UInt32
  f : UInt32
  g : UInt32
  h : UInt32
deriving DecidableEq, Repr

def initial : Words :=
  ⟨0x6a09e667, 0xbb67ae85, 0x3c6ef372, 0xa54ff53a, 0x510e527f, 0x9b05688c, 0x1f83d9ab, 0x5be0cd19⟩

def roundConstants : List UInt32 := [
  0x428a2f98, 0x71374491, 0xb5c0fbcf, 0xe9b5dba5, 0x3956c25b, 0x59f111f1, 0x923f82a4, 0xab1c5ed5,
  0xd807aa98, 0x12835b01, 0x243185be, 0x550c7dc3, 0x72be5d74, 0x80deb1fe, 0x9bdc06a7, 0xc19bf174,
  0xe49b69c1, 0xefbe4786, 0x0fc19dc6, 0x240ca1cc, 0x2de92c6f, 0x4a7484aa, 0x5cb0a9dc, 0x76f988da,
  0x983e5152, 0xa831c66d, 0xb00327c8, 0xbf597fc7, 0xc6e00bf3, 0xd5a79147, 0x06ca6351, 0x14292967,
  0x27b70a85, 0x2e1b2138, 0x4d2c6dfc, 0x53380d13, 0x650a7354, 0x766a0abb, 0x81c2c92e, 0x92722c85,
  0xa2bfe8a1, 0xa81a664b, 0xc24b8b70, 0xc76c51a3, 0xd192e819, 0xd6990624, 0xf40e3585, 0x106aa070,
  0x19a4c116, 0x1e376c08, 0x2748774c, 0x34b0bcb5, 0x391c0cb3, 0x4ed8aa4a, 0x5b9cca4f, 0x682e6ff3,
  0x748f82ee, 0x78a5636f, 0x84c87814, 0x8cc70208, 0x90befffa, 0xa4506ceb, 0xbef9a3f7, 0xc67178f2]

def rotateRight (x : UInt32) (n : UInt32) : UInt32 := (x >>> n) ||| (x <<< (32 - n))

def bigEndian (count n : Nat) : Bytes := (List.range count).map fun i => UInt8.ofNat (n / Nat.pow 256 (count - 1 - i))

def littleEndian (count n : Nat) : Bytes := (List.range count).map fun i => UInt8.ofNat (n / Nat.pow 256 i)

/-- The string with a one bit, zeros and its length in bits, a multiple of 64 bytes long. -/
def pad (message : Bytes) : Bytes :=
  let zeros := (55 + 64 - message.length % 64) % 64
  message ++ 0x80 :: List.replicate zeros 0 ++ bigEndian 8 (8 * message.length)

def word (b : Bytes) : UInt32 := b.foldl (fun w x => (w <<< 8) ||| x.toUInt32) 0

def pieces (size : Nat) : Nat → Bytes → List Bytes
  | 0, _ => []
  | n + 1, b => b.take size :: pieces size n (b.drop size)

/-- The words of the schedule, last one first, extended by `n` further ones. -/
def extend : Nat → List UInt32 → List UInt32
  | 0, ws => ws
  | n + 1, ws =>
    let w2 := ws.getD 1 0
    let w7 := ws.getD 6 0
    let w15 := ws.getD 14 0
    let w16 := ws.getD 15 0
    let s0 := rotateRight w15 7 ^^^ rotateRight w15 18 ^^^ (w15 >>> 3)
    let s1 := rotateRight w2 17 ^^^ rotateRight w2 19 ^^^ (w2 >>> 10)
    extend n ((w16 + s0 + w7 + s1) :: ws)

def schedule (block : Bytes) : List UInt32 := (extend 48 ((pieces 4 16 block).map word).reverse).reverse

def Words.round (s : Words) (k w : UInt32) : Words :=
  let s1 := rotateRight s.e 6 ^^^ rotateRight s.e 11 ^^^ rotateRight s.e 25
  let choice := (s.e &&& s.f) ^^^ ((~~~ s.e) &&& s.g)
  let t1 := s.h + s1 + choice + k + w
  let s0 := rotateRight s.a 2 ^^^ rotateRight s.a 13 ^^^ rotateRight s.a 22
  let majority := (s.a &&& s.b) ^^^ (s.a &&& s.c) ^^^ (s.b &&& s.c)
  ⟨t1 + (s0 + majority), s.a, s.b, s.c, s.d + t1, s.e, s.f, s.g⟩

def Words.add (s t : Words) : Words :=
  ⟨s.a + t.a, s.b + t.b, s.c + t.c, s.d + t.d, s.e + t.e, s.f + t.f, s.g + t.g, s.h + t.h⟩

def Words.mix (s : Words) (block : Bytes) : Words :=
  s.add ((roundConstants.zip (schedule block)).foldl (fun s kw => s.round kw.1 kw.2) s)

def Words.bytes (s : Words) : Bytes :=
  [s.a, s.b, s.c, s.d, s.e, s.f, s.g, s.h].flatMap fun w => bigEndian 4 w.toNat

def sha256 (message : Bytes) : Bytes :=
  let padded := pad message
  ((pieces 64 (padded.length / 64) padded).foldl Words.mix initial).bytes

inductive Field where
  | text (value : String)
  | flag (value : Bool)
  | int (value : Int)
  | digest (value : Bytes)
deriving DecidableEq, Repr

def utf8 (s : String) : Bytes := s.toUTF8.data.toList

/-- The low 64 bits of a number as bytes. -/
def intBytes (i : Int) : Bytes := littleEndian 8 (i % 0x10000000000000000).toNat

def Field.bytes : Field → Bytes
  | .text s => intBytes s.utf8ByteSize ++ utf8 s
  | .flag b => [if b then 1 else 0]
  | .int i => intBytes i
  | .digest d => d

/-- The byte string of a value: its tag and its fields. -/
def encode (tag : String) (fields : List Field) : Bytes := (Field.text tag :: fields).flatMap Field.bytes

def bytesLE (a b : Bytes) : Bool := !decide (b < a)

/-- The fields of a collection whose order does not count. -/
def setFields (digests : List Bytes) : List Field :=
  .int digests.length :: (digests.mergeSort bytesLE).map .digest

end SchemaMutation.Digest
