/-!
# Encodings of JSON

JSON comes as bytes in one of the encodings of Unicode. Its first characters are ASCII, so the
zeros among the first four bytes tell which one it is.

## Design notes

The bytes are themselves those of a text, so only the two wider encodings need decoding.
-/

namespace Formulary.Json

/-- The unit of two or four bytes that a wider encoding counts in. -/
inductive UnitSize
  | two
  | four
deriving DecidableEq

/-- The encodings that bytes can be in. -/
inductive Encoding
  | bytes
  | wide (size : UnitSize) (highFirst : Bool)
deriving DecidableEq

/-- The encoding that bytes are in, as their zeros tell. -/
def Encoding.ofBytes : List UInt8 → Encoding
  | a :: b :: c :: d :: _ =>
    if a = 0 then .wide (if b = 0 then .four else .two) true
    else if b = 0 then .wide (if c = 0 && d = 0 then .four else .two) false
    else .bytes
  | [a, b] => if a = 0 then .wide .two true else if b = 0 then .wide .two false else .bytes
  | _ => .bytes

/-- The number that bytes are the base 256 digits of, the first one the most significant. -/
def ofDigits (bytes : List UInt8) : Nat :=
  bytes.foldl (fun n b => 256 * n + b.toNat) 0

/-- The units of two bytes; `none` if a byte is left over. -/
def pairs? (highFirst : Bool) : List UInt8 → Option (List Nat)
  | [] => some []
  | a :: b :: bytes =>
    (pairs? highFirst bytes).map (ofDigits (if highFirst then [a, b] else [b, a]) :: ·)
  | _ => none

/-- The units of four bytes; `none` if bytes are left over. -/
def quads? (highFirst : Bool) : List UInt8 → Option (List Nat)
  | [] => some []
  | a :: b :: c :: d :: bytes =>
    (quads? highFirst bytes).map
      (ofDigits (if highFirst then [a, b, c, d] else [d, c, b, a]) :: ·)
  | _ => none

/-- The first half of a pair. -/
def isHighSurrogate (n : Nat) : Bool :=
  0xD800 ≤ n && n < 0xDC00

/-- The second half of a pair. -/
def isLowSurrogate (n : Nat) : Bool :=
  0xDC00 ≤ n && n < 0xE000

/-- Joins the two halves of each surrogate pair into one code point. -/
def joinSurrogates : List Nat → List Nat
  | high :: low :: rest =>
    if isHighSurrogate high && isLowSurrogate low then
      (0x10000 + (high - 0xD800) * 0x400 + (low - 0xDC00)) :: joinSurrogates rest
    else high :: joinSurrogates (low :: rest)
  | units => units

/-- The character of a code point; a surrogate that is no half of a pair becomes the replacement
character. -/
def charOfPoint (n : Nat) : Char :=
  if isHighSurrogate n || isLowSurrogate n then '\uFFFD' else Char.ofNat n

/-- The characters of code points, none of which may be beyond the last one of Unicode. -/
def charsOfPoints? (points : List Nat) : Option (List Char) :=
  if points.all (· < 0x110000) then some (points.map charOfPoint) else none

/-- A text without the mark in front of it that tells the encoding. -/
def dropByteOrderMark : List Char → List Char
  | '\uFEFF' :: cs => cs
  | cs => cs

/-- The characters that the bytes of a text stand for, without a byte order mark in front of them;
`none` if they stand for none. In a wider encoding there is no such mark. -/
def decode? (s : String) : Option (List Char) :=
  let bytes := s.toUTF8.toList
  match Encoding.ofBytes bytes with
  | .bytes => some (dropByteOrderMark s.toList)
  | .wide .two highFirst => (pairs? highFirst bytes).bind (charsOfPoints? ∘ joinSurrogates)
  | .wide .four highFirst => (quads? highFirst bytes).bind charsOfPoints?

end Formulary.Json
