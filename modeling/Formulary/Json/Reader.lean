import Formulary.Json.Encoding
import Formulary.Json.Value
import Formulary.Number.Reader

/-!
# Reading JSON

The reader takes the text of one JSON value. It also takes the words `NaN`, `Infinity` and
`-Infinity` as numbers. How deep lists and objects may be nested is for the caller to say.

## Design notes

The three functions that read values, list items and object fields call each other with one unit
of fuel less each time. Every second call takes a character off the text, so twice its length is
enough.
-/

namespace Formulary.Json

/-- Why a text is not read. -/
inductive ReadError
  /-- It is not JSON. -/
  | malformed
  /-- Its bytes are no characters. -/
  | undecodable
  /-- An integer in it has too many digits. -/
  | integerTooLong
  /-- Lists and objects in it are nested too deeply. -/
  | tooDeep
deriving DecidableEq

/-- What was read off the front of a text, and the rest of the text. -/
abbrev Step (α : Type) := Except ReadError (α × List Char)

/-- One of the four characters that may stand between tokens. -/
def isGap (c : Char) : Bool :=
  c = ' ' || c = '\t' || c = '\n' || c = '\r'

/-- A text without the white space in front of it. -/
def skipGap (cs : List Char) : List Char :=
  cs.dropWhile isGap

/-- The number that four hexadecimal digits stand for. -/
def hexQuad? (a b c d : Char) : Option Nat := do
  let digits ← [a, b, c, d].mapM Text.hexDigitValue?
  some (digits.foldl (fun n d => 16 * n + d) 0)

/-- The code point of an escape other than the four-digit one. -/
def simpleEscape? : Char → Option Nat
  | '"' => some 0x22
  | '\\' => some 0x5C
  | '/' => some 0x2F
  | 'b' => some 0x08
  | 'f' => some 0x0C
  | 'n' => some 0x0A
  | 'r' => some 0x0D
  | 't' => some 0x09
  | _ => none

/-- The code points of a quoted text whose opening quote is already taken. Escapes may name
surrogates. -/
def readUnits : List Char → Step (List Nat)
  | [] => .error .malformed
  | '"' :: cs => .ok ([], cs)
  | '\\' :: 'u' :: a :: b :: c :: d :: cs =>
    match hexQuad? a b c d with
    | some unit => (readUnits cs).map fun (units, rest) => (unit :: units, rest)
    | none => .error .malformed
  | '\\' :: e :: cs =>
    match simpleEscape? e with
    | some unit => (readUnits cs).map fun (units, rest) => (unit :: units, rest)
    | none => .error .malformed
  | c :: cs =>
    if c = '\\' ∨ c.toNat < 0x20 then .error .malformed
    else (readUnits cs).map fun (units, rest) => (c.toNat :: units, rest)

/-- A text from its code points, which is broken if a surrogate is left over. -/
def keyOfUnits (units : List Nat) : Key :=
  let points := joinSurrogates units
  if points.any fun n => isHighSurrogate n || isLowSurrogate n then .broken points
  else .text (String.ofList (points.map Char.ofNat))

/-- Reads a quoted text whose opening quote is already taken. -/
def readText (cs : List Char) : Step Key :=
  (readUnits cs).map fun (units, rest) => (keyOfUnits units, rest)

/-- A text as a value. -/
def ofText : Key → Json
  | .text s => .text s
  | .broken _ => .brokenText

/-- Splits the fraction off the front of a text: a point and at least one digit. -/
def splitFraction? : List Char → Option (List Char × List Char)
  | '.' :: cs =>
    let (digits, rest) := cs.span Text.isAsciiDigit
    if digits.isEmpty then none else some (digits, rest)
  | _ => none

/-- Splits the exponent off the front of a text: `e`, an optional sign and at least one digit. -/
def splitExponent? : List Char → Option (Int × List Char)
  | [] => none
  | c :: cs =>
    if c = 'e' ∨ c = 'E' then
      let (negative, unsigned) := Reader.splitSign cs
      let (digits, rest) := unsigned.span Text.isAsciiDigit
      if digits.isEmpty then none
      else some (Binary64.signed negative (Text.digitsValue digits), rest)
    else none

/-- Splits the digits of an integer off the front of a text; a leading zero stands alone. -/
def splitWhole : List Char → List Char × List Char
  | '0' :: cs => (['0'], cs)
  | cs => cs.span Text.isAsciiDigit

/-- Reads a number whose sign is already taken. Without a fraction and an exponent it is an
integer. -/
def readNumber (negative : Bool) (cs : List Char) : Step Number :=
  let (whole, afterWhole) := splitWhole cs
  if whole.isEmpty then .error .malformed
  else
    let (fraction, afterFraction) := (splitFraction? afterWhole).getD ([], afterWhole)
    let exponent? := splitExponent? afterFraction
    if fraction.isEmpty && exponent?.isNone then
      if whole.length ≤ maxIntegerDigits then
        .ok (.int (Binary64.signed negative (Text.digitsValue whole)), afterWhole)
      else .error .integerTooLong
    else
      let (exponent, rest) := exponent?.getD (0, afterFraction)
      let digits := Text.digitsValue (whole ++ fraction)
      .ok (.float (Reader.ofScientific negative digits (exponent - fraction.length)), rest)

/-- What follows a word. -/
def dropWord? (word : String) (cs : List Char) : Option (List Char) :=
  if word.toList.isPrefixOf cs then some (cs.drop word.length) else none

/-- Reads a value that is neither a list nor an object. -/
def readScalar (cs : List Char) : Step Json :=
  let words : List (String × Json) :=
    [("null", .null), ("true", .bool true), ("false", .bool false),
      ("NaN", .number (.float Binary64.nan)),
      ("Infinity", .number (.float (Binary64.infinity false))),
      ("-Infinity", .number (.float (Binary64.infinity true)))]
  match words.findSome? fun (word, value) => (dropWord? word cs).map fun rest => (value, rest) with
  | some step => .ok step
  | none =>
    let (negative, unsigned) := match cs with
      | '-' :: rest => (true, rest)
      | _ => (false, cs)
    (readNumber negative unsigned).map fun (n, rest) => (.number n, rest)

mutual

/-- Reads a value in which at most `depth` lists and objects are nested. -/
def readValue : (fuel depth : Nat) → List Char → Step Json
  | 0, _, _ => .error .malformed
  | _ + 1, 0, '[' :: _ => .error .tooDeep
  | _ + 1, 0, '{' :: _ => .error .tooDeep
  | fuel + 1, depth + 1, '[' :: cs =>
    match skipGap cs with
    | ']' :: rest => .ok (.list [], rest)
    | cs => (readItems fuel depth cs).map fun (items, rest) => (.list items, rest)
  | fuel + 1, depth + 1, '{' :: cs =>
    match skipGap cs with
    | '}' :: rest => .ok (.object [], rest)
    | cs => (readFields fuel depth cs).map fun (fields, rest) => (.object fields, rest)
  | _ + 1, _, '"' :: cs =>
    (readText cs).map fun (s, rest) => (ofText s, rest)
  | _ + 1, _, cs => readScalar cs

/-- Reads the items of a list up to its closing bracket. -/
def readItems : (fuel depth : Nat) → List Char → Except ReadError (List Json × List Char)
  | 0, _, _ => .error .malformed
  | fuel + 1, depth, cs => do
    let (item, afterItem) ← readValue fuel depth cs
    match skipGap afterItem with
    | ',' :: more =>
      let (items, rest) ← readItems fuel depth (skipGap more)
      pure (item :: items, rest)
    | ']' :: rest => pure ([item], rest)
    | _ => .error .malformed

/-- Reads the fields of an object up to its closing brace. -/
def readFields :
    (fuel depth : Nat) → List Char → Except ReadError (List (Key × Json) × List Char)
  | 0, _, _ => .error .malformed
  | fuel + 1, depth, '"' :: cs => do
    let (key, afterKey) ← readText cs
    match skipGap afterKey with
    | ':' :: beforeValue =>
      let (value, afterValue) ← readValue fuel depth (skipGap beforeValue)
      match skipGap afterValue with
      | ',' :: more =>
        let (fields, rest) ← readFields fuel depth (skipGap more)
        pure ((key, value) :: fields, rest)
      | '}' :: rest => pure ([(key, value)], rest)
      | _ => .error .malformed
    | _ => .error .malformed
  | _ + 1, _, _ => .error .malformed

end

/-- The value that a text denotes, in whichever encoding its bytes are, with at most `depth` lists
and objects nested in each other. Nothing but gaps may stand around it. -/
def read (depth : Nat) (s : String) : Except ReadError Json := do
  let cs ← (decode? s).elim (.error .undecodable) .ok
  let (value, rest) ← readValue (2 * cs.length + 2) depth (skipGap cs)
  if (skipGap rest).isEmpty then pure value else .error .malformed

end Formulary.Json
