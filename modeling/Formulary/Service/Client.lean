import Formulary.Service.Reader
import Formulary.Text.Digit

/-!
# A client of the service

A client is given addresses. It finds the path that an address names, sends the request there, and
follows the answer if this only names another path. An address may hold a scheme and a host in
front of the path and a query or a fragment behind it, parts that stand for the place where they are
or for the one above, and characters that are written as bytes behind percent signs.
-/

namespace Formulary.Service

/-- The bytes that a text stands for: a percent sign and two hexadecimal digits are one byte. -/
def percentBytes : List Char → List UInt8
  | [] => []
  | '%' :: a :: b :: cs =>
    match Text.hexDigitValue? a, Text.hexDigitValue? b with
    | some high, some low => UInt8.ofNat (high * 16 + low) :: percentBytes cs
    | _, _ => 0x25 :: percentBytes (a :: b :: cs)
  | c :: cs => c.toString.toUTF8.toList ++ percentBytes cs

/-- The character that bytes begin with; a character takes at most four of them. -/
def leadingChar? (bytes : List UInt8) : Option Char :=
  ByteArray.utf8DecodeChar? ⟨(bytes.take 4).toArray⟩ 0

/-- The characters of bytes, the first `skip` of which belong to a character that is read already.
A byte that begins no character counts as the replacement character. -/
def charsOfBytes : (skip : Nat) → List UInt8 → List Char
  | _, [] => []
  | skip + 1, _ :: bytes => charsOfBytes skip bytes
  | 0, byte :: bytes =>
    match leadingChar? (byte :: bytes) with
    | some c => c :: charsOfBytes (c.utf8Size - 1) bytes
    | none => '\uFFFD' :: charsOfBytes 0 bytes

/-- The characters of a text whose bytes may stand behind percent signs. -/
def percentDecode (cs : List Char) : List Char :=
  charsOfBytes 0 (percentBytes cs)

/-- Leaves the last of the parts passed so far, which come last to first. The part in front of the
first slash stays. -/
def leavePart : List (List Char) → List (List Char)
  | [[]] => [[]]
  | passed => passed.tail

/-- Follows the parts of a path, where `.` stays in place and `..` goes up; `passed` are the parts
passed so far, last to first. -/
def followParts (passed : List (List Char)) : List (List Char) → List (List Char)
  | [] => passed.reverse
  | ['.'] :: parts => followParts passed parts
  | ['.', '.'] :: parts => followParts (leavePart passed) parts
  | part :: parts => followParts (part :: passed) parts

/-- A path without the parts that stand for the place where they are or for the one above. -/
def resolveDots (path : List Char) : List Char :=
  match ['/'].intercalate (followParts [] (pathParts path)) with
  | [] => ['/']
  | resolved => resolved

/-- Drops a scheme and its colon from the front of an address: a letter, then letters, digits and
the signs `+`, `-` and `.`. -/
def dropScheme? (address : List Char) : Option (List Char) :=
  let isSchemeChar (c : Char) : Bool := c.isAlphanum || c = '+' || c = '-' || c = '.'
  match address.head?.any Char.isAlpha, address.dropWhile isSchemeChar with
  | true, ':' :: rest => some rest
  | _, _ => none

/-- Drops a host, which stands behind two slashes, from the front of an address. -/
def dropHost? : List Char → Option (List Char)
  | '/' :: '/' :: cs =>
    match cs.span fun c => c ≠ '/' && c ≠ '?' && c ≠ '#' with
    | ([], _) => none
    | (_, rest) => some rest
  | _ => none

/-- The path that an address names. It begins with one slash, however many there are in an address
that does not have both a scheme and a host. Query and fragment do not count; the dots are resolved
before the percent signs, and the percent signs twice. -/
def pathOfAddress (address : String) : List Char :=
  let scheme? := dropScheme? address.toList
  let afterScheme := scheme?.getD address.toList
  let host? := dropHost? afterScheme
  let path := (host?.getD afterScheme).takeWhile fun c => c ≠ '?' && c ≠ '#'
  let path :=
    if scheme?.isSome && host?.isSome && !path.isEmpty then path
    else '/' :: path.dropWhile (· = '/')
  percentDecode (percentDecode (resolveDots path))

/-- A request as a client is given it: the method in any letter case, an address and a body. -/
structure Errand where
  method : String
  address : String
  body : Option String

/-- The request that an errand begins with. -/
def Errand.request (e : Errand) : Request :=
  ⟨Text.upper e.method, String.ofList (pathOfAddress e.address), e.body⟩

namespace State

/-- Sends a request and follows at most `attempts` answers to another path, each of which is read
once more as the path of an address. -/
def send (f : Framework Request) :
    (attempts : Nat) → State → Request → Except Failure Response × State
  | 0, s, r => s.respond f r
  | attempts + 1, s, r =>
    match s.respond f r with
    | (.ok ⟨_, .moved path⟩, s') =>
      let path := String.ofList (percentDecode (resolveDots path.toList))
      send f attempts s' { r with path }
    | answer => answer

/-- Runs errands one after the other. Every answer to another path is about a shorter one, so there
are no more of them than the path has characters. -/
def runErrands (f : Framework Request) (s : State) :
    List Errand → List (Except Failure Response)
  | [] => []
  | errand :: errands =>
    let (answer, s') := s.send f errand.request.path.length errand.request
    answer :: runErrands f s' errands

end State

end Formulary.Service
