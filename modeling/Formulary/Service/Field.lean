import Formulary.Bindings
import Formulary.Json.Reader
import Formulary.Service.Complaint

/-!
# Fields of requests

Reading texts, integers and bindings from JSON values and from parts of a path. The reading is
lenient: a text that spells a number counts as that number, a truth value as one or zero, and a
whole floating-point number as an integer where an integer is wanted.
-/

namespace Formulary.Service

/-- A blank that may stand around the text of a number; the information separators may not. -/
def isTrimmed (c : Char) : Bool :=
  Text.isBlank c && !(0x1C ≤ c.toNat && c.toNat ≤ 0x1F)

/-- A text without the white space around it. -/
def trim (cs : List Char) : List Char :=
  ((cs.dropWhile isTrimmed).reverse.dropWhile isTrimmed).reverse

/-- There are two underscores side by side. -/
def hasDoubleUnderscore : List Char → Bool
  | '_' :: '_' :: _ => true
  | _ :: cs => hasDoubleUnderscore cs
  | [] => false

/-- Removes the underscores from a text; none may stand at an end or next to another one. -/
def withoutUnderscores? (cs : List Char) : Option (List Char) :=
  if cs.head? = some '_' || cs.getLast? = some '_' || hasDoubleUnderscore cs then none
  else some (cs.filter (· ≠ '_'))

/-- Drops a point with nothing but zeros behind it, of which there is at least one, from the end of
a text. -/
def withoutZeroFraction (cs : List Char) : List Char :=
  match cs.dropWhile (· ≠ '.') with
  | _ :: '0' :: zeros => if zeros.all (· = '0') then cs.takeWhile (· ≠ '.') else cs
  | _ => cs

/-- Drops the zeros and underscores behind a zero, as far as a digit or a minus follows; `last` is
the character in front of the text. Zeros in front of a point, and at the end of the text, keep the
last of these characters. -/
def afterZero? (last : Char) : List Char → Option (List Char)
  | [] => some [last]
  | c :: cs =>
    if c = '0' ∨ c = '_' then afterZero? c cs
    else if Text.isAsciiDigit c ∨ c = '-' then some (c :: cs)
    else if c = '.' then some (last :: c :: cs)
    else none

/-- Drops the zeros in front of a text that begins with a digit or a minus. -/
def withoutLeadingZeros? : List Char → Option (List Char)
  | [] => none
  | '0' :: cs => afterZero? '0' cs
  | c :: cs => if Text.isAsciiDigit c ∨ c = '-' then some (c :: cs) else none

/-- Drops a plus in front of a text; no minus may follow it. -/
def withoutPlus? : List Char → Option (List Char)
  | '+' :: '-' :: _ => none
  | '+' :: cs => some cs
  | cs => some cs

/-- Brings the text of an integer to its plain form: no blanks around it, no plus, no zeros in
front, no fraction of zeros, no underscores between digits. -/
def plainInteger? (cs : List Char) : Option (List Char) := do
  let cs ← withoutLeadingZeros? (← withoutPlus? (trim cs))
  let cs := withoutZeroFraction cs
  some ((withoutUnderscores? cs).getD cs)

/-- Reads an integer in its plain form: an optional minus and ASCII digits without a zero in front.
Sign and digits may be at most `maxIntegerDigits` characters, whatever follows them. -/
def readPlainInteger (cs : List Char) : Except Fault Int :=
  let (negative, unsigned) := match cs with
    | '-' :: unsigned => (true, unsigned)
    | _ => (false, cs)
  let (digits, rest) := unsigned.span Text.isAsciiDigit
  match digits with
  | [] => .error .unreadableInteger
  | '0' :: more => if more.isEmpty && rest.isEmpty then .ok 0 else .error .unreadableInteger
  | _ =>
    if rest.length + maxIntegerDigits < cs.length then .error .oversizedInteger
    else if rest.isEmpty then .ok (Binary64.signed negative (Text.digitsValue digits))
    else .error .unreadableInteger

/-- The integer that a text spells. A text in the plain form is read as it is; every other one is
brought to that form first. -/
def integerOfText (s : String) : Except Fault Int :=
  match readPlainInteger s.toList with
  | .error .unreadableInteger =>
    match plainInteger? s.toList with
    | some cs => readPlainInteger cs
    | none => .error .unreadableInteger
  | result => result

/-- The floating-point number that a text spells: with blanks around it, or with underscores
in it. -/
def floatOfText? (s : String) : Option Float :=
  Reader.readFloat? (trim s.toList) <|> (withoutUnderscores? s.toList).bind Reader.readFloat?

/-- Whole floating-point numbers of this magnitude, two to the power of 63, or more do not count
as integers. -/
def integerFloatBound : Nat := 0x8000000000000000

/-- The integer that a floating-point number stands for. -/
def integerOfFloat (x : Float) : Except Fault Int :=
  if Binary64.isFinite x then
    match Binary64.wholeValue? x with
    | some n => if n.natAbs < integerFloatBound then .ok n else .error .oversizedInteger
    | none => .error .fractionalInteger
  else .error .notFinite

/-- A truth value as an integer. -/
def integerOfBool (b : Bool) : Int :=
  if b then 1 else 0

/-- The integer that a value stands for. -/
def integerOf : Json → Except Fault Int
  | .number (.int n) => .ok n
  | .number (.float x) => integerOfFloat x
  | .bool b => .ok (integerOfBool b)
  | .text s => integerOfText s
  | .brokenText => .error .brokenText
  | _ => .error .notInteger

/-- A check with the place of its fault. -/
def located {α : Type} (location : List String) (r : Except Fault α) : Checked α :=
  r.mapError fun fault => [⟨fault, location⟩]

/-- A check of a field that has to be there. -/
def required {α : Type} (read : Json → Checked α) (location : List String) :
    Option Json → Checked α
  | some j => read j
  | none => Checked.fail .missing location

/-- Reads an integer. -/
def readInteger (location : List String) (j : Json) : Checked Int :=
  located location (integerOf j)

/-- Reads a text of at least `least` and at most `most` characters. -/
def readText (least most : Nat) (location : List String) : Json → Checked String
  | .text s =>
    if s.length < least then Checked.fail .textTooShort location
    else if most < s.length then Checked.fail .textTooLong location
    else .ok s
  | .brokenText => Checked.fail .brokenText location
  | _ => Checked.fail .notText location

/-- The mistakes of a value that is neither an integer nor a floating-point number. -/
def neither (location : List String) (asInteger asFloat : Fault) : Checked Number :=
  .error [⟨asInteger, location ++ ["int"]⟩, ⟨asFloat, location ++ ["float"]⟩]

/-- Reads a number of either kind; a text is an integer if it spells one. -/
def readNumber (location : List String) : Json → Checked Number
  | .number n => .ok n
  | .bool b => .ok (.int (integerOfBool b))
  | .text s =>
    match integerOfText s, floatOfText? s with
    | .ok n, _ => .ok (.int n)
    | .error _, some x => .ok (.float x)
    | .error fault, none => neither location fault .unreadableFloat
  | .brokenText => neither location .brokenText .brokenText
  | _ => neither location .notInteger .notFloat

/-- The fields of an object with each key once, its last value counting. -/
def lastFields (fields : List (Json.Key × Json)) : List (Json.Key × Json) :=
  match fields with
  | [] => []
  | (key, value) :: rest =>
    if rest.any fun f => f.1 = key then lastFields rest else (key, value) :: lastFields rest

/-- Reads the value of every key. A key that is not Unicode text names no variable, so it binds
nothing, but its value has to be a number all the same. -/
def readBindings (location : List String) : Json → Checked Bindings
  | .object fields =>
    (Checked.each (fun (key, value) =>
      (readNumber (location ++ [key.shown]) value).map fun v => (key, v)) (lastFields fields)).map
      fun bound => Bindings.ofList (bound.filterMap ofKey)
  | _ => Checked.fail .notDict location
where
  /-- A binding of the variable that a key names. -/
  ofKey : Json.Key × Number → Option (String × Number)
    | (.text name, v) => some (name, v)
    | (.broken _, _) => none

end Formulary.Service
