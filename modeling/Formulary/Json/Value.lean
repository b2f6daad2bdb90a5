import Formulary.Number.Basic

/-!
# JSON values

A value of the data format, and how the fields of an object are looked up. The format lets a text
name a surrogate that is no half of a pair. Such a text is not Unicode text: as a value it is kept
without its contents, as a key with them, since two keys may differ in nothing else.
-/

namespace Formulary

/-- The key of a field: a text, or the code points of one that is not Unicode text. -/
inductive Json.Key
  | text (s : String)
  | broken (points : List Nat)
deriving DecidableEq, Inhabited

/-- The text of a key; what is not Unicode text is shown as the replacement character. -/
def Json.Key.shown : Json.Key → String
  | text s => s
  | broken _ => "\uFFFD"

/-- A value of the JSON data format. Integers keep every digit, all other numbers are
floating-point numbers. -/
inductive Json
  | null
  | bool (b : Bool)
  | number (n : Number)
  | text (s : String)
  | brokenText
  | list (items : List Json)
  | object (fields : List (Json.Key × Json))
deriving Inhabited

namespace Json

/-- The value of a key in a list of fields; of several fields with the key the last one counts. -/
def lastField? (key : String) : List (Key × Json) → Option Json
  | [] => none
  | (k, v) :: rest =>
    match lastField? key rest with
    | some later => some later
    | none => if k = .text key then some v else none

/-- The value that an object gives a key; other values have no keys. -/
def field? (key : String) : Json → Option Json
  | object fields => lastField? key fields
  | _ => none

end Json

end Formulary
