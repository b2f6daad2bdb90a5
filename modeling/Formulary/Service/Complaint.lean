/-!
# Complaints about requests

What a framework can find wrong with the form of a request, before anything is asked of the
directory. A check may find several mistakes, and all of them are reported.
-/

namespace Formulary.Service

/-- What is wrong with one place of a request. -/
inductive Fault
  | missing
  | invalidJson
  | notObject
  | notDict
  | notText
  | brokenText
  | textTooLong
  | textTooShort
  | notInteger
  | unreadableInteger
  | oversizedInteger
  | fractionalInteger
  | notFinite
  | notFloat
  | unreadableFloat
deriving DecidableEq

/-- The name of a fault. -/
def Fault.name : Fault → String
  | missing => "missing"
  | invalidJson => "json_invalid"
  | notObject => "model_attributes_type"
  | notDict => "dict_type"
  | notText => "string_type"
  | brokenText => "string_unicode"
  | textTooLong => "string_too_long"
  | textTooShort => "string_too_short"
  | notInteger => "int_type"
  | unreadableInteger => "int_parsing"
  | oversizedInteger => "int_parsing_size"
  | fractionalInteger => "int_from_float"
  | notFinite => "finite_number"
  | notFloat => "float_type"
  | unreadableFloat => "float_parsing"

/-- A mistake and the way to the part of the request in which it was found. -/
structure Complaint where
  fault : Fault
  location : List String
deriving DecidableEq

/-- The result of a check that may find several mistakes. -/
abbrev Checked (α : Type) := Except (List Complaint) α

namespace Checked

/-- A check that finds one fault. -/
def fail {α : Type} (fault : Fault) (location : List String) : Checked α :=
  .error [⟨fault, location⟩]

/-- Two checks side by side; the mistakes of both are reported. -/
def both {α β γ : Type} (f : α → β → γ) : Checked α → Checked β → Checked γ
  | .ok a, .ok b => .ok (f a b)
  | .error xs, .error ys => .error (xs ++ ys)
  | .error xs, .ok _ => .error xs
  | .ok _, .error ys => .error ys

/-- The same check on every item of a list; the mistakes of all are reported. -/
def each {α β : Type} (f : α → Checked β) : List α → Checked (List β)
  | [] => .ok []
  | a :: as => both (· :: ·) (f a) (each f as)

end Checked

end Formulary.Service
