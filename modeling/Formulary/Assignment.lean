import Formulary.Bindings
import Formulary.Number.Reader
import Formulary.Text.Quoted

/-!
# Assignments

Bindings written as texts of the form `NAME=VALUE`. The first `=` separates the two; blanks
around the name and around the value do not matter.
-/

namespace Formulary

/-- Why a text is refused. -/
inductive AssignmentError
  /-- There is no `=`, or no name in front of it. -/
  | noName (pair : String)
  /-- The value is not a number. -/
  | notNumber (name value : String)
deriving DecidableEq

/-- The message for people. -/
def AssignmentError.message : AssignmentError → String
  | noName pair =>
    let shown := Text.quoted pair
    s!"bad variable {shown}, expected NAME=VALUE"
  | notNumber name value =>
    let shownName := Text.quoted name
    let shownValue := Text.quoted value
    s!"value of {shownName} is not a number: {shownValue}"

namespace Assignment

/-- The parts of a text in front of its first `=` and behind it. -/
def split? (cs : List Char) : Option (List Char × List Char) :=
  match cs.dropWhile (· ≠ '=') with
  | _ :: value => some (cs.takeWhile (· ≠ '='), value)
  | [] => none

/-- The name and the number of one text. -/
def read (pair : String) : Except AssignmentError (String × Number) :=
  match split? pair.toList with
  | none => .error (.noName pair)
  | some (before, after) =>
    let name := Text.strip before
    if name.isEmpty then .error (.noName pair)
    else
      let value := String.ofList after
      match Number.read? value with
      | some n => .ok (String.ofList name, n)
      | none => .error (.notNumber (String.ofList name) value)

end Assignment

namespace Bindings

/-- Reads assignments from first to last and stops at the first one that is refused. -/
def addAssignments (b : Bindings) : List String → Except AssignmentError Bindings
  | [] => .ok b
  | pair :: pairs =>
    match Assignment.read pair with
    | .ok (name, n) => addAssignments (b.bind name n) pairs
    | .error e => .error e

/-- The bindings of a list of texts, where the last value of a name wins. -/
def ofAssignments : List String → Except AssignmentError Bindings :=
  addAssignments empty

end Bindings

end Formulary
