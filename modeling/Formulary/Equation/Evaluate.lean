import Formulary.Equation.Basic
import Formulary.Text.Names

/-!
# Asking equations

The value of an equation, the variables it needs, and its description. Composites look their
operands up when they are asked, the left one first.

## Design notes

The number given to `value` and `required` bounds how deep composites may be nested. Where the
operands of a composite always have smaller handles, the handle is such a bound; in general the
count of all equations is, unless composites refer to each other in a circle.
-/

namespace Formulary

/-- The equation with a handle, or the failure that there is none. -/
def Lookup.get (find : Lookup) (handle : Int) : Except Failure Equation :=
  match find handle with
  | some e => .ok e
  | none => .error (.notFound (some handle))

namespace Equation

/-- The value of an equation. A composite evaluates its left operand, then its right one, and
applies its operator; the first failure ends it. -/
def value (find : Lookup) (b : Bindings) : (depth : Nat) → Equation → Except Failure Number
  | _, simple e => e.value b
  | 0, composite _ => .error .circular
  | depth + 1, composite e => do
    let left ← value find b depth (← find.get e.left)
    let right ← value find b depth (← find.get e.right)
    (e.operator.apply left right).mapError .arithmetic

/-- The names that have to be bound, in ascending order and without repetition. -/
def required (find : Lookup) : (depth : Nat) → Equation → Except Failure (List String)
  | _, simple e => .ok (Text.sortedNames e.formula.names)
  | 0, composite _ => .error .circular
  | depth + 1, composite e => do
    let left ← required find depth (← find.get e.left)
    let right ← required find depth (← find.get e.right)
    pure (Text.sortedNames (left ++ right))

end Equation

/-- What is told about an equation: the equation itself and the names it needs. -/
structure Description where
  equation : Equation
  required : List String
deriving DecidableEq, Inhabited

/-- Describes an equation. A composite whose operands are not all there needs no names: asking
for its value will report what is missing. No other failure is passed over. -/
def Equation.describe (find : Lookup) (depth : Nat) (e : Equation) : Except Failure Description :=
  match e.required find depth with
  | .ok names => .ok ⟨e, names⟩
  | .error (.notFound _) => .ok ⟨e, []⟩
  | .error failure => .error failure

end Formulary
