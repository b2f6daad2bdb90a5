import Formulary.Bindings
import Formulary.Failure

/-!
# Evaluating an expression

A single pass over the tokens of an expression with a stack of values.
-/

namespace Formulary

/-- The first of the names that is not bound. -/
def firstUnbound? (b : Bindings) (names : List String) : Option String :=
  names.find? fun name => (b.value? name).isNone

/-- Works through tokens with the values at hand on a stack, the latest on top. An operator
takes its right operand off the stack before its left one. Tokens that leave an operator without
operands, or more or less than one value at the end, give `onMalformed`. -/
def run (onMalformed : Failure) (b : Bindings) :
    List Token → (stack : List Number) → Except Failure Number
  | [], [v] => .ok v
  | [], _ => .error onMalformed
  | .operand name :: ts, stack =>
    match b.value? name with
    | some v => run onMalformed b ts (v :: stack)
    | none => .error (.unboundToken name)
  | .operator o :: ts, right :: left :: stack =>
    match o.apply left right with
    | .ok v => run onMalformed b ts (v :: stack)
    | .error e => .error (.arithmetic e)
  | .operator _ :: _, _ => .error onMalformed

/-- The value of an expression. All its names have to be bound before any arithmetic starts. -/
def Formula.value (f : Formula) (b : Bindings) : Except Failure Number :=
  match firstUnbound? b f.names with
  | some name => .error (.unboundVariable name)
  | none => run (.malformed f.joinedTokens) b f.tokens []

end Formulary
