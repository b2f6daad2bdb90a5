import Formulary.Expression.Evaluate

/-!
# Expression trees

The structure that the tokens of an expression stand for: operands at the leaves and operators
between them. A tree has a meaning of its own, without a stack.
-/

namespace Formulary

/-- An operand by its name, or an operator over a left and a right tree. -/
inductive Tree
  | leaf (name : String)
  | node (o : Operator) (left right : Tree)
deriving DecidableEq, Inhabited

namespace Tree

/-- The tokens in operand-first order: those of the left tree, those of the right tree, and then
the operator. -/
def tokens : Tree → List Token
  | leaf name => [.operand name]
  | node o left right => left.tokens ++ right.tokens ++ [.operator o]

/-- The operands from left to right, as often as they occur. -/
def names : Tree → List String
  | leaf name => [name]
  | node _ left right => left.names ++ right.names

/-- The value: that of the left tree, then that of the right tree, then the operation on both. The
first failure ends it. -/
def value (b : Bindings) : Tree → Except Failure Number
  | leaf name =>
    match b.value? name with
    | some v => .ok v
    | none => .error (.unboundToken name)
  | node o left right =>
    match left.value b with
    | .error e => .error e
    | .ok x =>
      match right.value b with
      | .error e => .error e
      | .ok y => (o.apply x y).mapError .arithmetic

/-- Whatever follows the tokens of a tree and whatever is on the stack below, the pass over the
tokens goes on with the tree's value on the stack, or ends with its failure. -/
theorem run_tokens (onMalformed : Failure) (b : Bindings) (t : Tree) (rest : List Token)
    (stack : List Number) :
    run onMalformed b (t.tokens ++ rest) stack =
      match t.value b with
      | .ok v => run onMalformed b rest (v :: stack)
      | .error e => .error e := by
  induction t generalizing rest stack with
  | leaf name =>
    simp only [tokens, value, List.singleton_append, run]
    cases b.value? name <;> rfl
  | node o left right ihl ihr =>
    simp only [tokens, value, List.append_assoc, ihl, ihr, List.singleton_append]
    cases left.value b with
    | error e => rfl
    | ok x =>
      cases right.value b with
      | error e => rfl
      | ok y =>
        simp only [run]
        cases o.apply x y <;> rfl

/-- Whatever follows the tokens of a tree, the check goes on with one value more. -/
theorem checkFormFrom_tokens (t : Tree) (depth : Nat) (rest : List Token) :
    checkFormFrom depth (t.tokens ++ rest) = checkFormFrom (depth + 1) rest := by
  induction t generalizing depth rest with
  | leaf name => cases depth <;> simp [tokens, checkFormFrom]
  | node o left right ihl ihr =>
    simp [tokens, List.append_assoc, ihl, ihr, checkFormFrom]

end Tree

end Formulary
