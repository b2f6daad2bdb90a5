import Formulary.Expression.Tree

/-!
# The grammar of expressions

The tidy expressions: operators between operands, brackets around groups. Powers bind tighter
than products and quotients, those tighter than sums and differences, and every chain of one
strength groups to the right.
-/

namespace Formulary

/-- `Derives n cs t`: the text `cs` without blanks is an expression with the tree `t` whose
operators outside brackets have a looseness below `n`. -/
inductive Derives : Nat → List Char → Tree → Prop
  /-- A letter or a digit is an operand. -/
  | operand {c : Char} : isOperandChar c = true → Derives 0 [c] (.leaf (String.singleton c))
  /-- Any expression may stand in brackets. -/
  | group {cs : List Char} {t : Tree} : Derives 3 cs t → Derives 0 ('(' :: cs ++ [')']) t
  /-- An expression that holds its operands tighter than needed. -/
  | tighter {n : Nat} {cs : List Char} {t : Tree} : Derives n cs t → Derives (n + 1) cs t
  /-- An operator between a tighter expression and one of its own strength. -/
  | join {n : Nat} {xs ys : List Char} {left right : Tree} {o : Operator} :
      o.looseness = n → Derives n xs left → Derives (n + 1) ys right →
      Derives (n + 1) (xs ++ o.symbol :: ys) (.node o left right)

/-- A text that is a tidy expression once its blanks are removed. -/
def Written (text : String) (t : Tree) : Prop :=
  Derives 3 (text.toList.filter fun c => !Text.isBlank c) t

end Formulary
