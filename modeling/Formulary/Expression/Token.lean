import Formulary.Operator

/-!
# Tokens

The tokens of an expression in operand-first order, where every operator follows its operands.
-/

namespace Formulary

/-- An operator, or an operand by its name. -/
inductive Token
  | operator (o : Operator)
  | operand (name : String)
deriving DecidableEq, Inhabited

namespace Token

/-- The symbol of an operator or the name of an operand. -/
def text : Token → String
  | operator o => o.text
  | operand name => name

/-- A text that names an operator is that operator, any other text is an operand. -/
def ofText (s : String) : Token :=
  match Operator.ofText? s with
  | some o => operator o
  | none => operand s

/-- The texts of the tokens, one after the other with nothing in between. -/
def joined (ts : List Token) : String :=
  String.join (ts.map text)

/-- Reading a text as a token keeps the text. -/
@[simp]
theorem text_ofText (s : String) : (ofText s).text = s := by
  unfold ofText
  split
  · next o h => exact (Operator.ofText?_eq_some_iff.mp h).symm
  · rfl

end Token

end Formulary
