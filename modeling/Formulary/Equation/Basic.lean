import Formulary.Expression.Evaluate

/-!
# Equations

An equation is either *simple*, with an expression of its own, or *composite*, with two other
equations joined by an operator. A composite names its operands by handle and looks them up each
time it is asked, so it always sees their latest state.
-/

namespace Formulary

/-- An equation with an expression of its own. -/
structure Equation.Simple where
  id : Int
  formula : Formula
deriving DecidableEq, Inhabited

/-- Two other equations, named by handle, joined by an operator. -/
structure Equation.Composite where
  id : Int
  left : Int
  right : Int
  operator : Operator
deriving DecidableEq, Inhabited

/-- An equation of either kind. -/
inductive Equation
  | simple (e : Equation.Simple)
  | composite (e : Equation.Composite)
deriving DecidableEq, Inhabited

/-- Finds the equation with a handle. -/
abbrev Lookup := Int → Option Equation

/-- The operator that a text names; a missing text names none. -/
def Operator.require (symbol : Option String) : Except Failure Operator :=
  match symbol.bind Operator.ofText? with
  | some o => .ok o
  | none => .error (.unknownOperator symbol)

namespace Equation.Simple

/-- What reads the text of an expression. -/
abbrev Parser := String → Except ParseError Formula

/-- Reads the text of an equation; a missing and an empty text are refused before it is read. -/
def readText (parser : Parser) (text : Option String) : Except Failure Formula :=
  match text with
  | none => .error .missingText
  | some s => if s.isEmpty then .error .missingText else (parser s).mapError .parse

/-- Makes an equation from an id and a text, with a given reader of texts. -/
def makeWith (parser : Parser) (id : Option Int) (text : Option String) :
    Except Failure Equation.Simple :=
  match id with
  | none => .error (.missingId .simple)
  | some id => (readText parser text).map fun formula => { id, formula }

/-- Makes an equation, which needs a handle and a text. -/
def make : Option Int → Option String → Except Failure Equation.Simple :=
  makeWith Formula.parse

/-- Gives an equation a new text. -/
def revise (e : Equation.Simple) (text : Option String) : Except Failure Equation.Simple :=
  (readText Formula.parse text).map fun formula => { e with formula }

/-- The value of the expression. -/
def value (e : Equation.Simple) (b : Bindings) : Except Failure Number :=
  e.formula.value b

/-- The one-line form of an equation. -/
def label (e : Equation.Simple) : String :=
  let shown := Text.quoted e.formula.text
  s!"SimpleEquation(id={integerText e.id}, expression={shown})"

end Equation.Simple

namespace Equation.Composite

/-- Fails unless an equation with this handle exists. -/
def requireOperand (find : Lookup) (handle : Int) : Except Failure Unit :=
  match find handle with
  | some _ => .ok ()
  | none => .error (.missingOperand handle)

/-- Makes a composite from an id, two handles and the symbol of an operator. The checks come in
this order: an id, both handles, the operator, no reference to itself, and the existence of the
left and then of the right operand. -/
def make (find : Lookup) (id : Option Int) (left right : Reference) (symbol : Option String) :
    Except Failure Equation.Composite :=
  match id, left, right with
  | none, _, _ => .error (.missingId .composite)
  | some id, some left, some right => do
    let operator ← Operator.require symbol
    if id = left ∨ id = right then .error (.selfReference id)
    requireOperand find left
    requireOperand find right
    pure { id, left, right, operator }
  | _, _, _ => .error .unnamedOperand

def label (e : Equation.Composite) : String :=
  let operands := s!"{integerText e.left} {e.operator.text} {integerText e.right}"
  s!"CompositeEquation(id={integerText e.id}, {operands})"

end Equation.Composite

namespace Equation

/-- The handle of an equation. -/
def id : Equation → Int
  | simple e => e.id
  | composite e => e.id

/-- The kind of an equation. -/
def kind : Equation → Equation.Kind
  | simple _ => .simple
  | composite _ => .composite

def label : Equation → String
  | simple e => e.label
  | composite e => e.label

end Equation

end Formulary
