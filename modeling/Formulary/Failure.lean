import Formulary.Arithmetic
import Formulary.Expression.Infix
import Formulary.Number.Text

/-!
# Failures

Everything that a request about equations can be refused for. A `Failure` is a cause with its data.
What a caller sees of it is less: the class of the cause, which other programs rely on, and a
message for people. A message that would have to name a handle of too many digits cannot be written,
and the caller sees a refusal to write it in place of the cause.
-/

namespace Formulary

/-- The two kinds of equation. -/
inductive Equation.Kind
  | simple
  | composite
deriving DecidableEq, Inhabited

/-- The name of a kind. -/
def Equation.Kind.text : Equation.Kind → String
  | simple => "simple"
  | composite => "composite"

/-- A handle that a request names; it may be missing. -/
abbrev Reference := Option Int

/-- A handle in decimal, or the word `None` for a missing one. -/
def Reference.text : Reference → String
  | some handle => integerText handle
  | none => "None"

/-- A handle can be written if it has no more digits than the text of an integer may have. -/
def Reference.isWritable (r : Reference) : Bool :=
  r.all fitsDisplay

/-- Everything that a request about equations can be refused for, with its data. -/
inductive Failure
  /-- An equation of this kind was to be made without an id. -/
  | missingId (kind : Equation.Kind)
  /-- An equation was to be made or changed without a text. -/
  | missingText
  /-- The text of an equation is not an expression. -/
  | parse (e : ParseError)
  /-- A text that names no operator; it may be missing. -/
  | unknownOperator (symbol : Option String)
  /-- A composite needs two equations, and one was not named. -/
  | unnamedOperand
  /-- A composite needs two equations, and this one does not exist. -/
  | missingOperand (handle : Int)
  /-- A composite may not refer to itself. -/
  | selfReference (id : Int)
  /-- A composite has no text that could be changed. -/
  | notSimple (id : Int)
  /-- No equation has this handle. -/
  | notFound (handle : Reference)
  /-- A variable that the equation needs is not bound. -/
  | unboundVariable (name : String)
  /-- An operation of the equation has no result. -/
  | arithmetic (e : ArithmeticError)
  /-- The result is infinite or not a number where only finite numbers can be sent. -/
  | notFinite (value : Number)
  /-- Tokens that are not an expression in operand-first order were to be evaluated. -/
  | malformed (tokens : String)
  /-- A token names an operand that is neither bound nor among the variables. -/
  | unboundToken (name : String)
  /-- Composites refer to each other in a circle. -/
  | circular

/-- The message for people. -/
def ArithmeticError.message : ArithmeticError → String
  | integerDivisionByZero => "division by zero"
  | floatDivisionByZero => "float division by zero"
  | zeroToNegativePower => "0.0 cannot be raised to a negative power"
  | integerTooLarge => "int too large to convert to float"
  | quotientTooLarge => "integer division result too large for a float"
  | powerTooLarge => "(34, 'Numerical result out of range')"
  | unrealPowerTooLarge => "complex exponentiation"
  | notReal left right => s!"{left.text} ^ {right.text} has no real value"

/-- A division by zero, also one hidden in a negative power of zero. -/
def ArithmeticError.isDivisionByZero : ArithmeticError → Bool
  | integerDivisionByZero | floatDivisionByZero | zeroToNegativePower => true
  | _ => false

/-- The result would not be a real number. -/
def ArithmeticError.isNotReal : ArithmeticError → Bool
  | notReal _ _ => true
  | _ => false

/-- The classes that failures are told apart by. -/
inductive ErrorKind
  | missingId
  | emptyExpression
  | invalidExpression
  | invalidOperator
  | missingOperand
  | selfReference
  | notSimple
  | notReal
  | notFinite
  | notFound
  | unboundVariable
  | divisionByZero
  | overflow
  | malformed
  | unboundToken
  | circular
  /-- The message of the failure cannot be written. -/
  | unwritable
deriving DecidableEq, Inhabited

namespace ErrorKind

/-- The stable code of a class. The arithmetic of integers and floating-point numbers and the
program itself fail without one. -/
def code? : ErrorKind → Option String
  | missingId => some "MISSING_ID"
  | emptyExpression => some "EMPTY_EXPRESSION"
  | invalidExpression => some "INVALID_EXPRESSION"
  | invalidOperator => some "INVALID_OPERATOR"
  | missingOperand => some "MISSING_OPERAND"
  | selfReference => some "CYCLIC_COMPOSITION"
  | notSimple => some "NOT_SIMPLE_EQUATION"
  | notReal => some "NON_REAL_RESULT"
  | notFinite => some "NON_FINITE_RESULT"
  | notFound => some "NOT_FOUND"
  | unboundVariable => some "UNDEFINED_VARIABLE"
  | divisionByZero | overflow | malformed | unboundToken | circular | unwritable => none

end ErrorKind

/-- The class of an arithmetic failure. -/
def ArithmeticError.kind (e : ArithmeticError) : ErrorKind :=
  if e.isNotReal then .notReal else if e.isDivisionByZero then .divisionByZero else .overflow

/-- What a caller sees of a failure. -/
structure Raised where
  kind : ErrorKind
  message : String
deriving DecidableEq

namespace Failure

/-- The message about a handle without an equation. -/
def unknownHandle (handle : Reference) : String :=
  s!"Equation with ID {handle.text} doesn't exist"

/-- The message for people, however long the handle in it is. -/
def wording : Failure → String
  | missingId .simple => "ID is required to create an equation"
  | missingId .composite => "ID must be specified"
  | missingText => "Expression is required to create or update an equation"
  | parse e => e.message
  | unknownOperator symbol =>
    let shown := Text.quotedOrNone symbol
    s!"Invalid operator: {shown}"
  | unnamedOperand => "Both equations must be specified"
  | missingOperand handle => unknownHandle (some handle)
  | selfReference id => s!"Equation {integerText id} cannot be composed with itself"
  | notSimple id => s!"Equation {integerText id} is a composite and has no expression to edit"
  | notFound handle => unknownHandle handle
  | unboundVariable name => s!"Undefined variable {name} to solve the equation"
  | arithmetic e => e.message
  | notFinite value => s!"Result is not a finite number: {value.text}"
  | malformed tokens =>
    let shown := Text.quoted tokens
    s!"malformed postfix {shown}"
  | unboundToken name => Text.quoted name
  | circular => "maximum recursion depth exceeded"

/-- The class of the cause. -/
def cause : Failure → ErrorKind
  | missingId _ => .missingId
  | missingText => .emptyExpression
  | parse .blank => .emptyExpression
  | parse _ => .invalidExpression
  | unknownOperator _ => .invalidOperator
  | unnamedOperand => .missingOperand
  | missingOperand _ => .missingOperand
  | selfReference _ => .selfReference
  | notSimple _ => .notSimple
  | notFound _ => .notFound
  | unboundVariable _ => .unboundVariable
  | arithmetic e => e.kind
  | notFinite _ => .notFinite
  | malformed _ => .malformed
  | unboundToken _ => .unboundToken
  | circular => .circular

/-- The handle that the message names, if it names one. -/
def handle : Failure → Reference
  | missingOperand handle => some handle
  | selfReference id => some id
  | notSimple id => some id
  | notFound handle => handle
  | _ => none

/-- A message is put together when its failure arises, which takes that the handle in it can be
written. -/
def isWritable (e : Failure) : Bool :=
  e.handle.isWritable

/-- What a caller sees: the cause, or that its message could not be written. -/
def raised (e : Failure) : Raised :=
  if e.isWritable then ⟨e.cause, e.wording⟩ else ⟨.unwritable, Number.tooLongMessage⟩

/-- The class of a failure. A failure whose message cannot be written is of the class for that. -/
def kind (e : Failure) : ErrorKind :=
  e.raised.kind

/-- The message for people, about what a caller is told of. -/
def message (e : Failure) : String :=
  e.raised.message

end Failure

end Formulary
