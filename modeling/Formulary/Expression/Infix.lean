import Formulary.Expression.Token
import Formulary.Text.Blank
import Formulary.Text.Quoted

/-!
# Reading written expressions

The text of an expression holds operands of one character, operators between them, and brackets.
Reading it puts every operator after its operands. While the text is scanned, the operators that
still wait for their right operand are kept on a stack together with the open brackets.

An operator first puts out every waiting operator of its bracket group that binds tighter, and
then waits itself. Operators that bind alike never put each other out, so a chain of them groups
to the right.

## Main definitions

* `ParseError` — why a text is refused, with `message` and `index?`
* `Symbol`, `Symbol.ofChar` — what a character of the text means
* `scan` — the tokens of a text in operand-first order
* `checkForm` — whether tokens form exactly one expression
* `Formula`, `Formula.parse` — an accepted text with its tokens and the names of its operands

## Design notes

`scan` puts tokens in front of what the rest of the text gives, so it carries nothing but the
stack. The operands of the text never wait, and `operands` reads them off the text alone.
-/

namespace Formulary

/-- Why a text is not an expression. Positions count the characters of the text from zero. -/
inductive ParseError
  /-- The text is missing or all blank. -/
  | blank
  /-- A character that means nothing in an expression. -/
  | invalidCharacter (c : Char) (index : Nat)
  /-- A closing bracket without an open one. -/
  | unmatchedClose (index : Nat)
  /-- An open bracket that is never closed. -/
  | unmatchedOpen
  /-- An operator with fewer than two values before it. -/
  | missingOperand (o : Operator)
  /-- Nothing but brackets. -/
  | noOperands
  /-- Values that no operator joins. -/
  | missingOperator
deriving DecidableEq

namespace ParseError

/-- The message for people. -/
def message : ParseError → String
  | blank => "An expression is required"
  | invalidCharacter c i =>
    let shown := Text.quoted (String.singleton c)
    s!"Invalid character {shown} in expression at index {i}"
  | unmatchedClose i => s!"Unmatched ')' in expression at index {i}"
  | unmatchedOpen => "Unmatched '(' in expression"
  | missingOperand o => s!"Operator '{o.text}' is missing an operand"
  | noOperands => "Expression has no operands"
  | missingOperator => "Operands must be separated by an operator"

/-- The position of the character at fault, if a single one is. -/
def index? : ParseError → Option Nat
  | invalidCharacter _ i => some i
  | unmatchedClose i => some i
  | _ => none

end ParseError

/-- What a character of the text of an expression means. -/
inductive Symbol
  | blank
  | operand
  | openBracket
  | closeBracket
  | operator (o : Operator)
  | invalid
deriving DecidableEq

/-- An ASCII letter or digit names an operand. -/
def isOperandChar (c : Char) : Bool :=
  ('A' ≤ c && c ≤ 'Z') || ('a' ≤ c && c ≤ 'z') || ('0' ≤ c && c ≤ '9')

/-- What a character of the text means. -/
def Symbol.ofChar (c : Char) : Symbol :=
  if Text.isBlank c then blank
  else if isOperandChar c then operand
  else if c = '(' then openBracket
  else if c = ')' then closeBracket
  else
    match Operator.ofSymbol? c with
    | some o => operator o
    | none => invalid

/-- What waits on the stack: an open bracket or an operator. -/
inductive Waiting
  | bracket
  | operator (o : Operator)
deriving DecidableEq

/-- Operators as tokens. -/
def operatorTokens (os : List Operator) : List Token :=
  os.map .operator

/-- The operand that a character names, as a token. -/
def operandToken (c : Char) : Token :=
  .operand (String.singleton c)

namespace Waiting

/-- Takes the operators that bind tighter than `o` off the top of the stack, up to the innermost
bracket. -/
def releaseTighter (o : Operator) : List Waiting → List Operator × List Waiting
  | .operator t :: stack =>
    if t.looseness < o.looseness then
      let (released, rest) := releaseTighter o stack
      (t :: released, rest)
    else ([], .operator t :: stack)
  | stack => ([], stack)

/-- Takes the operators of the innermost bracket group and its bracket off the stack; nothing if
no bracket is open. -/
def closeGroup? : List Waiting → Option (List Operator × List Waiting)
  | [] => none
  | .bracket :: stack => some ([], stack)
  | .operator t :: stack => (closeGroup? stack).map fun (released, rest) => (t :: released, rest)

/-- Takes all operators off the stack; nothing if a bracket is still open. -/
def releaseAll? : List Waiting → Option (List Operator)
  | [] => some []
  | .bracket :: _ => none
  | .operator t :: stack => (releaseAll? stack).map (t :: ·)

end Waiting

/-- The tokens that the rest of a text gives, in operand-first order. The rest starts at the
position `index` of the text, and `stack` holds what waits from before. -/
def scan : (index : Nat) → (stack : List Waiting) → List Char → Except ParseError (List Token)
  | _, stack, [] =>
    match Waiting.releaseAll? stack with
    | some released => .ok (operatorTokens released)
    | none => .error .unmatchedOpen
  | i, stack, c :: cs =>
    match Symbol.ofChar c with
    | .blank => scan (i + 1) stack cs
    | .operand => (scan (i + 1) stack cs).map (operandToken c :: ·)
    | .openBracket => scan (i + 1) (.bracket :: stack) cs
    | .closeBracket =>
      match Waiting.closeGroup? stack with
      | some (released, rest) => (scan (i + 1) rest cs).map (operatorTokens released ++ ·)
      | none => .error (.unmatchedClose i)
    | .operator o =>
      let (released, rest) := Waiting.releaseTighter o stack
      (scan (i + 1) (.operator o :: rest) cs).map (operatorTokens released ++ ·)
    | .invalid => .error (.invalidCharacter c i)

/-- The operands of a text by name, from left to right, as often as they occur. -/
def operands (cs : List Char) : List String :=
  (cs.filter isOperandChar).map String.singleton

/-- Checks tokens from left to right, where `depth` values are at hand: every operator needs two,
and one value has to remain at the end. -/
def checkFormFrom : (depth : Nat) → List Token → Except ParseError Unit
  | 0, [] => .error .noOperands
  | 1, [] => .ok ()
  | _ + 2, [] => .error .missingOperator
  | depth, .operand _ :: ts => checkFormFrom (depth + 1) ts
  | depth + 2, .operator _ :: ts => checkFormFrom (depth + 1) ts
  | _, .operator o :: _ => .error (.missingOperand o)

/-- Whether tokens form exactly one expression in operand-first order. -/
def checkForm (ts : List Token) : Except ParseError Unit :=
  checkFormFrom 0 ts

/-- An expression: its text, its tokens in operand-first order, and the names of its operands, in
the order of the text and as often as they occur. -/
structure Formula where
  text : String
  tokens : List Token
  names : List String
deriving DecidableEq, Inhabited

namespace Formula

/-- An accepted text with its tokens and the names of its operands. It has to scan, and its tokens
have to pass the check. -/
def parse (text : String) : Except ParseError Formula :=
  let cs := text.toList
  if Text.allBlank cs then .error .blank
  else do
    let tokens ← scan 0 [] cs
    checkForm tokens
    pure { text, tokens, names := operands cs }

/-- The tokens of an expression without anything in between. -/
def joinedTokens (f : Formula) : String :=
  Token.joined f.tokens

end Formula

end Formulary
