import Formulary.Assignment
import Formulary.CommandLine.Arguments
import Formulary.CommandLine.Grid
import Formulary.Directory.Operation
import Formulary.Settings

/-!
# The command line program

Three commands that need nothing but their arguments: `postfix` shows an expression in
operand-first order, `solve` evaluates one expression, and `demo` works through an example with
the directory.

## Design notes

A command either prints all of its output or none. The expression is read and checked before the
assignments, so its error is the one that is reported. A failure of one of the known classes is
logged for debugging, with the place where it arose, before it is reported; any other failure ends
the program as it is.
-/

namespace Formulary.CommandLine

/-- What the program is given: its arguments, its standard input and its settings, and from the
interpreter the lines that tell where a failure arose. -/
structure Invocation where
  arguments : List String
  input : String
  settings : Settings
  trace : Failure → List String

/-- Failures that the program does not turn into an error message of its own. -/
inductive Crash
  /-- The threshold for log messages is not the name of a level. -/
  | unknownLevel (name : String)
  /-- An integer has too many digits to be shown. -/
  | integerTooLong
  /-- A failure that is neither one of the library's own nor arithmetic. -/
  | uncaught (e : Failure)

/-- What is printed of a crash. -/
def Crash.message : Crash → String
  | unknownLevel name =>
    let shown := Text.quoted name
    s!"Unknown level: {shown}"
  | integerTooLong => Number.tooLongMessage
  | uncaught e => e.message

/-- How the program ends. -/
inductive Exit
  | code (n : Nat)
  | crash (c : Crash)

/-- What the program gives back: how it ends and the lines that it prints. -/
structure Report where
  exit : Exit
  output : List String
  errors : List String

/-! ## Arguments -/

/-- What the options are for. -/
inductive Key
  | help
  | logLevel
  | expression
  | assignment
  | quiet
deriving DecidableEq

def helpOption : OptionSpec Key := ⟨.help, ["-h", "--help"], false⟩

def expressionOption : OptionSpec Key := ⟨.expression, ["--expr", "-e"], true⟩

/-- The options in front of the command. -/
def mainSpec : ParserSpec Key :=
  { program := "equationkit"
    options := [helpOption, ⟨.logLevel, ["--log-level"], true⟩]
    takesCommand := true }

/-- The commands with their options. -/
def commandSpecs : List (String × ParserSpec Key) :=
  [("postfix", ⟨"equationkit postfix", [helpOption, expressionOption], false⟩),
    ("solve", ⟨"equationkit solve",
      [helpOption, expressionOption, ⟨.assignment, ["--var", "-v"], true⟩,
        ⟨.quiet, ["--quiet", "-q"], false⟩], false⟩),
    ("demo", ⟨"equationkit demo", [helpOption], false⟩)]

/-- What the program is asked to do. -/
inductive Command
  | showTokens (expression : Option String)
  | solve (expression : Option String) (assignments : List String) (quiet : Bool)
  | demo

/-- A command, with the threshold for log messages if one is given. -/
structure Request where
  logLevel : Option String
  command : Command

/-- All values that are given for a key, from left to right. -/
def valuesOf (key : Key) (options : List (Key × Option String)) : List String :=
  options.filterMap fun (k, value) => if k = key then value else none

/-- The last value that is given for an option. -/
def lastOf? (key : Key) (options : List (Key × Option String)) : Option String :=
  (valuesOf key options).getLast?

/-- The command of a name with its options. -/
def commandOf (name : String) (options : List (Key × Option String)) : Command :=
  if name = "postfix" then .showTokens (lastOf? .expression options)
  else if name = "solve" then
    .solve (lastOf? .expression options) (valuesOf .assignment options)
      (options.any fun (k, _) => k = .quiet)
  else .demo

/-- The request that arguments make. -/
def readRequest (arguments : List String) : Except Stop Request := do
  let isHelp (k : Key) : Bool := k = .help
  let main ← parse mainSpec isHelp arguments
  match main.command with
  | none => mainSpec.stop "the following arguments are required: command"
  | some (name, rest) =>
    match commandSpecs.lookup name with
    | none =>
      let known := ", ".intercalate (commandSpecs.map fun (n, _) => Text.quoted n)
      let shown := Text.quoted name
      mainSpec.stop s!"argument command: invalid choice: {shown} (choose from {known})"
    | some spec =>
      let command ← parse spec isHelp rest
      match main.extras ++ command.extras with
      | [] => pure ⟨lastOf? .logLevel main.options, commandOf name command.options⟩
      | extras =>
        let unclaimed := " ".intercalate extras
        mainSpec.stop s!"unrecognized arguments: {unclaimed}"

/-! ## Commands -/

/-- Why a command prints nothing but an error. -/
inductive Problem
  /-- The command finds its own arguments wrong. -/
  | refused (message : String)
  /-- The command fails in the library. -/
  | raised (e : Failure)
  | crash (c : Crash)

/-- The failures that the program reports: those with a code and those of arithmetic. -/
def isReported (kind : ErrorKind) : Bool :=
  kind.code?.isSome || kind = .divisionByZero || kind = .overflow

/-- The expression: the text given as an option if it is not empty, else the standard input
without the blanks around it. -/
def readExpression (option : Option String) (input : String) : Except Problem String :=
  match option with
  | some text => if text.isEmpty then fromInput else .ok text
  | none => fromInput
where
  /-- The standard input without the blanks around it. -/
  fromInput : Except Problem String :=
    match Text.strip input.toList with
    | [] => .error (.refused "give an expression with --expr or on stdin")
    | cs => .ok (String.ofList cs)

/-- Whether a command takes its expression from the standard input. -/
def Command.readsInput : Command → Bool
  | .showTokens option => (option.getD "").isEmpty
  | .solve option _ _ => (option.getD "").isEmpty
  | .demo => false

/-- Whether the arguments ask for a command that takes its expression from the standard input. -/
def readsInput (arguments : List String) : Bool :=
  match readRequest arguments with
  | .ok request => request.command.readsInput
  | .error _ => false

/-- The display form of a value, which is a crash for too many digits. -/
def display (v : Number) : Except Problem String :=
  match v.display? with
  | some s => .ok s
  | none => .error (.crash .integerTooLong)

/-- A table of names with values. -/
def valueTable (title : String) (rows : List (String × String)) : List String :=
  Grid.lines
    { title
      columns := [⟨"Key", false, false⟩, ⟨"Value", false, true⟩]
      showHeader := false
      padEdge := false
      rows := rows.map fun (key, value) => [key, value] }

/-- The tokens of an expression with a space between them. -/
def spacedTokens (f : Formula) : String :=
  " ".intercalate (f.tokens.map Token.text)

/-- Shows an expression in operand-first order, with its variables. -/
def tokenReport (option : Option String) (input : String) : Except Problem (List String) := do
  let text ← readExpression option input
  let f ← (Formula.parse text).mapError fun e => .raised (.parse e)
  pure (valueTable "Expression"
    [("infix", f.text), ("postfix", spacedTokens f),
      ("variables", ", ".intercalate f.names),
      ("required", ", ".intercalate (Text.sortedNames f.names))])

/-- Evaluates an expression and shows the value, alone if `quiet` is set. -/
def solutionReport (option : Option String) (assignments : List String) (quiet : Bool)
    (input : String) : Except Problem (List String) := do
  let text ← readExpression option input
  let e ← (Equation.Simple.make (some 1) (some text)).mapError .raised
  let b ← (Bindings.ofAssignments assignments).mapError fun e => .refused e.message
  let v ← (e.value b).mapError .raised
  let shown ← display v
  pure (if quiet then [shown]
    else valueTable "Solve"
      [("expression", e.formula.text), ("postfix", spacedTokens e.formula), ("result", shown)])

/-- A step of the example: what it is called, the change that it makes, and the equation that is
solved afterwards with the given values. -/
structure DemoStep where
  title : String
  change : Option Operation
  handle : Int
  values : List (String × Int)

/-- The values of the first evaluation in the demonstration. -/
def firstValues : List (String × Int) := [("a", 10), ("b", 5), ("c", 10)]

/-- The values of the second evaluation. -/
def secondValues : List (String × Int) := [("x", 10), ("y", 2), ("z", 3), ("c", 4)]

/-- The example: two equations are made, edited and joined. The joined equation is solved with the
values of both, where the later value of `c` counts. -/
def demoSteps : List DemoStep :=
  let both := firstValues ++ secondValues
  [⟨"create", some (.create (some "a / b + a / b * c")), 1, firstValues⟩,
    ⟨"edit", some (.edit (some 1) (some "a / b + (a / b) * c")), 1, firstValues⟩,
    ⟨"create", some (.create (some "x^y+z+c")), 2, secondValues⟩,
    ⟨"merge", some (.merge (some 1) (some 2) (some "+")), 3, both⟩,
    ⟨"edit child", some (.edit (some 2) (some "x^y+z-c")), 2, secondValues⟩,
    ⟨"re-solve", none, 3, both⟩]

/-- An equation as the example shows it: the text of a simple one, the handles of a composite. -/
def demoLabel : Equation → String
  | .simple e => e.formula.text
  | .composite e => s!"({integerText e.left}) {e.operator.text} ({integerText e.right})"

/-- Works through a step. It gives the row of the table, or the failure, and always the directory
after it and what was reported on the way. -/
def DemoStep.perform (s : DemoStep) (d : Directory) :
    Except Problem (List String) × Directory × List Notice :=
  let changed : Outcome Answer := match s.change with
    | some op => d.perform op
    | none => d.answered (.ok .done)
  let b := Bindings.ofList (s.values.map fun (name, n) => (name, .int n))
  let solved := changed.directory.evaluate (some s.handle) b
  let row := do
    let _ ← changed.result.mapError Problem.raised
    let e ← (changed.directory.get (some s.handle)).mapError Problem.raised
    let v ← solved.result.mapError Problem.raised
    pure [s.title, integerText s.handle, demoLabel e, ← display v]
  (row, changed.directory, changed.notices ++ solved.notices)

/-- Works through steps from first to last and stops at the first failure. -/
def performSteps (d : Directory) :
    List DemoStep → Except Problem (List (List String)) × List Notice
  | [] => (.ok [], [])
  | s :: steps =>
    match s.perform d with
    | (.error p, _, notices) => (.error p, notices)
    | (.ok row, d', notices) =>
      let (rows, later) := performSteps d' steps
      (rows.map (row :: ·), notices ++ later)

/-- The table of the demonstration. -/
def demoTable (rows : List (List String)) : List String :=
  Grid.lines
    { title := "EquationKit demo"
      columns := [⟨"Step", false, true⟩, ⟨"ID", true, false⟩, ⟨"Equation", false, true⟩,
        ⟨"Result", true, false⟩]
      showHeader := true
      padEdge := true
      rows }

/-- The output of `demo` and what the directory reports on the way. -/
def demoReport : Except Problem (List String) × List Notice :=
  let (rows, notices) := performSteps Directory.empty demoSteps
  (rows.map demoTable, notices)

/-- A line of the log. -/
def logLine (level : Level) (logger message : String) : String :=
  s!"{level.text}:{logger}:{message}"

/-- A report of the directory as a line of the log. -/
def noticeLine (n : Notice) : String :=
  logLine n.level "equationkit.directory" n.message

def Command.name : Command → String
  | showTokens _ => "postfix"
  | solve _ _ _ => "solve"
  | demo => "demo"

/-- The lines of the log that tell for debugging where a command failed. -/
def Command.failureLines (c : Command) (trace : List String) : List String :=
  logLine .debug "equationkit" s!"Command {c.name} failed" :: trace

def errorLine (message : String) : String :=
  s!"error: {message}"

/-- Executes a command: its output or its problem, and what was reported on the way. -/
def Command.execute (c : Command) (input : String) :
    Except Problem (List String) × List Notice :=
  match c with
  | .showTokens option => (tokenReport option input, [])
  | .solve option assignments quiet => (solutionReport option assignments quiet input, [])
  | .demo => demoReport

/-- The threshold for log messages: the one given as an option if it is not empty, else that of the
settings, in any letter case. -/
def threshold (option : Option String) (settings : Settings) : Except Crash Level :=
  let name := match option with
    | some text => if text.isEmpty then settings.logLevel else text
    | none => settings.logLevel
  let name := Text.upper name
  match Level.ofName? name with
  | some level => .ok level
  | none => .error (.unknownLevel name)

/-- How the program is used. -/
def usage : String :=
  "usage: equationkit [-h] [--log-level LOG_LEVEL] \x7bpostfix,solve,demo\x7d ..."

/-- What a command gives back with a result, after it has written `log`. Before a failure of the
library is reported, the place where it arose is logged for debugging. -/
def Command.report (c : Command) (level : Level) (trace : Failure → List String)
    (log : List String) : Except Problem (List String) → Report
  | .ok output => ⟨.code 0, output, log⟩
  | .error (.refused message) => ⟨.code 1, [], log ++ [errorLine message]⟩
  | .error (.raised e) =>
    if isReported e.kind then
      let debug := if level.passes .debug then c.failureLines (trace e) else []
      ⟨.code 1, [], log ++ debug ++ [errorLine e.message]⟩
    else ⟨.crash (.uncaught e), [], log⟩
  | .error (.crash c) => ⟨.crash c, [], log⟩

/-- Serves a request: the command, and of what was reported on the way all that passes the
threshold. -/
def Request.execute (r : Request) (i : Invocation) : Report :=
  match threshold r.logLevel i.settings with
  | .error c => ⟨.crash c, [], []⟩
  | .ok level =>
    let (result, notices) := r.command.execute i.input
    r.command.report level i.trace ((notices.filter (·.passes level)).map noticeLine) result

/-- Everything that the program does. -/
def execute (i : Invocation) : Report :=
  match readRequest i.arguments with
  | .error .help => ⟨.code 0, [usage], []⟩
  | .error (.wrong program message) => ⟨.code 2, [], [s!"{program}: error: {message}"]⟩
  | .ok request => request.execute i

end Formulary.CommandLine
