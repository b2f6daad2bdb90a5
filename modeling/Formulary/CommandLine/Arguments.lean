import Formulary.Text.Digit
import Formulary.Text.Quoted

/-!
# Reading a command line

Options may stand anywhere before and after the command they belong to. A long option may be
shortened as long as one name only starts that way, its value may follow in the next argument or
after `=`. One-letter options may be run together, and the rest of such an argument is the value
of the first option in it that takes one. An `=` behind the first letter of such an argument does
not count, an `=` behind a later one belongs to the value.
-/

namespace Formulary.CommandLine

/-- An option: what it is for, its names, and whether it takes a value. -/
structure OptionSpec (κ : Type) where
  key : κ
  names : List String
  takesValue : Bool

/-- A parser: the name under which it reports errors, its options, and whether a command is
expected after them. -/
structure ParserSpec (κ : Type) where
  program : String
  options : List (OptionSpec κ)
  takesCommand : Bool

/-- Why reading ends early: help was asked for, or the arguments are wrong. -/
inductive Stop
  | help
  | wrong (program message : String)
deriving DecidableEq

/-- What a single argument is. -/
inductive Kind (κ : Type)
  /-- Not an option. -/
  | plain
  /-- The separator after which nothing is an option. -/
  | separator
  /-- A known option by one of its names, perhaps with more text in the same argument. -/
  | known (spec : OptionSpec κ) (name : List Char) (attached : Option (List Char))
  /-- It looks like an option and is none that the parser knows. -/
  | unknown

/-- The options with their values from left to right, the command with its own arguments, and the
arguments that nobody claims. -/
structure Parsed (κ : Type) where
  options : List (κ × Option String)
  command : Option (String × List String)
  extras : List String

variable {κ : Type}

namespace OptionSpec

/-- The names of an option, as messages show them. -/
def title (o : OptionSpec κ) : String :=
  "/".intercalate o.names

/-- The complaint about an option without its value. -/
def missingValue (o : OptionSpec κ) : String :=
  s!"argument {o.title}: expected one argument"

/-- The complaint about an option with a value that it does not take. -/
def unusedValue (o : OptionSpec κ) (value : List Char) : String :=
  let shown := Text.quoted (String.ofList value)
  s!"argument {o.title}: ignored explicit argument {shown}"

end OptionSpec

namespace ParserSpec

/-- All names with their options, in the order in which they were declared. -/
def namesOf (p : ParserSpec κ) : List (OptionSpec κ × List Char) :=
  p.options.flatMap fun o => o.names.map fun name => (o, name.toList)

/-- The option of a name. -/
def find? (p : ParserSpec κ) (name : List Char) : Option (OptionSpec κ) :=
  (p.namesOf.find? fun (_, n) => n = name).map (·.1)

/-- Reading ends with a complaint. -/
def stop {α : Type} (p : ParserSpec κ) (message : String) : Except Stop α :=
  .error (.wrong p.program message)

end ParserSpec

/-- An argument in front of its first `=` and behind it. -/
def splitEquals (cs : List Char) : List Char × Option (List Char) :=
  match cs.dropWhile (· ≠ '=') with
  | _ :: value => (cs.takeWhile (· ≠ '='), some value)
  | [] => (cs, none)

/-- A minus and a decimal number, with or without a fraction, perhaps before a line end. -/
def isNegativeNumber (cs : List Char) : Bool :=
  let isDigit (c : Char) : Bool := (Text.digitValue? c).isSome
  match cs with
  | '-' :: unsigned =>
    let body := if unsigned.getLast? = some '\n' then unsigned.dropLast else unsigned
    let (whole, rest) := body.span isDigit
    match rest with
    | [] => !whole.isEmpty
    | '.' :: fraction => !fraction.isEmpty && fraction.all isDigit
    | _ => false
  | _ => false

/-- The options that a shortened or run-together argument may mean. -/
def candidates (p : ParserSpec κ) (cs : List Char) :
    List (OptionSpec κ × List Char × Option (List Char)) :=
  if ['-', '-'].isPrefixOf cs then
    let (start, value) := splitEquals cs
    (p.namesOf.filter fun (_, name) => start.isPrefixOf name).map fun (o, name) => (o, name, value)
  else
    p.namesOf.filterMap fun (o, name) =>
      if name = cs.take 2 then some (o, name, some (cs.drop 2))
      else if cs.isPrefixOf name then some (o, name, none)
      else none

/-- What an argument in front of the separator is, if it starts with a minus and is not the name
of an option. -/
def classifyOther (p : ParserSpec κ) (cs : List Char) : Except Stop (Kind κ) :=
  match candidates p cs with
  | [(o, name, attached)] => .ok (.known o name attached)
  | [] => .ok (if isNegativeNumber cs || cs.contains ' ' then .plain else .unknown)
  | several =>
    let names := ", ".intercalate (several.map fun (_, name, _) => String.ofList name)
    p.stop s!"ambiguous option: {String.ofList cs} could match {names}"

/-- What an argument is. -/
def classify (p : ParserSpec κ) (arg : String) : Except Stop (Kind κ) :=
  let cs := arg.toList
  match cs with
  | '-' :: rest =>
    match p.find? cs with
    | some o => .ok (.known o cs none)
    | none =>
      if rest.isEmpty then .ok .plain
      else
        match splitEquals cs with
        | (name, some value) =>
          match p.find? name with
          | some o => .ok (.known o name (some value))
          | none => classifyOther p cs
        | (_, none) => classifyOther p cs
  | _ => .ok .plain

/-- What each argument is. Behind a separator nothing is an option. -/
def classifyAll (p : ParserSpec κ) : List String → Except Stop (List (String × Kind κ))
  | [] => .ok []
  | "--" :: args => .ok (("--", .separator) :: args.map fun a => (a, .plain))
  | arg :: args => do
    let kind ← classify p arg
    let rest ← classifyAll p args
    pure ((arg, kind) :: rest)

/-- What an argument with one-letter options run together gives: the options, and an option that
still needs a value from the next argument. -/
structure Cluster (κ : Type) where
  options : List (κ × Option String)
  pending : Option (OptionSpec κ)

/-- Works through a one-letter option that takes no value and has a text attached, which is more
one-letter options; the first one that takes a value has the rest of the text as its value. -/
def cluster (p : ParserSpec κ) (o : OptionSpec κ) :
    (attached : List Char) → Except Stop (Cluster κ)
  | [] => p.stop (o.unusedValue [])
  | c :: rest =>
    let first : κ × Option String := (o.key, none)
    match p.find? ['-', c], rest with
    | none, rest => p.stop (o.unusedValue (c :: rest))
    | some next, [] =>
      .ok (if next.takesValue then ⟨[first], some next⟩ else ⟨[first, (next.key, none)], none⟩)
    | some next, rest =>
      if next.takesValue then .ok ⟨[first, (next.key, some (String.ofList rest))], none⟩
      else (cluster p next rest).map fun k => { k with options := first :: k.options }

/-- The name of a one-letter option. -/
def isShortName (name : List Char) : Bool :=
  name.length = 2 && name ≠ ['-', '-']

/-- Works through an option: the options that its argument gives, and one that still needs a
value. -/
def expand (p : ParserSpec κ) (o : OptionSpec κ) (name : List Char) :
    (attached : Option (List Char)) → Except Stop (Cluster κ)
  | none => .ok (if o.takesValue then ⟨[], some o⟩ else ⟨[(o.key, none)], none⟩)
  | some attached =>
    if o.takesValue then .ok ⟨[(o.key, some (String.ofList attached))], none⟩
    else if isShortName name then cluster p o attached
    else p.stop (o.unusedValue attached)

/-- Puts options in front of what the rest of the arguments gives. -/
def Parsed.add (options : List (κ × Option String)) (extras : List String) (r : Parsed κ) :
    Parsed κ :=
  { r with options := options ++ r.options, extras := extras ++ r.extras }

/-- Works through classified arguments from left to right. `isHelp` tells the option that asks
for help; it ends everything at once. -/
def walk (p : ParserSpec κ) (isHelp : κ → Bool) :
    List (String × Kind κ) → Except Stop (Parsed κ)
  | [] => .ok ⟨[], none, []⟩
  | (arg, .plain) :: rest =>
    if p.takesCommand then .ok ⟨[], some (arg, rest.map (·.1)), []⟩
    else (walk p isHelp rest).map (.add [] [arg])
  | (arg, .separator) :: rest =>
    if p.takesCommand && !rest.isEmpty then .ok ⟨[], some (arg, rest.map (·.1)), []⟩
    else (walk p isHelp rest).map (.add [] [arg])
  | (arg, .unknown) :: rest => (walk p isHelp rest).map (.add [] [arg])
  | (_, .known o name attached) :: rest => do
    let k ← expand p o name attached
    let ended := k.options.any fun (key, _) => isHelp key
    match k.pending, rest with
    | none, rest =>
      if ended then .error .help
      else (walk p isHelp rest).map (.add k.options [])
    | some next, (value, .plain) :: rest =>
      if ended then .error .help
      else (walk p isHelp rest).map (.add (k.options ++ [(next.key, some value)]) [])
    | some next, _ => p.stop next.missingValue

/-- The options, the command and what nobody claims, among arguments. -/
def parse (p : ParserSpec κ) (isHelp : κ → Bool) (args : List String) :
    Except Stop (Parsed κ) := do
  walk p isHelp (← classifyAll p args)

end Formulary.CommandLine
