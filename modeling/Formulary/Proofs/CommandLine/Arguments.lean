import Formulary.CommandLine.Program
import Formulary.Proofs.Result

/-!
# Arguments that are read

An argument that names an option and holds its value cannot be misunderstood, whatever the value
is. The parser of the program passes everything behind the command on to the parser of the command,
once it has looked at each of these arguments itself. So every text can be given as an expression
together with any assignments.
-/

namespace Formulary.CommandLine

section Parsing

variable {κ : Type} {p : ParserSpec κ} {isHelp : κ → Bool} {o : OptionSpec κ} {arg : String}
  {args : List String}

/-- Arguments are classified one after the other. -/
theorem classifyAll_cons (hne : arg ≠ "--") :
    classifyAll p (arg :: args) = (do
      let kind ← classify p arg
      let rest ← classifyAll p args
      pure ((arg, kind) :: rest)) := by
  rw [classifyAll]
  exact fun heq => hne heq

variable {name : List Char} {attached : Option (List Char)} {options : List (κ × Option String)}

/-- An option that is complete with its own argument. -/
theorem walk_known {rest : List (String × Kind κ)}
    (hexpand : expand p o name attached = .ok ⟨options, none⟩)
    (hhelp : (options.any fun (key, _) => isHelp key) = false) :
    walk p isHelp ((arg, .known o name attached) :: rest) =
      (walk p isHelp rest).map (.add options []) := by
  -- `walk` goes on with the rest of `rest` in another case, so it has no equation to rewrite with
  delta walk
  change (expand p o name attached >>= _) = _
  rw [hexpand, ok_bind]
  change (if (options.any fun (key, _) => isHelp key) = true then _ else _) = _
  rw [hhelp]
  rfl

/-- An argument that is an option of the parser is taken, and the rest is read as if it were not
there. -/
theorem parse_cons_known (hne : arg ≠ "--")
    (hkind : classify p arg = .ok (.known o name attached))
    (hexpand : expand p o name attached = .ok ⟨options, none⟩)
    (hhelp : (options.any fun (key, _) => isHelp key) = false) :
    parse p isHelp (arg :: args) = (parse p isHelp args).map (.add options []) := by
  unfold parse
  rw [classifyAll_cons hne, hkind, ok_bind]
  cases classifyAll p args with
  | error e => rfl
  | ok rest => exact walk_known hexpand hhelp

/-- Arguments each of which has a class are classified, and none is lost. -/
theorem exists_classifyAll
    (hargs : ∀ arg ∈ args, arg ≠ "--" ∧ ∃ kind, classify p arg = .ok kind) :
    ∃ kinds, classifyAll p args = .ok kinds ∧ kinds.map (·.1) = args := by
  induction args with
  | nil => exact ⟨[], rfl, rfl⟩
  | cons arg args ih =>
    obtain ⟨⟨hne, kind, hkind⟩, hrest⟩ := List.forall_mem_cons.mp hargs
    obtain ⟨kinds, hkinds, hsame⟩ := ih hrest
    refine ⟨(arg, kind) :: kinds, ?_, congrArg (arg :: ·) hsame⟩
    rw [classifyAll_cons hne, hkind, hkinds]
    rfl

/-- The command is passed on with everything behind it. -/
theorem parse_command {command : String} (htakes : p.takesCommand = true) (hne : command ≠ "--")
    (hplain : classify p command = .ok .plain)
    (hargs : ∀ arg ∈ args, arg ≠ "--" ∧ ∃ kind, classify p arg = .ok kind) :
    parse p isHelp (command :: args) = .ok ⟨[], some (command, args), []⟩ := by
  obtain ⟨kinds, hkinds, hsame⟩ := exists_classifyAll hargs
  unfold parse
  rw [classifyAll_cons hne, hplain, hkinds]
  change (if p.takesCommand = true then _ else _) = _
  rw [htakes, if_pos rfl, hsame]

/-- A long option with a value is not the separator. -/
theorem append_ne_separator {start : String} (hstart : 2 < start.length) (value : String) :
    start ++ value ≠ "--" := by
  intro heq
  have hlength := congrArg String.length heq
  have htwo : "--".length = 2 := rfl
  rw [String.length_append] at hlength
  omega

/-- Values of an option, each in one argument with its name. -/
theorem parse_attached {start : String} (hstart : 2 < start.length) (hvalue : o.takesValue = true)
    (hkind : ∀ value : String,
      classify p (start ++ value) = .ok (.known o name (some value.toList)))
    (hhelp : isHelp o.key = false) (values args : List String) :
    parse p isHelp (values.map (start ++ ·) ++ args) =
      (parse p isHelp args).map (.add (values.map fun value => (o.key, some value)) []) := by
  induction values with
  | nil => cases hparse : parse p isHelp args <;> simp [hparse, Parsed.add]
  | cons value values ih =>
    have hexpand : expand p o name (some value.toList) = .ok ⟨[(o.key, some value)], none⟩ := by
      simp [expand, hvalue]
    rw [List.map_cons, List.cons_append, parse_cons_known (append_ne_separator hstart value)
      (hkind value) hexpand (by simp [hhelp]), ih]
    cases parse p isHelp args <;> simp [Parsed.add]

end Parsing

/-! ## The command that solves a text -/

def assignmentOption : OptionSpec Key := ⟨.assignment, ["--var", "-v"], true⟩

def quietOption : OptionSpec Key := ⟨.quiet, ["--quiet", "-q"], false⟩

/-- The options of the command that evaluates an expression. -/
def solveSpec : ParserSpec Key :=
  ⟨"equationkit solve", [helpOption, expressionOption, assignmentOption, quietOption], false⟩

/-- Arguments that ask for nothing but the value of an expression, which may be given as an option,
with some assignments. -/
def solveArguments (expression : Option String) (pairs : List String) : List String :=
  "-q" :: (expression.toList.map ("--expr=" ++ ·) ++ pairs.map ("--var=" ++ ·))

theorem namesOf_mainSpec : mainSpec.namesOf =
    [(helpOption, "-h".toList), (helpOption, "--help".toList),
      (⟨.logLevel, ["--log-level"], true⟩, "--log-level".toList)] := rfl

theorem namesOf_solveSpec : solveSpec.namesOf =
    [(helpOption, "-h".toList), (helpOption, "--help".toList),
      (expressionOption, "--expr".toList), (expressionOption, "-e".toList),
      (assignmentOption, "--var".toList), (assignmentOption, "-v".toList),
      (quietOption, "--quiet".toList), (quietOption, "-q".toList)] := rfl

section Solve

variable (expression : Option String) (pairs : List String)

/-- The options that these arguments give. -/
def solveOptions : List (Key × Option String) :=
  (.quiet, none) :: (expression.toList.map (fun text => (.expression, some text)) ++
    pairs.map fun pair => (.assignment, some pair))

/-- The values of an option are all of those given for it, in their order. -/
theorem valuesOf_map (key : Key) (values : List String) :
    valuesOf key (values.map fun value => (key, some value)) = values := by
  induction values with
  | nil => rfl
  | cons value values ih =>
    rw [List.map_cons, valuesOf, List.filterMap_cons_some (b := value) (by simp), ← valuesOf, ih]

/-- These options make a request to evaluate the text with the assignments. -/
theorem commandOf_solveOptions :
    commandOf "solve" (solveOptions expression pairs) = .solve expression pairs true := by
  have htext : valuesOf .expression (solveOptions expression pairs) = expression.toList := by
    have hrest : valuesOf .expression (pairs.map fun pair => (.assignment, some pair)) = [] := by
      simp [valuesOf]
    cases expression with
    | none => exact hrest
    | some text => exact congrArg (text :: ·) hrest
  have hpairs : valuesOf .assignment (solveOptions expression pairs) = pairs := by
    cases expression <;> exact valuesOf_map _ pairs
  show Command.solve (valuesOf .expression _).getLast? (valuesOf .assignment _) true = _
  rw [htext, hpairs]
  cases expression <;> rfl

/-- The arguments that give a text and assignments are read as these options. -/
theorem parse_solveSpec {isHelp : Key → Bool} (hhelp : ∀ k ≠ .help, isHelp k = false) :
    parse solveSpec isHelp (solveArguments expression pairs) =
      .ok ⟨solveOptions expression pairs, none, []⟩ := by
  have hquiet : classify solveSpec "-q" = .ok (.known quietOption "-q".toList none) := by
    simp [classify, ParserSpec.find?, namesOf_solveSpec]
  have hexpr (text : String) : classify solveSpec ("--expr=" ++ text) =
      .ok (.known expressionOption "--expr".toList (some text.toList)) := by
    simp [classify, ParserSpec.find?, namesOf_solveSpec, splitEquals]
  have hvar (pair : String) : classify solveSpec ("--var=" ++ pair) =
      .ok (.known assignmentOption "--var".toList (some pair.toList)) := by
    simp [classify, ParserSpec.find?, namesOf_solveSpec, splitEquals]
  have hnothing : parse solveSpec isHelp [] = .ok ⟨[], none, []⟩ := rfl
  rw [solveArguments, parse_cons_known (by decide) hquiet rfl (by simp [hhelp, quietOption]),
    parse_attached (by decide) rfl hexpr (hhelp _ (by decide)), ← List.append_nil (pairs.map _),
    parse_attached (by decide) rfl hvar (hhelp _ (by decide)), hnothing]
  simp [Parsed.add, solveOptions, quietOption, expressionOption, assignmentOption]

/-- The program itself knows none of these options, not even a shortened one. -/
theorem classify_mainSpec {arg : String} (harg : arg ∈ solveArguments expression pairs) :
    arg ≠ "--" ∧ ∃ kind, classify mainSpec arg = .ok kind := by
  have hcases : arg = "-q" ∨ (∃ text, "--expr=" ++ text = arg) ∨
      ∃ pair, "--var=" ++ pair = arg := by
    simp only [solveArguments, List.mem_cons, List.mem_append, List.mem_map] at harg
    grind
  have hne : arg ≠ "--" := by
    rcases hcases with rfl | ⟨text, rfl⟩ | ⟨pair, rfl⟩
    · decide
    · exact append_ne_separator (by decide) text
    · exact append_ne_separator (by decide) pair
  refine ⟨hne, ?_⟩
  rcases hcases with rfl | ⟨text, rfl⟩ | ⟨pair, rfl⟩ <;>
    simp [classify, ParserSpec.find?, namesOf_mainSpec, splitEquals, classifyOther, candidates]

/-- Every text can be given as an option or left out, with any assignments. -/
theorem readRequest_solveArguments :
    readRequest ("solve" :: solveArguments expression pairs) =
      .ok ⟨none, .solve expression pairs true⟩ := by
  have hmain (isHelp : Key → Bool) :
      parse mainSpec isHelp ("solve" :: solveArguments expression pairs) =
        .ok ⟨[], some ("solve", solveArguments expression pairs), []⟩ :=
    parse_command rfl (by decide) rfl fun _ => classify_mainSpec expression pairs
  have hspec : commandSpecs.lookup "solve" = some solveSpec := rfl
  unfold readRequest
  simp only [hmain, ok_bind, hspec]
  rw [parse_solveSpec expression pairs (by simp)]
  exact congrArg (fun c => Except.ok (Request.mk none c)) (commandOf_solveOptions expression pairs)

end Solve

end Formulary.CommandLine
