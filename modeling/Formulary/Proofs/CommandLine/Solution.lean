import Formulary.Proofs.CommandLine.Arguments
import Formulary.Proofs.Equation.Blanks
import Formulary.Proofs.Equation.Edits
import Formulary.Proofs.Number.Shown

/-!
# Solving on the command line

What is printed when a text is solved and nothing but the value is asked for. The text comes from an
option or, without the blanks around it, from the standard input. It is read before the assignments,
and only when both are accepted is it evaluated. After that nothing but a missing variable or
arithmetic can fail, so every failure is one that is reported as an error. For debugging, the place
where a failure arose is logged in front of the error.
-/

namespace Formulary

namespace CommandLine

variable {text other : String} {pairs : List String} {v : Number}

/-! ## Solving a text -/

/-- The assignments can be read, the text is an expression, and with the bindings of the assignments
it has the value `v`. -/
def Solves (text : String) (pairs : List String) (v : Number) : Prop :=
  ∃ b e, Bindings.ofAssignments pairs = .ok b ∧
    Equation.Simple.make (some 1) (some text) = .ok e ∧ e.value b = .ok v

/-- A text and assignments have one value. -/
theorem Solves.unique {w : Number} (h : Solves text pairs v) (h' : Solves text pairs w) :
    w = v := by
  obtain ⟨b, e, hb, he, hv⟩ := h
  obtain ⟨b', e', hb', he', hw⟩ := h'
  cases hb.symm.trans hb'
  cases he.symm.trans he'
  exact Except.ok.inj (hw.symm.trans hv)

/-- Blanks do not matter. -/
theorem Solves.of_withoutBlanks_eq (h : Solves text pairs v)
    (hblanks : withoutBlanks other = withoutBlanks text) : Solves other pairs v := by
  obtain ⟨b, e, hb, he, hv⟩ := h
  obtain ⟨_, f, hs, hf, rfl⟩ := Equation.Simple.make_eq_ok_iff.mp he
  cases hs
  obtain ⟨t, rfl, hother⟩ := Formula.exists_tree_of_withoutBlanks_eq hblanks hf
  refine ⟨b, ⟨1, t.formula other⟩, hb,
    Equation.Simple.make_eq_ok_iff.mpr ⟨other, _, rfl, hother, rfl⟩, ?_⟩
  have hvalue : (t.formula other).value b = (t.formula text).value b := by
    rw [Tree.formula_value, Tree.formula_value]
  exact hvalue.trans hv

/-- Why there is no value. Failures of the program itself, such as tokens that turn out to be
malformed, are not among the causes. -/
inductive FailsWith (text : String) (pairs : List String) : Problem → Prop
  | text {e : ParseError} : Formula.parse text = .error e →
      FailsWith text pairs (.raised (.parse e))
  | assignment {e : Equation.Simple} {e' : AssignmentError} :
      Equation.Simple.make (some 1) (some text) = .ok e →
      Bindings.ofAssignments pairs = .error e' → FailsWith text pairs (.refused e'.message)
  | unbound {e : Equation.Simple} {b : Bindings} {name : String} :
      Equation.Simple.make (some 1) (some text) = .ok e → Bindings.ofAssignments pairs = .ok b →
      e.value b = .error (.unboundVariable name) →
      FailsWith text pairs (.raised (.unboundVariable name))
  | arithmetic {e : Equation.Simple} {b : Bindings} {a : ArithmeticError} :
      Equation.Simple.make (some 1) (some text) = .ok e → Bindings.ofAssignments pairs = .ok b →
      e.value b = .error (.arithmetic a) → FailsWith text pairs (.raised (.arithmetic a))

/-- The message of a problem, as it stands behind the word `error`. -/
def Problem.message : Problem → String
  | .refused message => message
  | .raised e => e.message
  | .crash c => c.message

/-- What is logged about a problem in front of the error: with a threshold that debugging passes,
the place in the library where it arose. -/
def debugLines (level : Level) (trace : Failure → List String) : Problem → List String
  | .raised e =>
    if level.passes .debug then "DEBUG:equationkit:Command solve failed" :: trace e else []
  | _ => []

/-- Above the level for debugging, no place is logged. -/
theorem debugLines_of_not_passes {level : Level} (hlevel : level.passes .debug = false)
    (trace : Failure → List String) (p : Problem) : debugLines level trace p = [] := by
  cases p <;> simp [debugLines, hlevel]

/-- A text or assignments without a value have none in any other way either. -/
theorem FailsWith.not_solves {p : Problem} (h : FailsWith text pairs p) (v : Number) :
    ¬ Solves text pairs v := by
  rintro ⟨b, e, hb, he, hv⟩
  cases h with
  | text hparse =>
    obtain ⟨_, f, hs, hf, -⟩ := Equation.Simple.make_eq_ok_iff.mp he
    cases hs
    cases hparse.symm.trans hf
  | assignment _ hpairs => cases hpairs.symm.trans hb
  | unbound he' hb' hfail | arithmetic he' hb' hfail =>
    cases he.symm.trans he'
    cases hb.symm.trans hb'
    cases hv.symm.trans hfail

/-- Every refusal of a text is reported. -/
theorem isReported_parse (e : ParseError) : isReported (Failure.parse e).kind = true := by
  cases e <;> rfl

/-- Every arithmetic failure is reported. -/
theorem isReported_arithmetic (e : ArithmeticError) :
    isReported (Failure.arithmetic e).kind = true := by
  cases e <;> rfl

/-- What the command that solves a text and shows nothing but the value gives back; `debug` is what
is logged about each problem. -/
inductive Ended (text : String) (pairs : List String) (debug : Problem → List String) :
    Report → Prop
  | solved {v : Number} {line : String} : Solves text pairs v → v.display? = some line →
      Ended text pairs debug ⟨.code 0, [line], []⟩
  | oversized {v : Number} : Solves text pairs v → v.Oversized →
      Ended text pairs debug ⟨.crash .integerTooLong, [], []⟩
  | refused {p : Problem} : FailsWith text pairs p →
      Ended text pairs debug ⟨.code 1, [], debug p ++ [s!"error: {p.message}"]⟩

namespace Ended

variable {debug debug' : Problem → List String} {r r' : Report}

/-- A value that can be shown is the only line of the output. -/
theorem of_display (h : Ended text pairs debug r) (hv : Solves text pairs v) {line : String}
    (hline : v.display? = some line) : r.output = [line] ∧ r.exit = .code 0 := by
  cases h with
  | solved hw hline' =>
    cases hv.unique hw
    cases hline.symm.trans hline'
    exact ⟨rfl, rfl⟩
  | oversized hw hsize =>
    cases hv.unique hw
    cases (Number.display?_eq_none_iff.mpr hsize).symm.trans hline
  | refused hfails => exact absurd hv (hfails.not_solves v)

/-- A value of too many digits ends the program without output. -/
theorem of_oversized (h : Ended text pairs debug r) (hv : Solves text pairs v)
    (hsize : v.Oversized) : r.output = [] ∧ r.exit = .crash .integerTooLong := by
  cases h with
  | solved hw hline =>
    cases hv.unique hw
    cases (Number.display?_eq_none_iff.mpr hsize).symm.trans hline
  | oversized => exact ⟨rfl, rfl⟩
  | refused hfails => exact absurd hv (hfails.not_solves v)

/-- Without a value, the last line of the errors tells why. -/
theorem of_not_solves (h : Ended text pairs debug r) (hnone : ∀ v, ¬ Solves text pairs v) :
    r.output = [] ∧ r.exit = .code 1 ∧
      ∃ p, FailsWith text pairs p ∧ r.errors = debug p ++ [s!"error: {p.message}"] := by
  cases h with
  | solved hv => exact absurd hv (hnone _)
  | oversized hv => exact absurd hv (hnone _)
  | @refused p hfails => exact ⟨rfl, rfl, p, hfails, rfl⟩

/-- A line of output is the value. -/
theorem exists_solves (h : Ended text pairs debug r) {line : String} (houtput : r.output = [line]) :
    ∃ v, Solves text pairs v ∧ ¬ v.Oversized ∧ v.display? = some line := by
  cases h with
  | @solved v line' hv hline =>
    obtain rfl := List.singleton_inj.mp houtput
    refine ⟨v, hv, fun hsize => ?_, hline⟩
    cases (Number.display?_eq_none_iff.mpr hsize).symm.trans hline
  | oversized | refused => cases houtput

/-- Unless failures are logged for debugging, there is at most the line of the error. -/
theorem length_errors_le {level : Level} {trace : Failure → List String}
    (h : Ended text pairs (debugLines level trace) r) (hlevel : level.passes .debug = false) :
    r.errors.length ≤ 1 := by
  cases h with
  | solved | oversized => exact Nat.zero_le 1
  | refused => simp [debugLines_of_not_passes hlevel]

/-- Texts that differ only in blanks may differ in the error that is reported, but in nothing
else. -/
theorem output_and_exit_eq (h : Ended text pairs debug r) (h' : Ended other pairs debug' r')
    (hblanks : withoutBlanks other = withoutBlanks text) :
    r'.output = r.output ∧ r'.exit = r.exit := by
  cases h with
  | solved hv hline => exact h'.of_display (hv.of_withoutBlanks_eq hblanks) hline
  | oversized hv hsize => exact h'.of_oversized (hv.of_withoutBlanks_eq hblanks) hsize
  | refused hfails =>
    have hnone : ∀ v, ¬ Solves other pairs v := fun v hv =>
      hfails.not_solves v (hv.of_withoutBlanks_eq hblanks.symm)
    obtain ⟨houtput, hexit, -⟩ := h'.of_not_solves hnone
    exact ⟨houtput, hexit⟩

end Ended

/-! ## The command -/

section Command

variable {option : Option String} {input : String}

/-- Whatever keeps a text from having a value is reported, and nothing is printed. -/
theorem FailsWith.report_eq {p : Problem} (h : FailsWith text pairs p) (level : Level)
    (trace : Failure → List String) :
    (Command.solve option pairs true).report level trace [] (.error p) =
      ⟨.code 1, [], debugLines level trace p ++ [s!"error: {p.message}"]⟩ := by
  have hreported {e : Failure} (he : isReported e.kind = true) :
      (Command.solve option pairs true).report level trace [] (.error (.raised e)) =
        ⟨.code 1, [], debugLines level trace (.raised e) ++ [s!"error: {e.message}"]⟩ :=
    if_pos he
  cases h with
  | text hparse => exact hreported (isReported_parse _)
  | assignment => rfl
  | unbound => exact hreported rfl
  | arithmetic => exact hreported (isReported_arithmetic _)

/-- No empty text is read. -/
theorem isEmpty_of_readExpression (hread : readExpression option input = .ok text) :
    text.isEmpty = false := by
  have hinput (h : readExpression.fromInput input = .ok text) : text.isEmpty = false := by
    unfold readExpression.fromInput at h
    split at h
    · cases h
    · next cs hcs =>
      obtain rfl := Except.ok.inj h
      simpa using hcs
  unfold readExpression at hread
  split at hread
  · split at hread
    · exact hinput hread
    · next hfull =>
      obtain rfl := Except.ok.inj hread
      simpa using hfull
  · exact hinput hread

/-- The text is read before the assignments, so a mistake in it is what is reported. -/
theorem solutionReport_of_parse_eq_error (hread : readExpression option input = .ok text)
    {e : ParseError} (hparse : Formula.parse text = .error e) :
    solutionReport option pairs true input = .error (.raised (.parse e)) := by
  have hmake : Equation.Simple.make (some 1) (some text) = .error (.parse e) := by
    simp [Equation.Simple.make, Equation.Simple.makeWith, Equation.Simple.readText,
      isEmpty_of_readExpression hread, hparse]
  unfold solutionReport
  rw [hread, ok_bind, hmake]
  rfl

/-- The command ends in one of these ways. -/
theorem ended_solutionReport (hread : readExpression option input = .ok text) (level : Level)
    (trace : Failure → List String) :
    Ended text pairs (debugLines level trace)
      ((Command.solve option pairs true).report level trace []
        (solutionReport option pairs true input)) := by
  have hrefused {p : Problem} (hp : FailsWith text pairs p) :
      Ended text pairs (debugLines level trace)
        ((Command.solve option pairs true).report level trace [] (.error p)) := by
    rw [hp.report_eq]
    exact .refused hp
  cases hparse : Formula.parse text with
  | error e =>
    rw [solutionReport_of_parse_eq_error hread hparse]
    exact hrefused (.text hparse)
  | ok f =>
    have hmake : Equation.Simple.make (some 1) (some text) = .ok ⟨1, f⟩ :=
      Equation.Simple.make_eq_ok_iff.mpr ⟨text, f, rfl, hparse, rfl⟩
    unfold solutionReport
    rw [hread, ok_bind, hmake, ok_mapError, ok_bind]
    cases hpairs : Bindings.ofAssignments pairs with
    | error e => exact hrefused (.assignment hmake hpairs)
    | ok b =>
      have hvalue : Equation.Simple.value ⟨1, f⟩ b = f.value b := rfl
      rw [ok_mapError, ok_bind, hvalue]
      rcases Formula.value_cases hparse b with ⟨v, hv⟩ | ⟨name, hv⟩ | ⟨a, hv⟩
      · have hsolves : Solves text pairs v := ⟨b, _, hpairs, hmake, hv⟩
        rw [hv, ok_mapError, ok_bind, display]
        cases hline : v.display? with
        | some line => exact .solved hsolves hline
        | none => exact .oversized hsolves (Number.display?_eq_none_iff.mp hline)
      · rw [hv]
        exact hrefused (.unbound hmake hpairs hv)
      · rw [hv]
        exact hrefused (.arithmetic hmake hpairs hv)

/-- Without an option the settings decide the threshold. -/
theorem threshold_none {s : Settings} {level : Level}
    (h : Level.ofName? (Text.upper s.logLevel) = some level) : threshold none s = .ok level := by
  simp only [threshold, h]

/-- The program with arguments that ask for a value. -/
theorem execute_of_solve {i : Invocation} {logLevel : Option String} {level : Level}
    (hargs : readRequest i.arguments = .ok ⟨logLevel, .solve option pairs true⟩)
    (hlevel : threshold logLevel i.settings = .ok level) :
    execute i = (Command.solve option pairs true).report level i.trace []
      (solutionReport option pairs true i.input) := by
  unfold execute
  rw [hargs]
  simp only [Request.execute, hlevel, Command.execute]
  rfl

/-- A text without the blanks around it. -/
def stripped (text : String) : String :=
  String.ofList (Text.strip text.toList)

/-- Stripping a text removes nothing but blanks. -/
theorem withoutBlanks_stripped (text : String) :
    withoutBlanks (stripped text) = withoutBlanks text := by
  simp [withoutBlanks, stripped, unblanked_strip]

/-- A text that is given as an option is taken as it is. -/
theorem readExpression_some (htext : Text.allBlank text.toList = false) :
    readExpression (some text) input = .ok text := by
  have hfull : text.isEmpty = false := by
    rw [Bool.eq_false_iff]
    intro hempty
    rw [String.isEmpty_iff.mp hempty] at htext
    cases htext
  simp [readExpression, hfull]

/-- A text from the standard input is taken without the blanks around it. -/
theorem readExpression_input (htext : Text.allBlank text.toList = false)
    (hoption : (option.getD "").isEmpty = true) :
    readExpression option text = .ok (stripped text) := by
  have hinput : readExpression.fromInput text = .ok (stripped text) := by
    unfold readExpression.fromInput
    split
    · next hnil =>
      rw [Text.strip_eq_nil_iff.mp hnil] at htext
      cases htext
    · rfl
  unfold readExpression
  cases option with
  | none => exact hinput
  | some given =>
    have hempty : given.isEmpty = true := hoption
    simpa [hempty] using hinput

/-- The text is given as the option, or else on the standard input. -/
inductive GivenBy (text : String) (option : Option String) (input : String) : Prop
  | option : option = some text → GivenBy text option input
  | input : (option.getD "").isEmpty = true → input = text → GivenBy text option input

/-- The text that is read if a text is given: an option is taken as it is, and the standard input
without the blanks around it. -/
def readFrom (text : String) (option : Option String) : String :=
  if option = some text then text else stripped text

/-- Where a text comes from makes a difference to its blanks only. -/
theorem withoutBlanks_readFrom (text : String) (option : Option String) :
    withoutBlanks (readFrom text option) = withoutBlanks text := by
  unfold readFrom
  split
  · rfl
  · exact withoutBlanks_stripped text

/-- A text that is given in either way is read. -/
theorem GivenBy.readExpression_eq (h : GivenBy text option input)
    (htext : Text.allBlank text.toList = false) :
    readExpression option input = .ok (readFrom text option) := by
  unfold readFrom
  split
  · next hoption =>
    rw [hoption]
    exact readExpression_some htext
  · next hoption =>
    cases h with
    | option hsome => exact absurd hsome hoption
    | input hempty hinput =>
      rw [hinput]
      exact readExpression_input htext hempty

/-- A text that is not blank is given as an option or on the standard input, with any assignments,
and nothing but the value is to be shown. One line with the value is printed and the exit code is 0
exactly if the text and the assignments are accepted and there is a value that is not too long to be
shown, which only an integer can be. Otherwise nothing is printed, and if there is no value at all,
the exit code is 1 and the last line of the errors tells one of four: a mistake in the text, one in
an assignment, a variable that is not bound, or a failure of arithmetic. A mistake in the text comes
before all others. Only for debugging are there other lines in front of it, which tell where in the
library the failure arose. In both ways of giving the text, and whatever the settings are, the same
is printed and the exit code is the same. -/
theorem solve_agrees {i : Invocation} {logLevel : Option String} {level : Level}
    (hargs : readRequest i.arguments = .ok ⟨logLevel, .solve option pairs true⟩)
    (hlevel : threshold logLevel i.settings = .ok level)
    (hgiven : GivenBy text option i.input) (htext : Text.allBlank text.toList = false) :
    let r := execute i
    let read := readFrom text option
    (∀ line, r.output = [line] ∧ r.exit = .code 0 ↔
      ∃ v, Solves text pairs v ∧ ¬ v.Oversized ∧ v.display? = some line) ∧
    (∀ v : Number, ¬ v.Oversized → ∃ line, v.display? = some line) ∧
    ((∀ v, Solves text pairs v → v.Oversized) → r.output = []) ∧
    ((∀ v, ¬ Solves text pairs v) → r.exit = .code 1 ∧
      ∃ p, FailsWith read pairs p ∧ r.errors.getLast? = some s!"error: {p.message}" ∧
        r.errors.dropLast = debugLines level i.trace p) ∧
    (∀ e, Formula.parse read = .error e → r.exit = .code 1 ∧
      r.errors.getLast? = some s!"error: {e.message}" ∧
      r.errors.dropLast = debugLines level i.trace (.raised (.parse e))) ∧
    (level.passes .debug = false → r.errors.length ≤ 1) ∧
    ∀ j logLevel' level' option',
      readRequest j.arguments = .ok ⟨logLevel', .solve option' pairs true⟩ →
      threshold logLevel' j.settings = .ok level' →
      GivenBy text option' j.input →
      (execute j).output = r.output ∧ (execute j).exit = r.exit := by
  intro r read
  have hread : readExpression option i.input = .ok read := hgiven.readExpression_eq htext
  have hreport : r = (Command.solve option pairs true).report level i.trace []
      (solutionReport option pairs true i.input) :=
    execute_of_solve hargs hlevel
  have hended : Ended read pairs (debugLines level i.trace) r :=
    hreport ▸ ended_solutionReport hread level i.trace
  have hblanks : withoutBlanks read = withoutBlanks text := withoutBlanks_readFrom text option
  refine ⟨fun line => ⟨?_, ?_⟩, fun v hsize => ?_, fun hall => ?_, fun hnone => ?_,
    fun e hparse => ?_, hended.length_errors_le,
    fun j logLevel' level' option' hargs' hlevel' hgiven' => ?_⟩
  · rintro ⟨houtput, -⟩
    obtain ⟨v, hv, hshown⟩ := hended.exists_solves houtput
    exact ⟨v, hv.of_withoutBlanks_eq hblanks.symm, hshown⟩
  · rintro ⟨v, hv, -, hline⟩
    exact hended.of_display (hv.of_withoutBlanks_eq hblanks) hline
  · exact Option.ne_none_iff_exists'.mp (mt Number.display?_eq_none_iff.mp hsize)
  · by_cases hsolves : ∃ v, Solves text pairs v
    · obtain ⟨v, hv⟩ := hsolves
      exact (hended.of_oversized (hv.of_withoutBlanks_eq hblanks) (hall v hv)).1
    · have hnone : ∀ v, ¬ Solves read pairs v := fun v hv =>
        hsolves ⟨v, hv.of_withoutBlanks_eq hblanks.symm⟩
      exact (hended.of_not_solves hnone).1
  · obtain ⟨-, hexit, p, hp, herrors⟩ :=
      hended.of_not_solves fun v hv => hnone v (hv.of_withoutBlanks_eq hblanks.symm)
    exact ⟨hexit, p, hp, by simp [herrors], by simp [herrors]⟩
  · have hp : FailsWith read pairs (.raised (.parse e)) := .text hparse
    rw [hreport, solutionReport_of_parse_eq_error hread hparse, hp.report_eq]
    exact ⟨rfl, List.getLast?_concat, List.dropLast_concat⟩
  · have hended' : Ended (readFrom text option') pairs (debugLines level' j.trace) (execute j) := by
      rw [execute_of_solve hargs' hlevel']
      exact ended_solutionReport (hgiven'.readExpression_eq htext) level' j.trace
    exact hended.output_and_exit_eq hended'
      ((withoutBlanks_readFrom text option').trans hblanks.symm)

/-- The value is shown in the same way for both ways of giving the text. A mistake in the text is
reported even if there is one in an assignment too; for debugging, the place where it arose is
logged in front of it. -/
theorem solve_agrees_both_ways :
    let pairs := ["x=2", " y = 4"]
    let debugging : Settings := { logLevel := "debug" }
    let trace : Failure → List String := fun e => ["Traceback", e.message]
    let byOption : Invocation :=
      ⟨"solve" :: solveArguments (some " x\u2003y^ ") pairs, "", debugging, trace⟩
    let byInput : Invocation := ⟨"solve" :: solveArguments none pairs, " x\u2003y^ ", {}, trace⟩
    let mistaken : Invocation :=
      ⟨"solve" :: solveArguments (some " )") ["x"], "", debugging, trace⟩
    (execute byOption).output = ["16"] ∧ (execute byOption).exit = .code 0 ∧
      (execute byInput).output = ["16"] ∧ (execute byInput).exit = .code 0 ∧
      (execute mistaken).output = [] ∧ (execute mistaken).exit = .code 1 ∧
      (execute mistaken).errors.getLast? =
        some "error: Unmatched ')' in expression at index 1" ∧
      (execute mistaken).errors.dropLast = ["DEBUG:equationkit:Command solve failed", "Traceback",
        "Unmatched ')' in expression at index 1"] := by
  intro pairs debugging trace byOption byInput mistaken
  have hsolves : Solves " x\u2003y^ " pairs (.int 16) :=
    ⟨.ofList [("x", .int 2), ("y", .int 4)], _, rfl, rfl, rfl⟩
  have hline : (Number.int 16).display? = some "16" := by decide +kernel
  have hsize : ¬ (Number.int 16).Oversized := by
    rw [← Number.display?_eq_none_iff, hline]
    simp
  have hoption : readRequest byOption.arguments =
      .ok ⟨none, .solve (some " x\u2003y^ ") pairs true⟩ :=
    readRequest_solveArguments _ pairs
  have hinput : readRequest byInput.arguments = .ok ⟨none, .solve none pairs true⟩ :=
    readRequest_solveArguments none pairs
  have hmistaken : readRequest mistaken.arguments = .ok ⟨none, .solve (some " )") ["x"] true⟩ :=
    readRequest_solveArguments _ _
  have hdebug : threshold none debugging = .ok .debug := threshold_none (by decide +kernel)
  have hinfo : threshold none byInput.settings = .ok .info := threshold_none (by decide +kernel)
  obtain ⟨hshows, -, -, -, -, -, hsame⟩ := solve_agrees hoption hdebug (.option rfl) (by decide)
  obtain ⟨-, -, hnothing, -, herror, -⟩ := solve_agrees hmistaken hdebug (.option rfl) (by decide)
  obtain ⟨houtput, hexit⟩ := (hshows "16").mpr ⟨_, hsolves, hsize, hline⟩
  obtain ⟨houtput', hexit'⟩ := hsame byInput none .info none hinput hinfo (.input rfl rfl)
  have hnone : ∀ v, ¬ Solves " )" ["x"] v := by
    rintro v ⟨b, e, hb, -⟩
    cases hb
  obtain ⟨hcode, hlast, hlog⟩ := herror (.unmatchedClose 1) rfl
  exact ⟨houtput, hexit, houtput'.trans houtput, hexit'.trans hexit,
    hnothing fun v hv => absurd hv (hnone v), hcode, hlast, hlog⟩

end Command

end CommandLine

end Formulary
