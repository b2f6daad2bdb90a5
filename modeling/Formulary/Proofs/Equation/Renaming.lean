import Formulary.Proofs.Directory.Served

/-!
# Names of operands are interchangeable

A renaming takes every letter and digit to a letter or digit, several of them perhaps to the same
one. A text and the renamed text are read side by side: an operand is never looked at, only put out,
so the same waits on the stack of both readers at every character. Both texts are accepted together
and refused with the same complaint, at the same position. The renamed text has the value that the
text has when every operand gets the value of the one it is renamed to.
-/

namespace Formulary

/-- New names for the operands, not necessarily different ones. -/
structure Renaming where
  onOperand : Char → Char
  isOperandChar_onOperand : ∀ {c : Char}, isOperandChar c = true →
    isOperandChar (onOperand c) = true

namespace Renaming

/-- Renames an operand and keeps every other character. -/
def onChar (r : Renaming) (c : Char) : Char :=
  if isOperandChar c then r.onOperand c else c

/-- Renames the operands of a text and keeps all else. -/
def onText (r : Renaming) (text : String) : String :=
  String.ofList (text.toList.map r.onChar)

variable (r : Renaming) {c : Char}

theorem onChar_of_operand (hc : isOperandChar c = true) : r.onChar c = r.onOperand c :=
  if_pos hc

theorem onChar_of_not_operand (hc : ¬ isOperandChar c = true) : r.onChar c = c :=
  if_neg hc

/-- Renaming makes operands of operands and of nothing else. -/
@[simp]
theorem isOperandChar_onChar (c : Char) : isOperandChar (r.onChar c) = isOperandChar c := by
  by_cases hc : isOperandChar c = true
  · rw [r.onChar_of_operand hc, r.isOperandChar_onOperand hc, hc]
  · rw [r.onChar_of_not_operand hc]

/-- Renaming makes no blanks and removes none. -/
@[simp]
theorem isBlank_onChar (c : Char) : Text.isBlank (r.onChar c) = Text.isBlank c := by
  by_cases hc : isOperandChar c = true
  · rw [isBlank_eq_false_of_isOperandChar hc,
      isBlank_eq_false_of_isOperandChar ((r.isOperandChar_onChar c).trans hc)]
  · rw [r.onChar_of_not_operand hc]

/-- A text is renamed character by character. -/
@[simp]
theorem toList_onText (text : String) : (r.onText text).toList = text.toList.map r.onChar :=
  String.toList_ofList

@[simp]
theorem onText_singleton (c : Char) :
    r.onText (String.singleton c) = String.singleton (r.onChar c) := by
  apply String.toList_inj.mp
  simp

@[simp]
theorem isEmpty_onText (text : String) : (r.onText text).isEmpty = text.isEmpty := by
  rw [Bool.eq_iff_iff, String.isEmpty_iff, String.isEmpty_iff, ← String.toList_inj,
    ← String.toList_inj, toList_onText]
  simp

end Renaming

/-! ## Reading -/

/-- Renames the operands among tokens. -/
def Token.rename (r : Renaming) : Token → Token
  | operator o => operator o
  | operand name => operand (r.onText name)

/-- Renames the leaves of a tree. -/
def Tree.rename (r : Renaming) : Tree → Tree
  | leaf name => leaf (r.onText name)
  | node o left right => node o (left.rename r) (right.rename r)

/-- Renames everything in a formula. -/
def Formula.rename (r : Renaming) (f : Formula) : Formula :=
  { text := r.onText f.text
    tokens := f.tokens.map (Token.rename r)
    names := f.names.map r.onText }

section Reading

variable (r : Renaming)

@[simp]
theorem rename_operandToken (c : Char) :
    (operandToken c).rename r = operandToken (r.onChar c) := by
  simp [operandToken, Token.rename]

@[simp]
theorem rename_operatorTokens (ops : List Operator) :
    (operatorTokens ops).map (Token.rename r) = operatorTokens ops := by
  simp [operatorTokens, Token.rename]

theorem operands_rename (cs : List Char) :
    operands (cs.map r.onChar) = (operands cs).map r.onText := by
  simp [operands, List.filter_map, Function.comp_def]

/-- What waits does not depend on the names of operands. -/
theorem Waiting.Step.rename {c : Char} {stack stack' : List Waiting} {out : List Token}
    (h : Step c stack out stack') : Step (r.onChar c) stack (out.map (Token.rename r)) stack' := by
  by_cases hc : isOperandChar c = true
  · obtain ⟨rfl, rfl⟩ := h.of_isOperandChar hc
    rw [List.map_singleton, rename_operandToken]
    exact .operand _ ((r.isOperandChar_onChar c).trans hc)
  · -- nothing but operators is put out
    have hout : out.map (Token.rename r) = out := by
      cases h with
      | operand _ hoperand => exact absurd hoperand hc
      | blank | openBracket => rfl
      | closeBracket ops | operator => exact rename_operatorTokens r _
    rw [r.onChar_of_not_operand hc, hout]
    exact h

/-- A renamed text scans to the renamed tokens, or fails for the same reason. -/
theorem scan_rename (i : Nat) (stack : List Waiting) (cs : List Char) :
    scan i stack (cs.map r.onChar) = (scan i stack cs).map (List.map (Token.rename r)) := by
  induction cs generalizing i stack with
  | nil =>
    rw [List.map_nil, scan]
    cases Waiting.releaseAll? stack with
    | none => rfl
    | some ops => exact congrArg Except.ok (rename_operatorTokens r ops).symm
  | cons c cs ih =>
    rw [List.map_cons]
    by_cases hstep : ∃ out stack', Waiting.Step c stack out stack'
    · obtain ⟨out, stack', hstep⟩ := hstep
      rw [(hstep.rename r).scan_cons, hstep.scan_cons, ih]
      cases scan (i + 1) stack' cs <;> simp
    · -- an operand can be read in any case, so this character keeps its name
      have hc : ¬ isOperandChar c = true := fun hc => hstep ⟨_, _, .operand stack hc⟩
      rw [r.onChar_of_not_operand hc]
      rcases Waiting.scan_of_not_exists_step hstep with hstop | ⟨-, hstop⟩
      · rw [hstop, hstop]
        rfl
      · rw [hstop, hstop]
        rfl

/-- The check counts values and does not look at their names. -/
theorem checkFormFrom_rename (depth : Nat) (ts : List Token) :
    checkFormFrom depth (ts.map (Token.rename r)) = checkFormFrom depth ts := by
  induction ts generalizing depth with
  | nil => rfl
  | cons token ts ih =>
    cases token with
    | operand name =>
      cases depth <;> simpa [Token.rename, checkFormFrom] using ih _
    | operator o =>
      rcases depth with _ | _ | depth
      · rfl
      · rfl
      · exact ih (depth + 1)

/-- A renamed text is accepted with renamed tokens and names, or refused for the same reason. -/
theorem Formula.parse_onText (text : String) :
    parse (r.onText text) = (parse text).map (Formula.rename r) := by
  have hblank : Text.allBlank (text.toList.map r.onChar) = Text.allBlank text.toList := by
    simp [Text.allBlank, Function.comp_def]
  unfold parse
  dsimp only
  rw [r.toList_onText, hblank, scan_rename, operands_rename]
  split
  · rfl
  · cases scan 0 [] text.toList with
    | error e => rfl
    | ok ts =>
      rw [ok_map, ok_bind, ok_bind, checkForm, checkForm, checkFormFrom_rename]
      cases checkFormFrom 0 ts <;> rfl

theorem Tree.tokens_rename (t : Tree) : (t.rename r).tokens = t.tokens.map (Token.rename r) := by
  induction t with
  | leaf name => rfl
  | node o left right ihl ihr => simp [rename, tokens, ihl, ihr, Token.rename]

theorem Tree.names_rename (t : Tree) : (t.rename r).names = t.names.map r.onText := by
  induction t with
  | leaf name => rfl
  | node o left right ihl ihr => simp [rename, names, ihl, ihr]

theorem Tree.rename_formula (t : Tree) (text : String) :
    (t.formula text).rename r = (t.rename r).formula (r.onText text) := by
  rw [Formula.rename, formula, formula, tokens_rename, names_rename]

end Reading

/-! ## Values -/

/-- A failure with the names that it mentions renamed. -/
def Failure.rename (r : Renaming) : Failure → Failure
  | unboundVariable name => unboundVariable (r.onText name)
  | unboundToken name => unboundToken (r.onText name)
  | e => e

/-- Every operand is bound to what the operand that it is renamed to is bound to in `b`. -/
def Bindings.AgreesThrough (b' : Bindings) (r : Renaming) (b : Bindings) : Prop :=
  ∀ c, isOperandChar c = true →
    b'.value? (String.singleton c) = b.value? (String.singleton (r.onOperand c))

/-- All operands that there are. -/
def operandChars : List Char :=
  ((List.range 128).map Char.ofNat).filter isOperandChar

/-- Binds every operand to what the operand that it is renamed to is bound to. -/
def Bindings.through (r : Renaming) (b : Bindings) : Bindings :=
  ⟨operandChars.filterMap fun c =>
    (b.value? (String.singleton (r.onOperand c))).map fun v => (String.singleton c, v)⟩

/-- The list of operands is complete. -/
theorem mem_operandChars_iff {c : Char} : c ∈ operandChars ↔ isOperandChar c = true := by
  rw [operandChars, List.mem_filter, and_iff_right_iff_imp]
  intro hc
  have hlt : c.toNat < 128 := by
    simp only [isOperandChar, Bool.or_eq_true, Bool.and_eq_true, decide_eq_true_eq, Char.le_def,
      UInt32.le_iff_toNat_le] at hc
    rcases hc with (⟨_, h⟩ | ⟨_, h⟩) | ⟨_, h⟩ <;> exact Nat.lt_of_le_of_lt h (by decide)
  exact List.mem_map.mpr ⟨c.toNat, List.mem_range.mpr hlt, Char.ofNat_toNat c⟩

/-- What is listed for each of some characters is found under its character. -/
theorem Bindings.lookup_filterMap (value? : Char → Option Number) {cs : List Char} {c : Char}
    (hc : c ∈ cs) :
    lookup (String.singleton c)
      (cs.filterMap fun d => (value? d).map fun v => (String.singleton d, v)) = value? c := by
  -- a character without a value adds nothing, so nothing is found if there is none at all
  have hnone : value? c = none → ∀ ds : List Char, lookup (String.singleton c)
      (ds.filterMap fun d => (value? d).map fun v => (String.singleton d, v)) = none := by
    intro hvalue ds
    induction ds with
    | nil => rfl
    | cons d ds ih =>
      cases hd : value? d with
      | none => simpa [hd] using ih
      | some v =>
        have hne : d ≠ c := by
          rintro rfl
          cases hd.symm.trans hvalue
        simpa [hd, lookup, hne] using ih
  cases hvalue : value? c with
  | none => exact hnone hvalue cs
  | some v =>
    induction cs with
    | nil => cases hc
    | cons d ds ih =>
      by_cases hd : d = c
      · simp [hd, hvalue, lookup]
      · have hrest : c ∈ ds := (List.mem_cons.mp hc).resolve_left (Ne.symm hd)
        cases hd' : value? d with
        | none => simpa [hd'] using ih hrest
        | some w => simpa [hd', lookup, hd] using ih hrest

/-- What a renaming makes of bindings gives every name what the bindings give its new name. -/
theorem Bindings.agreesThrough_through (r : Renaming) (b : Bindings) :
    (b.through r).AgreesThrough r b :=
  fun _ hc => lookup_filterMap (fun d => b.value? (String.singleton (r.onOperand d)))
    (mem_operandChars_iff.mpr hc)

section Values

variable {r : Renaming} {b b' : Bindings}

/-- Bindings that agree through a renaming agree on the operands of every text. -/
theorem Bindings.AgreesThrough.value?_eq (h : b'.AgreesThrough r b) {cs : List Char}
    {name : String} (hname : name ∈ operands cs) : b'.value? name = b.value? (r.onText name) := by
  obtain ⟨c, hc, rfl⟩ := List.mem_map.mp hname
  have hoperand : isOperandChar c = true := (List.mem_filter.mp hc).2
  rw [r.onText_singleton, r.onChar_of_operand hoperand]
  exact h c hoperand

/-- The first unbound name after a renaming is the renamed first unbound name before it. -/
theorem firstUnbound?_rename {names : List String}
    (h : ∀ name ∈ names, b'.value? name = b.value? (r.onText name)) :
    firstUnbound? b (names.map r.onText) = (firstUnbound? b' names).map r.onText := by
  induction names with
  | nil => rfl
  | cons name names ih =>
    obtain ⟨hname, hnames⟩ := List.forall_mem_cons.mp h
    have hrest := ih hnames
    unfold firstUnbound? at hrest ⊢
    rw [List.map_cons, List.find?_cons, List.find?_cons, hname]
    cases (b.value? (r.onText name)).isNone with
    | true => rfl
    | false => exact hrest

/-- The value of a renamed tree is the one of the tree under bindings that agree through the
renaming, and so is the failure, up to the name that it mentions. -/
theorem Tree.value_rename {t : Tree}
    (h : ∀ name ∈ t.names, b'.value? name = b.value? (r.onText name)) :
    (t.rename r).value b = (t.value b').mapError (Failure.rename r) := by
  induction t with
  | leaf name =>
    rw [rename, value, value, h name (List.mem_singleton_self name)]
    cases b.value? (r.onText name) <;> rfl
  | node o left right ihl ihr =>
    rw [rename, value, value, ihl fun name hname => h name (List.mem_append_left _ hname),
      ihr fun name hname => h name (List.mem_append_right _ hname)]
    cases left.value b' with
    | error e => rfl
    | ok x =>
      cases right.value b' with
      | error e => rfl
      | ok y =>
        simp only [ok_mapError]
        cases o.apply x y <;> rfl

/-- The value of a renamed tree is that of the tree, where every name has the value of its new name.
A name that is missing is reported by its new name. -/
theorem Tree.formula_value_rename {t : Tree} (text : String)
    (h : ∀ name ∈ t.names, b'.value? name = b.value? (r.onText name)) :
    ((t.formula text).rename r).value b =
      ((t.formula text).value b').mapError (Failure.rename r) := by
  rw [rename_formula, formula_value, formula_value, names_rename, firstUnbound?_rename h]
  cases firstUnbound? b' t.names with
  | some name => rfl
  | none => exact value_rename h

end Values

/-- Renames the formula of an equation. -/
def Equation.Simple.rename (r : Renaming) (e : Equation.Simple) : Equation.Simple :=
  { e with formula := e.formula.rename r }

/-- An equation made of a renamed text is the renamed equation. -/
theorem Equation.Simple.make_onText (r : Renaming) (id : Option Int) (text : String) :
    make id (some (r.onText text)) = (make id (some text)).map (Simple.rename r) := by
  unfold make makeWith
  cases id with
  | none => rfl
  | some id =>
    dsimp only [readText]
    rw [r.isEmpty_onText, Formula.parse_onText]
    split
    · rfl
    · cases Formula.parse text <;> rfl

/-- A renamed text is accepted exactly if the text is, and then with renamed tokens and names; if
the text is refused, so is the renamed one, with the same complaint. Whatever is bound, the equation
made of the renamed text has the value of the one made of the text, where each operand is bound to
what the renamed one is bound to; or it fails in the same way, up to the name that is mentioned.
There are such bindings for all bindings. -/
theorem Formula.names_interchangeable (r : Renaming) (text : String) :
    parse (r.onText text) = (parse text).map (Formula.rename r) ∧
    (∀ id, Equation.Simple.make id (some (r.onText text)) =
      (Equation.Simple.make id (some text)).map (Equation.Simple.rename r)) ∧
    (∀ b, (Bindings.through r b).AgreesThrough r b) ∧
    ∀ id e, Equation.Simple.make (some id) (some text) = .ok e →
      ∀ b b' : Bindings, b'.AgreesThrough r b →
        (e.rename r).value b = (e.value b').mapError (Failure.rename r) := by
  refine ⟨parse_onText r text, fun id => Equation.Simple.make_onText r id text,
    Bindings.agreesThrough_through r, fun id e hmake b b' hagree => ?_⟩
  obtain ⟨s, f, hs, hf, rfl⟩ := Equation.Simple.make_eq_ok_iff.mp hmake
  obtain rfl := Option.some.inj hs
  obtain ⟨t, hscan, rfl⟩ := parse_eq_ok_iff.mp hf
  have hnames : operands text.toList = t.names := by
    rw [← names_of_scan hscan, Tree.names_tokens]
  exact Tree.formula_value_rename text fun name hname => hagree.value?_eq (hnames ▸ hname)

/-- Every operand becomes the digit seven. -/
theorem Formula.names_interchangeable_merging :
    ∃ r : Renaming, r.onText "a - (b" = "7 - (7" ∧ r.onText "x-y" = "7-7" ∧
      parse "7 - (7" = (parse "a - (b").map (Formula.rename r) ∧
      parse "a - (b" = .error .unmatchedOpen ∧
      ∃ e, Equation.Simple.make (some 1) (some "x-y") = .ok e ∧
        Equation.Simple.make (some 1) (some "7-7") = .ok (e.rename r) ∧
        (e.rename r).value (.ofList [("7", .int 3)]) = .ok (.int 0) ∧
        (e.rename r).value .empty = .error (.unboundVariable "7") := by
  let r : Renaming := ⟨fun _ => '7', fun _ => rfl⟩
  let b : Bindings := .ofList [("7", .int 3)]
  obtain ⟨hrefused, -⟩ := names_interchangeable r "a - (b"
  obtain ⟨-, hmake, hagree, hvalue⟩ := names_interchangeable r "x-y"
  obtain ⟨e, he⟩ : ∃ e, Equation.Simple.make (some 1) (some "x-y") = .ok e := ⟨_, rfl⟩
  refine ⟨r, by decide, by decide, hrefused, by decide, e, he, ?_, ?_, ?_⟩
  · exact (hmake (some 1)).trans (congrArg _ he)
  · exact (hvalue 1 e he b (b.through r) (hagree b)).trans (by cases he; rfl)
  · exact (hvalue 1 e he .empty (Bindings.empty.through r) (hagree .empty)).trans
      (by cases he; rfl)

end Formulary
