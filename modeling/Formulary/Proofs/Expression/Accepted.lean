import Mathlib.Data.List.Perm.Basic
import Formulary.Proofs.Expression.Postorder
import Formulary.Proofs.Expression.Reading

/-!
# Accepted texts

While a text is read, every operand and every operator of it is put out or waits on the stack, and
the operands keep their order. An accepted text is therefore one that scans to the postorder of a
tree, and the tree holds everything that reading it gives.
-/

namespace Formulary

/-- The token that a character stands for, if it is an operand or an operator. -/
def tokenOf? (c : Char) : Option Token :=
  match Symbol.ofChar c with
  | .operand => some (operandToken c)
  | .operator o => some (.operator o)
  | _ => none

/-- The operands and operators of a text, from left to right. -/
def textTokens (cs : List Char) : List Token :=
  cs.filterMap tokenOf?

/-- The operators on a stack. -/
def Waiting.operators (stack : List Waiting) : List Operator :=
  stack.filterMap fun
    | .operator o => some o
    | .bracket => none

namespace Waiting

@[simp]
theorem operators_append (stack below : List Waiting) :
    operators (stack ++ below) = operators stack ++ operators below :=
  List.filterMap_append

@[simp]
theorem operators_bracket (stack : List Waiting) :
    operators (.bracket :: stack) = operators stack := rfl

@[simp]
theorem operators_operator (o : Operator) (stack : List Waiting) :
    operators (.operator o :: stack) = o :: operators stack := rfl

@[simp]
theorem operators_map (ops : List Operator) : operators (ops.map .operator) = ops := by
  induction ops with
  | nil => rfl
  | cons o ops ih => rw [List.map_cons, operators_operator, ih]

/-- A character puts its own token out or on the stack, and moves others from the stack to the
output. -/
theorem Step.perm {c : Char} {stack stack' : List Waiting} {out : List Token}
    (h : Step c stack out stack') :
    (out ++ operatorTokens (operators stack')).Perm
      (textTokens [c] ++ operatorTokens (operators stack)) := by
  cases h with
  | blank _ hc => simp [textTokens, tokenOf?, Symbol.ofChar_eq_blank_iff.mpr hc]
  | operand _ hc => simp [textTokens, tokenOf?, Symbol.ofChar_eq_operand_iff.mpr hc]
  | openBracket => simp [textTokens, tokenOf?, Symbol.ofChar_eq_openBracket_iff.mpr rfl]
  | closeBracket ops rest =>
    simp [textTokens, tokenOf?, Symbol.ofChar_eq_closeBracket_iff.mpr rfl, operatorTokens]
  | @operator o ops rest =>
    have htoken : textTokens [o.symbol] = [.operator o] := by
      simp [textTokens, tokenOf?, Symbol.ofChar_eq_operator_iff.mpr rfl]
    rw [htoken, operators_operator, operators_append, operators_map, operatorTokens,
      operatorTokens, operatorTokens, List.map_cons, List.map_append]
    exact List.perm_middle

/-- The operand tokens that a character puts out are its own: operands never wait. -/
theorem Step.names_eq {c : Char} {stack stack' : List Waiting} {out : List Token}
    (h : Step c stack out stack') : Token.names out = operands [c] := by
  have hplain : ∀ d : Char, isOperandChar d = false → operands [d] = [] := by
    intro d hd
    simp [operands, hd]
  cases h with
  | operand _ hc => simp [operands, hc, Token.names, Token.name?, operandToken]
  | blank _ hc =>
    refine (hplain c ?_).symm
    by_contra hoperand
    simp [isBlank_eq_false_of_isOperandChar (by simpa using hoperand)] at hc
  | openBracket => exact (hplain '(' (by decide)).symm
  | closeBracket ops => rw [Token.names_operatorTokens, hplain ')' (by decide)]
  | operator => rw [Token.names_operatorTokens, hplain _ (isOperandChar_symbol _)]

end Waiting

/-- Reading puts the tokens of the text out or on the stack, and loses none from the stack. -/
theorem Reads.perm {stack stack' : List Waiting} {cs : List Char} {out : List Token}
    (h : Reads stack cs out stack') :
    (out ++ operatorTokens (Waiting.operators stack')).Perm
      (textTokens cs ++ operatorTokens (Waiting.operators stack)) := by
  induction h with
  | nil => exact List.Perm.refl _
  | @cons c cs out rest stack mid stack' hstep _ ih =>
    have hc : textTokens (c :: cs) = textTokens [c] ++ textTokens cs :=
      List.filterMap_append (l := [c])
    -- the tokens of the text take turns with those from the stack until each has its place
    calc out ++ rest ++ operatorTokens (Waiting.operators stack')
      _ = out ++ (rest ++ operatorTokens (Waiting.operators stack')) := List.append_assoc ..
      _ |>.Perm (out ++ (textTokens cs ++ operatorTokens (Waiting.operators mid))) :=
        ih.append_left out
      _ |>.Perm (textTokens cs ++ (out ++ operatorTokens (Waiting.operators mid))) := by
        rw [← List.append_assoc, ← List.append_assoc]
        exact List.perm_append_comm.append_right _
      _ |>.Perm (textTokens cs ++ (textTokens [c] ++ operatorTokens (Waiting.operators stack))) :=
        hstep.perm.append_left _
      _ |>.Perm (textTokens (c :: cs) ++ operatorTokens (Waiting.operators stack)) := by
        rw [hc, ← List.append_assoc]
        exact List.perm_append_comm.append_right _

/-- A text that scans puts out the token of each of its characters once. -/
theorem scan_perm {i : Nat} {cs : List Char} {ts : List Token} (h : scan i [] cs = .ok ts) :
    ts.Perm (textTokens cs) := by
  obtain ⟨out, ops, hreads, rfl⟩ := scan_eq_ok_iff.mp h
  simpa [Waiting.operators, operatorTokens] using hreads.perm

/-- Reading puts out the operands of the text in the order in which they are written. -/
theorem Reads.names_eq {stack stack' : List Waiting} {cs : List Char} {out : List Token}
    (h : Reads stack cs out stack') : Token.names out = operands cs := by
  induction h with
  | nil => rfl
  | cons hstep _ ih =>
    rw [Token.names_append, hstep.names_eq, ih]
    simp [operands, ← List.map_append, ← List.filter_append]

/-- Scanning from any stack puts out the operands of the text in their order. -/
theorem names_of_scan {i : Nat} {cs : List Char} {stack : List Waiting} {ts : List Token}
    (h : scan i stack cs = .ok ts) : Token.names ts = operands cs := by
  obtain ⟨out, ops, hreads, rfl⟩ := scan_eq_ok_iff.mp h
  rw [Token.names_append, hreads.names_eq, Token.names_operatorTokens, List.append_nil]

/-- The expression with a text and a tree. -/
def Tree.formula (t : Tree) (text : String) : Formula :=
  { text, tokens := t.tokens, names := t.names }

/-- A blank text scans to no tokens. -/
theorem scan_allBlank {i : Nat} {cs : List Char} (h : Text.allBlank cs = true) :
    scan i [] cs = .ok [] := by
  have hreads : Reads [] cs [] [] := by
    apply Reads.of_unblanked
    have hnil : unblanked cs = [] := by
      simpa [unblanked, Text.allBlank, List.filter_eq_nil_iff, List.all_eq_true] using h
    rw [hnil]
    exact .nil []
  exact scan_eq_ok_iff.mpr ⟨[], [], hreads, rfl⟩

/-- A text is accepted exactly if it scans to the postorder of a tree. -/
theorem Formula.parse_eq_ok_iff {text : String} {f : Formula} :
    Formula.parse text = .ok f ↔
      ∃ t : Tree, scan 0 [] text.toList = .ok t.tokens ∧ f = t.formula text := by
  have hnames : ∀ t : Tree, scan 0 [] text.toList = .ok t.tokens →
      operands text.toList = t.names := fun t h => by rw [← names_of_scan h, Tree.names_tokens]
  unfold Formula.parse
  dsimp only
  constructor
  · intro h
    split at h
    · cases h
    · obtain ⟨tokens, hscan, h⟩ := bind_eq_ok_iff.mp h
      obtain ⟨⟨⟩, hform, h⟩ := bind_eq_ok_iff.mp h
      obtain ⟨t, rfl⟩ := checkForm_eq_ok_iff.mp hform
      refine ⟨t, hscan, ?_⟩
      rw [Tree.formula, ← hnames t hscan]
      exact (Except.ok.inj h).symm
  · rintro ⟨t, hscan, rfl⟩
    -- blanks would scan to no tokens, and every tree has some
    have hblank : ¬ Text.allBlank text.toList = true := by
      intro hblank
      rw [scan_allBlank hblank] at hscan
      exact t.tokens_ne_nil (Except.ok.inj hscan).symm
    rw [if_neg hblank, hscan, ok_bind, checkForm_eq_ok_iff.mpr ⟨t, rfl⟩, ok_bind, hnames t hscan]
    rfl

/-- There is no unbound name exactly if every name is bound. -/
theorem firstUnbound?_eq_none_iff {b : Bindings} {names : List String} :
    firstUnbound? b names = none ↔ ∀ name ∈ names, (b.value? name).isSome := by
  simp [firstUnbound?, List.find?_eq_none, Option.isSome_iff_ne_none]

/-- The first unbound name of two lists is that of the first list, or else that of the second. -/
theorem firstUnbound?_append (b : Bindings) (names names' : List String) :
    firstUnbound? b (names ++ names') = (firstUnbound? b names).or (firstUnbound? b names') :=
  List.find?_append

/-- A tree has a value, or an operand is not bound, or arithmetic fails. -/
theorem Tree.value_cases (t : Tree) (b : Bindings) :
    (∃ v, t.value b = .ok v) ∨
      (∃ name ∈ t.names, b.value? name = none ∧ t.value b = .error (.unboundToken name)) ∨
      ∃ e, t.value b = .error (.arithmetic e) := by
  induction t with
  | leaf name =>
    cases hname : b.value? name with
    | some v => exact .inl ⟨v, by simp only [Tree.value, hname]⟩
    | none =>
      refine .inr (.inl ⟨name, List.mem_singleton_self name, hname, ?_⟩)
      simp only [Tree.value, hname]
  | node o left right ihl ihr =>
    rcases ihl with ⟨x, hx⟩ | ⟨name, hmem, hname, hfail⟩ | ⟨e, he⟩
    · rcases ihr with ⟨y, hy⟩ | ⟨name, hmem, hname, hfail⟩ | ⟨e, he⟩
      · cases hv : o.apply x y with
        | ok v => exact .inl ⟨v, by simp only [Tree.value, hx, hy, hv]; rfl⟩
        | error e => exact .inr (.inr ⟨e, by simp only [Tree.value, hx, hy, hv]; rfl⟩)
      · refine .inr (.inl ⟨name, List.mem_append_right _ hmem, hname, ?_⟩)
        simp only [Tree.value, hx, hfail]
      · exact .inr (.inr ⟨e, by simp only [Tree.value, hx, he]⟩)
    · refine .inr (.inl ⟨name, List.mem_append_left _ hmem, hname, ?_⟩)
      simp only [Tree.value, hfail]
    · exact .inr (.inr ⟨e, by simp only [Tree.value, he]⟩)

/-- Once all names are bound, nothing but arithmetic can fail. -/
theorem Tree.value_of_bound {b : Bindings} {t : Tree} (h : firstUnbound? b t.names = none) :
    (∃ v, t.value b = .ok v) ∨ ∃ e, t.value b = .error (.arithmetic e) := by
  refine (t.value_cases b).imp_right fun hfail => hfail.resolve_left ?_
  rintro ⟨name, hmem, hname, -⟩
  simpa [hname] using firstUnbound?_eq_none_iff.mp h name hmem

/-- From an empty stack the pass over the tokens of a tree comes to the tree's value. -/
theorem Tree.run_tokens_nil (onMalformed : Failure) (b : Bindings) (t : Tree) :
    run onMalformed b t.tokens [] = t.value b := by
  have hrun := t.run_tokens onMalformed b [] []
  rw [List.append_nil] at hrun
  rw [hrun]
  cases t.value b <;> rfl

/-- The value of an accepted text is that of its tree, once all its names are bound. -/
theorem Tree.formula_value (t : Tree) (text : String) (b : Bindings) :
    (t.formula text).value b =
      match firstUnbound? b t.names with
      | some name => .error (.unboundVariable name)
      | none => t.value b := by
  unfold Formula.value
  cases hfirst : firstUnbound? b t.names with
  | some name => simp [Tree.formula, hfirst]
  | none => simp only [Tree.formula, hfirst, Tree.run_tokens_nil]

end Formulary
