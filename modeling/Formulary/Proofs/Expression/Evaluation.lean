import Formulary.Proofs.Expression.Accepted

/-!
# Evaluating any tokens

The pass over tokens trusts nothing about them: it looks for two values at every operator and for a
single one at the end. So it may be given tokens that no text has. It has a value only for the
postorder of a tree with all its operands bound, and then that of the tree.
-/

namespace Formulary

variable {onMalformed : Failure} {b : Bindings} {ts : List Token} {stack : List Number} {v : Number}

/-- A run over no tokens ends with the one value on the stack. -/
theorem run_nil_eq_ok_iff : run onMalformed b [] stack = .ok v ↔ stack = [v] := by
  rcases stack with _ | ⟨x, _ | ⟨y, stack⟩⟩ <;> simp [run]

/-- An operand puts its value on the stack, if it is bound. -/
theorem run_operand_eq_ok_iff {name : String} :
    run onMalformed b (.operand name :: ts) stack = .ok v ↔
      ∃ x, b.value? name = some x ∧ run onMalformed b ts (x :: stack) = .ok v := by
  cases hname : b.value? name <;> simp [run, hname]

/-- An operator replaces the two values on top of the stack by their result. -/
theorem run_operator_eq_ok_iff {o : Operator} :
    run onMalformed b (.operator o :: ts) stack = .ok v ↔
      ∃ left right below x, stack = right :: left :: below ∧ o.apply left right = .ok x ∧
        run onMalformed b ts (x :: below) = .ok v := by
  rcases stack with _ | ⟨right, _ | ⟨left, below⟩⟩
  · simp [run]
  · simp [run]
  · cases happly : o.apply left right <;> simp [run, happly]

/-- Tokens that come to a value on a stack pass the check with as many values at hand, and all
their operands are bound. -/
theorem run_eq_ok (h : run onMalformed b ts stack = .ok v) :
    checkFormFrom stack.length ts = .ok () ∧ ∀ name ∈ Token.names ts, (b.value? name).isSome := by
  induction ts generalizing stack with
  | nil =>
    obtain rfl := run_nil_eq_ok_iff.mp h
    exact ⟨rfl, by simp [Token.names]⟩
  | cons token ts ih =>
    cases token with
    | operand name =>
      obtain ⟨x, hx, hrun⟩ := run_operand_eq_ok_iff.mp h
      obtain ⟨hform, hnames⟩ := ih hrun
      refine ⟨by simpa [checkFormFrom] using hform, ?_⟩
      exact List.forall_mem_cons.mpr ⟨by simp [hx], hnames⟩
    | operator o =>
      obtain ⟨left, right, below, x, rfl, -, hrun⟩ := run_operator_eq_ok_iff.mp h
      obtain ⟨hform, hnames⟩ := ih hrun
      exact ⟨checkFormFrom_operator_eq_ok_iff.mpr ⟨below.length, rfl, hform⟩, hnames⟩

/-- Whatever the tokens are and wherever they come from, once the names that go with them are bound,
the value is that of the tree whose postorder they are: the left tree comes first, then the right
one, then the operation on both, and the first failure ends it. With all operands of the tree bound,
only arithmetic can fail. Tokens that are no such postorder have no value. So tokens with a value
pass the check, and tokens that pass it are never found malformed. -/
theorem Formula.value_eq_value_of_tree (f : Formula) {b : Bindings}
    (hb : ∀ name ∈ f.names, (b.value? name).isSome) :
    (∀ t : Tree, f.tokens = t.tokens →
      f.value b = t.value b ∧
        ((∀ name ∈ t.names, (b.value? name).isSome) →
          (∃ v, t.value b = .ok v) ∨ ∃ e, t.value b = .error (.arithmetic e))) ∧
    ((¬ ∃ t : Tree, f.tokens = t.tokens ∧ ∀ name ∈ t.names, (b.value? name).isSome) →
      ∀ v, f.value b ≠ .ok v) ∧
    (∀ v, f.value b = .ok v → checkForm f.tokens = .ok ()) ∧
    (checkForm f.tokens = .ok () → ∀ shown, f.value b ≠ .error (.malformed shown)) := by
  have hpass : f.value b = run (.malformed f.joinedTokens) b f.tokens [] := by
    rw [Formula.value, firstUnbound?_eq_none_iff.mpr hb]
  have htree : ∀ t : Tree, f.tokens = t.tokens → f.value b = t.value b := by
    intro t ht
    rw [hpass, ht, Tree.run_tokens_nil]
  refine ⟨fun t ht => ⟨htree t ht, fun hbound => ?_⟩, ?_, ?_, ?_⟩
  · exact Tree.value_of_bound (firstUnbound?_eq_none_iff.mpr hbound)
  · intro hnone v hv
    obtain ⟨hform, hnames⟩ := run_eq_ok (hpass.symm.trans hv)
    obtain ⟨t, ht⟩ := checkForm_eq_ok_iff.mp hform
    rw [ht, Tree.names_tokens] at hnames
    exact hnone ⟨t, ht, hnames⟩
  · intro v hv
    exact (run_eq_ok (hpass.symm.trans hv)).1
  · intro hform shown
    obtain ⟨t, ht⟩ := checkForm_eq_ok_iff.mp hform
    rw [htree t ht]
    rcases t.value_cases b with ⟨v, hv⟩ | ⟨name, -, -, hv⟩ | ⟨e, hv⟩ <;> simp [hv]

/-- The value of tokens whose names are not all listed, and tokens that have none. -/
theorem Formula.value_eq_value_of_tree_unnamed :
    let b := Bindings.ofList [("x", .int 2), ("y", .int 3)]
    let f : Formula :=
      { text := "?", tokens := [.operand "y", .operand "x", .operator .minus], names := ["x"] }
    let g : Formula :=
      { text := "?", tokens := [.operand "y", .operator .minus, .operand "x"], names := [] }
    f.value b = .ok (.int 1) ∧ ∀ v, g.value b ≠ .ok v := by
  intro b f g
  constructor
  · have htokens : f.tokens = (Tree.node .minus (.leaf "y") (.leaf "x")).tokens := by rfl
    exact ((value_eq_value_of_tree f (by decide)).1 _ htokens).1
  · refine (value_eq_value_of_tree g (by decide)).2.1 ?_
    rintro ⟨t, ht, -⟩
    have hform : checkForm g.tokens = .ok () := checkForm_eq_ok_iff.mpr ⟨t, ht⟩
    exact absurd hform (by decide)

end Formulary
