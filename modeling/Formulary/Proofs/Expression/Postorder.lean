import Formulary.Expression.Tree

/-!
# Postorders of trees

The check of the tokens passes exactly for the postorders of expression trees.
-/

namespace Formulary

namespace Token

/-- The name of an operand, if a token is one. -/
def name? : Token → Option String
  | operand name => some name
  | operator _ => none

/-- The names of the operands among tokens, from first to last. -/
def names (ts : List Token) : List String :=
  ts.filterMap name?

@[simp]
theorem names_cons_operand (name : String) (ts : List Token) :
    names (.operand name :: ts) = name :: names ts := rfl

@[simp]
theorem names_cons_operator (o : Operator) (ts : List Token) :
    names (.operator o :: ts) = names ts := rfl

@[simp]
theorem names_append (ts us : List Token) : names (ts ++ us) = names ts ++ names us :=
  List.filterMap_append

@[simp]
theorem names_operatorTokens (ops : List Operator) : names (operatorTokens ops) = [] := by
  simp [names, operatorTokens, name?, List.filterMap_eq_nil_iff]

end Token

/-- The names in a postorder are those of the tree, from left to right. -/
@[simp]
theorem Tree.names_tokens (t : Tree) : Token.names t.tokens = t.names := by
  induction t with
  | leaf name => rfl
  | node o left right ihl ihr =>
    rw [Tree.tokens, Token.names_append, Token.names_append, ihl, ihr, Tree.names]
    exact List.append_nil _

/-- No postorder is empty. -/
theorem Tree.tokens_ne_nil (t : Tree) : t.tokens ≠ [] := by
  cases t <;> simp [Tree.tokens]

/-- A postorder has one operator less than it has operands. -/
theorem Tree.length_tokens (t : Tree) : t.tokens.length + 1 = 2 * t.names.length := by
  induction t with
  | leaf name => rfl
  | node o left right ihl ihr =>
    simp only [Tree.tokens, Tree.names, List.length_append, List.length_singleton]
    omega

/-- The tokens of trees that wait on a stack, the latest tree on top. -/
def forestTokens (forest : List Tree) : List Token :=
  forest.reverse.flatMap Tree.tokens

/-- The tree on top of the stack was completed last, so its tokens come last. -/
theorem forestTokens_cons (t : Tree) (forest : List Tree) :
    forestTokens (t :: forest) = forestTokens forest ++ t.tokens := by
  simp [forestTokens]

/-- At the end of the tokens, the check passes if one value is at hand. -/
theorem checkFormFrom_nil_eq_ok_iff {depth : Nat} :
    checkFormFrom depth [] = .ok () ↔ depth = 1 := by
  rcases depth with _ | _ | depth <;> simp [checkFormFrom]

/-- The check goes on behind an operator if two values are at hand, and then with one less. -/
theorem checkFormFrom_operator_eq_ok_iff {depth : Nat} {o : Operator} {ts : List Token} :
    checkFormFrom depth (.operator o :: ts) = .ok () ↔
      ∃ n, depth = n + 2 ∧ checkFormFrom (n + 1) ts = .ok () := by
  rcases depth with _ | _ | depth <;> simp [checkFormFrom]

/-- Tokens that pass the check complete any trees of the depth it starts with to one tree. -/
theorem exists_tree_of_checkFormFrom {ts : List Token} (forest : List Tree)
    (h : checkFormFrom forest.length ts = .ok ()) :
    ∃ t : Tree, forestTokens forest ++ ts = t.tokens := by
  induction ts generalizing forest with
  | nil =>
    have hone : forest.length = 1 := checkFormFrom_nil_eq_ok_iff.mp h
    obtain ⟨t, rfl⟩ := List.length_eq_one_iff.mp hone
    exact ⟨t, by simp [forestTokens]⟩
  | cons token ts ih =>
    cases token with
    | operand name =>
      -- an operand is a further tree on top
      have hstep : checkFormFrom (Tree.leaf name :: forest).length ts = .ok () := by
        simpa [checkFormFrom] using h
      obtain ⟨t, ht⟩ := ih _ hstep
      exact ⟨t, by simpa [forestTokens_cons, Tree.tokens] using ht⟩
    | operator o =>
      obtain ⟨n, hlen, hstep⟩ := checkFormFrom_operator_eq_ok_iff.mp h
      -- an operator joins the two trees on top
      obtain ⟨right, forest, rfl⟩ := List.exists_cons_of_length_eq_add_one hlen
      obtain ⟨left, forest, rfl⟩ :=
        List.exists_cons_of_length_eq_add_one (Nat.succ.inj hlen)
      have hdepth : (Tree.node o left right :: forest).length = n + 1 := Nat.succ.inj hlen
      obtain ⟨t, ht⟩ := ih _ (hdepth ▸ hstep)
      exact ⟨t, by simpa [forestTokens_cons, Tree.tokens] using ht⟩

/-- Tokens pass the check exactly if they are the postorder of a tree. -/
theorem checkForm_eq_ok_iff {ts : List Token} :
    checkForm ts = .ok () ↔ ∃ t : Tree, ts = t.tokens := by
  constructor
  · intro h
    exact exists_tree_of_checkFormFrom [] h
  · rintro ⟨t, rfl⟩
    have h := t.checkFormFrom_tokens 0 []
    rw [List.append_nil] at h
    rw [checkForm, h]
    rfl

end Formulary
