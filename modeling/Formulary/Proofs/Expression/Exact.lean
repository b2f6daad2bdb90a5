import Formulary.Proofs.Expression.Accepted

/-!
# Exact integer results

Arithmetic gives an integer only for two integers, and then the exact one. A floating-point number
therefore turns everything above it into a floating-point number: where a tree has an integer value,
so has each of its parts, and the value is that of exact integer arithmetic.
-/

namespace Formulary

/-- The integer, if a number is one. -/
def Number.int? : Number → Option Int
  | int n => some n
  | float _ => none

/-- The operation in exact integer arithmetic. Quotients are left out, and so are powers with a
negative exponent. -/
def Operator.onInts? : Operator → Int → Int → Option Int
  | power, x, y => if 0 ≤ y then some (Int.pow x y.toNat) else none
  | times, x, y => some (x * y)
  | divide, _, _ => none
  | plus, x, y => some (x + y)
  | minus, x, y => some (x - y)

namespace Arithmetic

variable {x y : Number} {n : Int}

/-- Sums, differences and products are integers only if both operands are, and then exact. -/
theorem exactOrFloat_eq_int {onInts : Int → Int → Int} {onFloats : Float → Float → Float}
    (h : exactOrFloat onInts onFloats x y = .ok (.int n)) :
    ∃ k m, x = .int k ∧ y = .int m ∧ onInts k m = n := by
  unfold exactOrFloat at h
  split at h
  · next k m => exact ⟨k, m, rfl, rfl, Number.int.inj (Except.ok.inj h)⟩
  · -- with a floating-point number on either side, so is the result
    obtain ⟨p, -, hfloat⟩ := map_eq_ok_iff.mp h
    cases hfloat

/-- No quotient is an integer. -/
theorem divide_ne_int : divide x y ≠ .ok (.int n) := by
  intro h
  unfold divide at h
  split at h
  · unfold divideInts at h
    split at h
    · cases h
    · split at h <;> cases h
  · obtain ⟨⟨u, v⟩, -, h⟩ := bind_eq_ok_iff.mp h
    dsimp only at h
    split at h <;> cases h

/-- No power that is computed on floating-point numbers is an integer. -/
theorem powerByFloats_ne_int : powerByFloats x y ≠ .ok (.int n) := by
  intro h
  unfold powerByFloats at h
  obtain ⟨⟨u, v⟩, -, h⟩ := bind_eq_ok_iff.mp h
  dsimp only at h
  split at h <;> cases h

/-- An integer power has an integer base and an exponent that is not negative, and is exact. -/
theorem power_eq_int (h : power x y = .ok (.int n)) :
    ∃ k m, x = .int k ∧ y = .int m ∧ 0 ≤ m ∧ Int.pow k m.toNat = n := by
  unfold power at h
  split at h
  · next k m =>
    split at h
    · next hexact =>
      rw [integerPower_eq] at h
      exact ⟨k, m, rfl, rfl, hexact.1, Number.int.inj (Except.ok.inj h)⟩
    · exact absurd h powerByFloats_ne_int
  · exact absurd h powerByFloats_ne_int

end Arithmetic

/-- An integer result comes from two integers and is exact. -/
theorem Operator.onInts?_of_apply {o : Operator} {x y : Number} {n : Int}
    (h : o.apply x y = .ok (.int n)) :
    ∃ k m, x = .int k ∧ y = .int m ∧ o.onInts? k m = some n := by
  cases o with
  | power =>
    obtain ⟨k, m, hx, hy, hm, rfl⟩ := Arithmetic.power_eq_int h
    exact ⟨k, m, hx, hy, if_pos hm⟩
  | divide => exact absurd h Arithmetic.divide_ne_int
  | times | plus | minus =>
    obtain ⟨k, m, hx, hy, rfl⟩ := Arithmetic.exactOrFloat_eq_int h
    exact ⟨k, m, hx, hy, rfl⟩

namespace Tree

variable {b : Bindings} {s t : Tree} {n : Int}

/-- The value in exact integer arithmetic, where all operands have to be integers. -/
def exactValue? (b : Bindings) : Tree → Option Int
  | leaf name => (b.value? name).bind Number.int?
  | node o left right => do
    let x ← left.exactValue? b
    let y ← right.exactValue? b
    o.onInts? x y

/-- The tree and all its parts. -/
def subtrees : Tree → List Tree
  | leaf name => [leaf name]
  | node o left right => node o left right :: (left.subtrees ++ right.subtrees)

/-- A tree is part of itself. -/
theorem self_mem_subtrees (t : Tree) : t ∈ t.subtrees := by
  cases t <;> exact List.mem_cons_self

/-- The left operand is part of a tree. -/
theorem left_mem_subtrees (o : Operator) (left right : Tree) :
    left ∈ (node o left right).subtrees :=
  List.mem_cons_of_mem _ (List.mem_append_left _ left.self_mem_subtrees)

/-- The right operand is part of a tree. -/
theorem right_mem_subtrees (o : Operator) (left right : Tree) :
    right ∈ (node o left right).subtrees :=
  List.mem_cons_of_mem _ (List.mem_append_right _ right.self_mem_subtrees)

/-- Any other part of a tree is part of one of its operands. -/
theorem mem_subtrees_node {o : Operator} {left right : Tree} :
    s ∈ (node o left right).subtrees ↔
      s = node o left right ∨ s ∈ left.subtrees ∨ s ∈ right.subtrees := by
  rw [subtrees, List.mem_cons, List.mem_append]

/-- A part of a part is a part. -/
theorem subtrees_trans {r : Tree} (hs : s ∈ t.subtrees) (hr : r ∈ s.subtrees) :
    r ∈ t.subtrees := by
  induction t with
  | leaf name =>
    obtain rfl := List.mem_singleton.mp hs
    exact hr
  | node o left right ihl ihr =>
    rcases mem_subtrees_node.mp hs with rfl | hs | hs
    · exact hr
    · exact mem_subtrees_node.mpr (.inr (.inl (ihl hs)))
    · exact mem_subtrees_node.mpr (.inr (.inr (ihr hs)))

/-- Every name of a tree is one of its leaves. -/
theorem leaf_mem_subtrees {name : String} (h : name ∈ t.names) : leaf name ∈ t.subtrees := by
  induction t with
  | leaf n =>
    obtain rfl := List.mem_singleton.mp h
    exact List.mem_singleton_self _
  | node o left right ihl ihr =>
    rcases List.mem_append.mp h with h | h
    · exact mem_subtrees_node.mpr (.inr (.inl (ihl h)))
    · exact mem_subtrees_node.mpr (.inr (.inr (ihr h)))

/-- Every operator among the tokens of a tree stands over two parts of it. -/
theorem node_mem_subtrees {o : Operator} (h : .operator o ∈ t.tokens) :
    ∃ left right, node o left right ∈ t.subtrees := by
  induction t with
  | leaf n => simp [tokens] at h
  | node p left right ihl ihr =>
    simp only [tokens, List.mem_append, List.mem_singleton, Token.operator.injEq] at h
    rcases h with (h | h) | rfl
    · obtain ⟨x, y, hmem⟩ := ihl h
      exact ⟨x, y, mem_subtrees_node.mpr (.inr (.inl hmem))⟩
    · obtain ⟨x, y, hmem⟩ := ihr h
      exact ⟨x, y, mem_subtrees_node.mpr (.inr (.inr hmem))⟩
    · exact ⟨left, right, self_mem_subtrees _⟩

/-- An operand with an integer value is bound to it. -/
theorem int_of_value_leaf {name : String} (h : (leaf name).value b = .ok (.int n)) :
    b.value? name = some (.int n) := by
  unfold value at h
  cases hv : b.value? name with
  | none =>
    rw [hv] at h
    cases h
  | some v =>
    rw [hv] at h
    rw [Except.ok.inj h]

/-- Where a node has an integer value, both of its trees have one, and the operation is exact. -/
theorem ints_of_value_node {o : Operator} {left right : Tree}
    (h : (node o left right).value b = .ok (.int n)) :
    ∃ x y, left.value b = .ok (.int x) ∧ right.value b = .ok (.int y) ∧
      o.onInts? x y = some n := by
  unfold value at h
  split at h
  · cases h
  · next u hleft =>
    split at h
    · cases h
    · next v hright =>
      obtain ⟨x, y, rfl, rfl, hexact⟩ := Operator.onInts?_of_apply (mapError_eq_ok_iff.mp h)
      exact ⟨x, y, hleft, hright, hexact⟩

/-- Every part of a tree with an integer value has an integer value: a floating-point number below
would make all values above it floating-point numbers. -/
theorem int_of_mem_subtrees (h : t.value b = .ok (.int n)) (hs : s ∈ t.subtrees) :
    ∃ m, s.value b = .ok (.int m) := by
  induction t generalizing n with
  | leaf name =>
    obtain rfl := List.mem_singleton.mp hs
    exact ⟨n, h⟩
  | node o left right ihl ihr =>
    obtain ⟨x, y, hleft, hright, -⟩ := ints_of_value_node h
    rcases mem_subtrees_node.mp hs with rfl | hs | hs
    · exact ⟨n, h⟩
    · exact ihl hleft hs
    · exact ihr hright hs

/-- An integer value is that of exact integer arithmetic. -/
theorem exactValue?_of_value (h : t.value b = .ok (.int n)) : t.exactValue? b = some n := by
  induction t generalizing n with
  | leaf name =>
    rw [exactValue?, int_of_value_leaf h]
    rfl
  | node o left right ihl ihr =>
    obtain ⟨x, y, hleft, hright, hexact⟩ := ints_of_value_node h
    rw [exactValue?, ihl hleft, ihr hright]
    exact hexact

/-- All names of a tree with an integer value are bound to integers. -/
theorem int_of_mem_names (h : t.value b = .ok (.int n)) {name : String} (hname : name ∈ t.names) :
    ∃ m, b.value? name = some (.int m) := by
  obtain ⟨m, hm⟩ := int_of_mem_subtrees h (leaf_mem_subtrees hname)
  exact ⟨m, int_of_value_leaf hm⟩

/-- No exponent in a tree with an integer value is negative. -/
theorem exponent_nonneg {left right : Tree} (h : t.value b = .ok (.int n))
    (hs : node .power left right ∈ t.subtrees) : ∃ m, right.value b = .ok (.int m) ∧ 0 ≤ m := by
  obtain ⟨k, hk⟩ := int_of_mem_subtrees h hs
  obtain ⟨x, y, -, hright, hexact⟩ := ints_of_value_node hk
  refine ⟨y, hright, ?_⟩
  by_contra hneg
  rw [Operator.onInts?, if_neg hneg] at hexact
  cases hexact

/-- There is no quotient in a tree with an integer value. -/
theorem divide_notMem_tokens (h : t.value b = .ok (.int n)) : .operator .divide ∉ t.tokens := by
  intro hmem
  obtain ⟨left, right, hs⟩ := node_mem_subtrees hmem
  obtain ⟨k, hk⟩ := int_of_mem_subtrees h hs
  obtain ⟨x, y, -, -, hexact⟩ := ints_of_value_node hk
  cases hexact

end Tree

/-- An operator whose symbol is in a text is among its tokens. -/
theorem operator_mem_textTokens {o : Operator} {cs : List Char} (h : o.symbol ∈ cs) :
    .operator o ∈ textTokens cs := by
  have htoken : tokenOf? o.symbol = some (.operator o) := by
    simp only [tokenOf?, Symbol.ofChar_eq_operator_iff.mpr rfl]
  exact List.mem_filterMap.mpr ⟨o.symbol, h, htoken⟩

/-- A text whose tree has an integer value holds no `/`. -/
theorem slash_notMem_of_scan {cs : List Char} {t : Tree} {b : Bindings} {n : Int}
    (hscan : scan 0 [] cs = .ok t.tokens) (h : t.value b = .ok (.int n)) : '/' ∉ cs := by
  intro hmem
  have htext : .operator .divide ∈ textTokens cs := operator_mem_textTokens hmem
  exact Tree.divide_notMem_tokens h ((scan_perm hscan).mem_iff.mpr htext)

end Formulary
