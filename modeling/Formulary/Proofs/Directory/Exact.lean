import Formulary.Proofs.Directory.Combined
import Formulary.Proofs.Expression.Exact

/-!
# Exact integer answers

An equation that answers with an integer is intact, and the tree that it denotes has no quotients.
All names in the tree are bound to integers, and the answer is the value of the tree in exact
integer arithmetic.
-/

namespace Formulary

/-- There is no `/` in the text of a simple equation, and a composite does not divide. -/
def Equation.Undivided : Equation → Prop
  | simple e => '/' ∉ e.formula.text.toList
  | composite e => e.operator ≠ .divide

namespace Directory

variable {d : Directory} {h : Int} {b : Bindings} {n : Int}

/-- Nothing that an equation with a value needs has been deleted. -/
theorem WellFormed.intact_of_valueAt (hd : d.WellFormed) {v : Number}
    (hv : d.valueAt b h = .ok v) : d.Intact h := by
  rw [valueAt_eq_askAt] at hv
  exact hd.intact_of_askAt hv

/-- The trees of all equations below one are parts of its tree. -/
theorem Denotes.exists_subtree {t : Tree} (ht : d.Denotes h t) {k : Int}
    (hk : Relation.ReflTransGen d.Refers h k) : ∃ s ∈ t.subtrees, d.Denotes k s := by
  induction hk with
  | refl => exact ⟨t, t.self_mem_subtrees, ht⟩
  | tail _ hrefers ih =>
    obtain ⟨s, hs, hdenotes⟩ := ih
    obtain ⟨e, he, hk⟩ := hrefers
    cases hdenotes with
    | simple he' => cases he.symm.trans he'
    | @composite _ _ left right he' hleft hright =>
      cases he.symm.trans he'
      rcases hk with rfl | rfl
      · exact ⟨left, Tree.subtrees_trans hs (Tree.left_mem_subtrees _ left right), hleft⟩
      · exact ⟨right, Tree.subtrees_trans hs (Tree.right_mem_subtrees _ left right), hright⟩

/-- An equation with a value answers as its tree does, and all its names are bound. -/
theorem Denotes.value_eq (hd : d.WellFormed) {t : Tree} (ht : d.Denotes h t) {v : Number}
    (hv : d.valueAt b h = .ok v) : t.value b = .ok v := by
  have hanswers := ht.answersAs hd
  cases hfirst : firstUnbound? b t.names with
  | none => rw [← hanswers.bound hfirst, hv]
  | some name =>
    rcases hanswers.unbound hfirst with hfail | ⟨failure, hfail⟩
    · cases hv.symm.trans hfail
    · cases hv.symm.trans hfail

/-- An equation has the integer value of its tree. -/
theorem Denotes.valueAt_eq (hd : d.WellFormed) {t : Tree} (ht : d.Denotes h t)
    (hvalue : t.value b = .ok (.int n)) : d.valueAt b h = .ok (.int n) := by
  have hbound : firstUnbound? b t.names = none := by
    apply firstUnbound?_eq_none_iff.mpr
    intro name hname
    obtain ⟨m, hm⟩ := Tree.int_of_mem_names hvalue hname
    rw [hm]
    rfl
  rw [(ht.answersAs hd).bound hbound, hvalue]

/-- There is no `/` in an equation whose tree has an integer value. -/
theorem Denotes.undivided (hd : d.WellFormed) {t : Tree} (ht : d.Denotes h t)
    (hvalue : t.value b = .ok (.int n)) :
    ∃ e, d.table.find? h = some e ∧ e.Undivided := by
  cases ht with
  | @simple _ e _ he hformula =>
    refine ⟨_, he, ?_⟩
    cases (hd.stored he).2.2 with
    | simple hparse =>
      -- the text was accepted when it was stored, with the tokens of `t`
      obtain ⟨s, hscan, hs⟩ := Formula.parse_eq_ok_iff.mp hparse
      have htokens : s.tokens = t.tokens :=
        congrArg Formula.tokens (hs.symm.trans hformula)
      rw [htokens] at hscan
      exact slash_notMem_of_scan hscan hvalue
  | @composite _ e left right he =>
    refine ⟨_, he, ?_⟩
    intro hdivide
    obtain ⟨x, y, -, -, hexact⟩ := Tree.ints_of_value_node hvalue
    rw [hdivide] at hexact
    cases hexact

/-- In a reachable directory, an integer answer is exact. The equation is intact, there is no `/` in
it or in any equation below it, and each of these has an integer value as well. All names that it
needs are bound to integers. Its tree has the answer as its value in exact integer arithmetic, and
so has every part of the tree the integer that it gives; every exponent is an integer that is not
negative. -/
theorem integer_answer_exact (hd : d.Reachable)
    (hanswer : (d.evaluate (some h) b).result = .ok (.int n)) :
    d.Intact h ∧
    (∀ k, Relation.ReflTransGen d.Refers h k →
      (∃ e, d.table.find? k = some e ∧ e.Undivided) ∧
      ∃ m, (d.evaluate (some k) b).result = .ok (.int m)) ∧
    (∃ names, d.requiredAt h = .ok names ∧
      ∀ name ∈ names, ∃ m, b.value? name = some (.int m)) ∧
    (∃ t, d.Denotes h t) ∧
    ∀ t, d.Denotes h t → t.exactValue? b = some n ∧
      ∀ s ∈ t.subtrees,
        (∃ m, s.value b = .ok (.int m) ∧ s.exactValue? b = some m) ∧
        ∀ left right, s = .node .power left right →
          ∃ m, right.value b = .ok (.int m) ∧ 0 ≤ m := by
  have hwf := hd.wellFormed
  have hv : d.valueAt b h = .ok (.int n) := hanswer
  have hintact : d.Intact h := hwf.intact_of_valueAt hv
  obtain ⟨text, htext⟩ := hwf.exists_combined hintact
  obtain ⟨t, -, ht⟩ := htext.exists_denotes hwf
  have hvalue : t.value b = .ok (.int n) := ht.value_eq hwf hv
  refine ⟨hintact, fun k hk => ?_, ?_, ⟨t, ht⟩, fun t ht => ⟨?_, ?_⟩⟩
  · obtain ⟨s, hs, hdenotes⟩ := ht.exists_subtree hk
    obtain ⟨m, hm⟩ := Tree.int_of_mem_subtrees hvalue hs
    exact ⟨hdenotes.undivided hwf hm, m, hdenotes.valueAt_eq hwf hm⟩
  · refine ⟨_, (ht.answersAs hwf).required, fun name hname => ?_⟩
    exact Tree.int_of_mem_names hvalue (Text.mem_sortedNames.mp hname)
  · exact Tree.exactValue?_of_value (ht.value_eq hwf hv)
  · intro s hs
    have hvalue := ht.value_eq hwf hv
    obtain ⟨m, hm⟩ := Tree.int_of_mem_subtrees hvalue hs
    refine ⟨⟨m, hm, Tree.exactValue?_of_value hm⟩, ?_⟩
    rintro left right rfl
    exact Tree.exponent_nonneg hvalue hs

/-- An integer answer of a composite whose operand was edited. -/
theorem integer_answer_exact_edited :
    let d := empty.after [.create (some "a"), .create (some "xy-"),
      .merge (some 1) (some 2) (some "*"), .edit (some 1) (some "a^b"), .create (some "x/y")]
    let b := Bindings.ofList [("a", .int (-3)), ("b", .int 3), ("x", .int 5), ("y", .int 7)]
    d.Reachable ∧ (d.evaluate (some 3) b).result = .ok (.int 54) ∧ d.Intact 3 ∧
      (∃ e, d.table.find? 1 = some e ∧ e.Undivided) ∧
      ∀ t, d.Denotes 3 t → t.exactValue? b = some 54 := by
  intro d b
  have hd : d.Reachable := Reachable.empty.after _
  have hanswer : (d.evaluate (some 3) b).result = .ok (.int 54) := by rfl
  obtain ⟨hintact, hbelow, -, -, hexact⟩ := integer_answer_exact hd hanswer
  have hrefers : d.Refers 3 1 := ⟨⟨3, 1, 2, .times⟩, by rfl, .inl rfl⟩
  exact ⟨hd, hanswer, hintact, (hbelow 1 (.single hrefers)).1, fun t ht => (hexact t ht).1⟩

end Directory

end Formulary
