import Formulary.Proofs.Directory.Lifecycle

/-!
# Refused merges

A merge looks both operands up before it makes the composite, and making a composite has checks of
its own, in another order. In a reachable directory these checks find nothing new: both operands are
there, and their handles are below the one that the composite gets. Only the symbol of the operator
is left to be refused.
-/

namespace Formulary

/-- What is no symbol of an operator is refused, whatever else it is. -/
theorem Operator.require_of_ne_text {symbol : Option String}
    (h : ∀ o : Operator, symbol ≠ some o.text) :
    Operator.require symbol = .error (.unknownOperator symbol) := by
  cases hrequire : Operator.require symbol with
  | ok o => exact absurd (Operator.require_eq_ok_iff.mp hrequire) (h o)
  | error e =>
    unfold Operator.require at hrequire
    split at hrequire
    · cases hrequire
    · exact hrequire.symm

/-- The caller sees that an equation does not exist, or that its handle is too long to be named. -/
theorem Failure.kind_notFound (r : Reference) :
    (Failure.notFound r).kind = .notFound ∨
      (Failure.notFound r).kind = .unwritable ∧ (Failure.notFound r).handle.isWritable = false := by
  unfold Failure.kind Failure.raised
  split
  · exact .inl rfl
  · next hr => exact .inr ⟨rfl, Bool.eq_false_iff.mpr hr⟩

/-- A composite of two equations that exist, and are not the composite itself, is refused only for
the symbol of its operator. -/
theorem Equation.Composite.make_of_found {find : Lookup} {id l r : Int} {left right : Equation}
    (hl : find l = some left) (hr : find r = some right) (hleft : id ≠ l) (hright : id ≠ r)
    (symbol : Option String) :
    make find (some id) (some l) (some r) symbol =
      (Operator.require symbol).map fun o => ⟨id, l, r, o⟩ := by
  have hself : ¬ (id = l ∨ id = r) := not_or.mpr ⟨hleft, hright⟩
  simp only [make, requireOperand, hl, hr, hself, if_false]
  cases Operator.require symbol <;> rfl

namespace Directory

variable {d : Directory} {left right : Reference}

/-- What is not contained is not found. -/
theorem locate_of_not_contains {r : Reference} (hr : d.contains r = false) :
    d.locate r = .error (.notFound r) := by
  cases r with
  | none => rfl
  | some h => exact locate_of_find?_eq_none (by simpa [contains, Table.contains] using hr)

/-- What is contained is a handle with an equation. -/
theorem exists_of_contains {r : Reference} (hr : d.contains r = true) :
    ∃ h e, r = some h ∧ d.table.find? h = some e := by
  obtain ⟨h, hmem, rfl⟩ := contains_iff.mp hr
  obtain ⟨e, he⟩ := mem_handles.mp hmem
  exact ⟨h, e, rfl, he⟩

/-- The handle of the new composite is above those of its operands, so it does not refer to itself,
and its operands have just been found. -/
theorem WellFormed.merge_of_found (hd : d.WellFormed) {l r : Int} {e e' : Equation}
    (hl : d.table.find? l = some e) (hr : d.table.find? r = some e') (symbol : Option String) :
    d.merge (some l) (some r) symbol =
      match Operator.require symbol with
      | .ok o =>
        ⟨.ok (d.lastHandle + 1), d.keep (.composite ⟨d.lastHandle + 1, l, r, o⟩),
          [.merged (d.lastHandle + 1) l o r]⟩
      | .error failure => d.failed failure := by
  have hleft : d.lastHandle + 1 ≠ l := by
    have hle := (hd.stored hl).2.1
    omega
  have hright : d.lastHandle + 1 ≠ r := by
    have hle := (hd.stored hr).2.1
    omega
  have hmake := Equation.Composite.make_of_found hl hr hleft hright symbol
  simp only [merge, locate_eq_ok_iff.mpr ⟨rfl, hl⟩, locate_eq_ok_iff.mpr ⟨rfl, hr⟩, hmake]
  cases Operator.require symbol <;> rfl

/-- A merge whose left operand is missing is refused for it, whatever the right one is. -/
theorem merge_of_not_contains_left (hleft : d.contains left = false) (symbol : Option String) :
    d.merge left right symbol = d.failed (.notFound left) := by
  simp only [merge, locate_of_not_contains hleft]

/-- A merge whose right operand alone is missing is refused for that one. -/
theorem merge_of_not_contains_right (hleft : d.contains left = true)
    (hright : d.contains right = false) (symbol : Option String) :
    d.merge left right symbol = d.failed (.notFound right) := by
  obtain ⟨l, e, rfl, hl⟩ := exists_of_contains hleft
  simp only [merge, locate_eq_ok_iff.mpr ⟨rfl, hl⟩, locate_of_not_contains hright]

/-- A merge of two equations that are there is refused for a symbol that is no operator's. -/
theorem WellFormed.merge_of_unknown_symbol (hd : d.WellFormed) (hleft : d.contains left = true)
    (hright : d.contains right = true) {symbol : Option String}
    (hsymbol : ∀ o : Operator, symbol ≠ some o.text) :
    d.merge left right symbol = d.failed (.unknownOperator symbol) := by
  obtain ⟨l, e, rfl, hl⟩ := exists_of_contains hleft
  obtain ⟨r, e', rfl, hr⟩ := exists_of_contains hright
  rw [hd.merge_of_found hl hr, Operator.require_of_ne_text hsymbol]

/-- A merge of two equations that are there makes their composite, if the symbol is an
operator's. -/
theorem WellFormed.merge_of_operator (hd : d.WellFormed) (hleft : d.contains left = true)
    (hright : d.contains right = true) (o : Operator) :
    ∃ l r, left = some l ∧ right = some r ∧ d.merge left right (some o.text) =
      ⟨.ok (d.lastHandle + 1), d.keep (.composite ⟨d.lastHandle + 1, l, r, o⟩),
        [.merged (d.lastHandle + 1) l o r]⟩ := by
  obtain ⟨l, e, rfl, hl⟩ := exists_of_contains hleft
  obtain ⟨r, e', rfl, hr⟩ := exists_of_contains hright
  refine ⟨l, r, rfl, rfl, ?_⟩
  rw [hd.merge_of_found hl hr, Operator.require_eq_ok_iff.mpr rfl]

/-- A merge fails for its left operand, for its right operand or for its symbol. -/
theorem WellFormed.eq_of_merge_eq_error (hd : d.WellFormed) {symbol : Option String} {e : Failure}
    (he : (d.merge left right symbol).result = .error e) :
    e = .notFound left ∨ e = .notFound right ∨ e = .unknownOperator symbol := by
  cases hleft : d.contains left with
  | false =>
    rw [merge_of_not_contains_left hleft] at he
    exact .inl (Except.error.inj he).symm
  | true =>
    cases hright : d.contains right with
    | false =>
      rw [merge_of_not_contains_right hleft hright] at he
      exact .inr (.inl (Except.error.inj he).symm)
    | true =>
      by_cases hsymbol : ∃ o : Operator, symbol = some o.text
      · obtain ⟨o, rfl⟩ := hsymbol
        obtain ⟨l, r, -, -, hmerge⟩ := hd.merge_of_operator hleft hright o
        rw [hmerge] at he
        cases he
      · rw [hd.merge_of_unknown_symbol hleft hright (not_exists.mp hsymbol)] at he
        exact .inr (.inr (Except.error.inj he).symm)

end Directory

end Formulary
