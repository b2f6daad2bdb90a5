import Formulary.Proofs.Directory.Combined
import Formulary.Proofs.Expression.Agreement

/-!
# What an answer depends on

The value of an equation depends on the names that it needs, through all its operands, and on
nothing else that is bound. A name that is needed and not bound keeps the equation from having a
value.
-/

namespace Formulary

variable {b b' : Bindings}

namespace Directory

variable {d : Directory} {h : Int}

/-- Bindings that agree on the names that an equation needs give it the same value or the same
failure. -/
theorem WellFormed.valueAt_congr (hd : d.WellFormed) {names : List String}
    (hnames : d.requiredAt h = .ok names) (hb : b.AgreeOn names b') :
    d.valueAt b h = d.valueAt b' h := by
  -- operands have smaller handles
  induction hn : h.toNat using Nat.strong_induction_on generalizing h names with
  | _ n ih =>
    cases he : d.table.find? h with
    | none => cases hnames.symm.trans (requiredAt_of_find?_eq_none he)
    | some e =>
      cases e with
      | simple e =>
        obtain rfl := Except.ok.inj ((requiredAt_simple he).symm.trans hnames)
        rw [valueAt_simple he, valueAt_simple he]
        cases (hd.stored he).2.2 with
        | simple hparse =>
          obtain ⟨t, -, hformula⟩ := Formula.parse_eq_ok_iff.mp hparse
          rw [Equation.Simple.value, Equation.Simple.value, hformula]
          rw [hformula] at hb
          exact Tree.formula_value_congr _ (hb.subset fun _ hname => Text.mem_sortedNames.mpr hname)
      | composite e =>
        rw [hd.requiredAt_composite he] at hnames
        obtain ⟨left, hleft, hnames⟩ := bind_eq_ok_iff.mp hnames
        obtain ⟨right, hright, hnames⟩ := bind_eq_ok_iff.mp hnames
        obtain rfl := Except.ok.inj hnames
        have hl := hd.refers_lt ⟨e, he, .inl rfl⟩
        have hr := hd.refers_lt ⟨e, he, .inr rfl⟩
        have hvalueLeft : d.valueAt b e.left = d.valueAt b' e.left :=
          ih e.left.toNat (by omega) hleft
            (hb.subset fun _ hname => Text.mem_sortedNames.mpr (List.mem_append_left _ hname)) rfl
        have hvalueRight : d.valueAt b e.right = d.valueAt b' e.right :=
          ih e.right.toNat (by omega) hright
            (hb.subset fun _ hname => Text.mem_sortedNames.mpr (List.mem_append_right _ hname)) rfl
        rw [hd.valueAt_composite he, hd.valueAt_composite he, hvalueLeft, hvalueRight]

/-- Evaluations with the same result are the same in everything. -/
theorem evaluate_congr (hvalue : d.valueAt b h = d.valueAt b' h) :
    d.evaluate (some h) b = d.evaluate (some h) b' := by
  unfold valueAt at hvalue
  rw [evaluate_result, evaluate_result] at hvalue
  unfold evaluate
  cases hlocate : d.locate (some h) with
  | error e => rfl
  | ok p =>
    rw [hlocate, ok_bind, ok_bind] at hvalue
    simp only [hvalue]

/-- In a reachable directory, the names that an equation needs are exactly those that its value
depends on, while nothing that it needs has been deleted. With all of them bound it has a value or
fails in arithmetic. With one of them unbound it has no value: the failure names one of them that is
not bound, unless arithmetic fails before. Whatever else is bound never matters. -/
theorem required_names_exact (hd : d.Reachable) (hh : d.Intact h) :
    ∃ names, d.requiredAt h = .ok names ∧
      ∀ b,
        ((∀ name ∈ names, (b.value? name).isSome) →
          (∃ v, (d.evaluate (some h) b).result = .ok v) ∨
            ∃ a, (d.evaluate (some h) b).result = .error (.arithmetic a)) ∧
        ((∃ name ∈ names, b.value? name = none) →
          (∃ name ∈ names, b.value? name = none ∧
            (d.evaluate (some h) b).result = .error (.unboundVariable name)) ∨
            ∃ a, (d.evaluate (some h) b).result = .error (.arithmetic a)) ∧
        ∀ b', b.AgreeOn names b' → d.evaluate (some h) b = d.evaluate (some h) b' := by
  obtain ⟨text, htext⟩ := hd.wellFormed.exists_combined hh
  obtain ⟨t, -, hanswers⟩ := htext.exists_tree hd.wellFormed
  refine ⟨Text.sortedNames t.names, hanswers.required, fun b => ⟨?_, ?_, ?_⟩⟩
  · intro hbound
    have hnone : firstUnbound? b t.names = none :=
      firstUnbound?_eq_none_iff.mpr fun name hname => hbound name (Text.mem_sortedNames.mpr hname)
    have hvalue : (d.evaluate (some h) b).result = t.value b := hanswers.bound hnone
    rw [hvalue]
    exact Tree.value_of_bound hnone
  · rintro ⟨missing, hmissing, hunbound⟩
    cases hfirst : firstUnbound? b t.names with
    | none =>
      have hbound := firstUnbound?_eq_none_iff.mp hfirst missing (Text.mem_sortedNames.mp hmissing)
      simp [hunbound] at hbound
    | some name =>
      have hmem : name ∈ t.names := List.mem_of_find?_eq_some hfirst
      have hname : b.value? name = none := by simpa using List.find?_some hfirst
      refine (hanswers.unbound hfirst).imp_left fun hfail => ?_
      exact ⟨name, Text.mem_sortedNames.mpr hmem, hname, hfail⟩
  · intro b' hagree
    exact evaluate_congr (hd.wellFormed.valueAt_congr hanswers.required hagree)

/-- After an edit, a composite needs the new names of its operand and no longer the old ones. -/
theorem required_names_exact_edited :
    let d := empty.after [.create (some "x+y"), .create (some "c"),
      .merge (some 1) (some 2) (some "/"), .edit (some 1) (some "ab^")]
    d.Reachable ∧ d.Intact 3 ∧ d.requiredAt 3 = .ok ["a", "b", "c"] ∧
      (∀ b, b.value? "a" = none → ∀ v, (d.evaluate (some 3) b).result ≠ .ok v) ∧
      ∀ b v, d.evaluate (some 3) b = d.evaluate (some 3) (b.bind "x" v) := by
  intro d
  have hd : d.Reachable := Reachable.empty.after _
  have hpower : d.Combined 1 "ab^" :=
    .simple (e := ⟨1, (Tree.node .power (.leaf "a") (.leaf "b")).formula "ab^"⟩) rfl
  have hc : d.Combined 2 "c" := .simple (e := ⟨2, (Tree.leaf "c").formula "c"⟩) rfl
  have hquotient : d.Combined 3 "(ab^)/(c)" :=
    .composite (e := ⟨3, 1, 2, .divide⟩) rfl hpower hc
  obtain ⟨names, hrequired, hexact⟩ := required_names_exact hd hquotient.intact
  have hnames : d.requiredAt 3 = .ok ["a", "b", "c"] := by rfl
  obtain rfl : ["a", "b", "c"] = names := Except.ok.inj (hnames.symm.trans hrequired)
  refine ⟨hd, hquotient.intact, hnames, ?_, ?_⟩
  · intro b hb v hv
    rcases (hexact b).2.1 ⟨"a", by simp, hb⟩ with ⟨name, -, -, hfail⟩ | ⟨a, hfail⟩
    · cases hv.symm.trans hfail
    · cases hv.symm.trans hfail
  · intro b v
    refine (hexact b).2.2 _ fun name hname => (Bindings.value?_bind_of_ne b v ?_).symm
    rintro rfl
    simp at hname

end Directory

end Formulary
