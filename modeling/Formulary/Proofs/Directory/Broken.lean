import Formulary.Proofs.Directory.Exact
import Formulary.Proofs.Directory.Lifecycle
import Formulary.Proofs.Equation.Edits

/-!
# Broken composites

A composite is broken when an equation that it needs, directly or through other composites, has been
deleted. Handles are never given out again and composites never change, so nothing mends it. Whoever
evaluates it is told the first handle that is missing, from left to right and depth first, unless an
expression or an operator fails before that handle is looked up.
-/

namespace Formulary

/-- A step in the evaluation of an equation. -/
inductive Visit
  /-- A handle is looked up. -/
  | look (handle : Int)
  /-- The text of a simple equation is evaluated, or the operator of a composite is applied to the
  values of its operands. -/
  | solve (handle : Int)

namespace Directory

variable {d : Directory} {h : Int} {visits : List Visit}

/-- The steps of an evaluation, from left to right and depth first, when no step ends it early. -/
inductive Visits (d : Directory) : Int → List Visit → Prop
  | absent {h : Int} : d.table.find? h = none → Visits d h [.look h]
  | simple {h : Int} {e : Equation.Simple} : d.table.find? h = some (.simple e) →
      Visits d h [.look h, .solve h]
  | composite {h : Int} {e : Equation.Composite} {left right : List Visit} :
      d.table.find? h = some (.composite e) → Visits d e.left left → Visits d e.right right →
      Visits d h (.look h :: (left ++ right ++ [.solve h]))

/-- The steps of an evaluation are determined by the directory. -/
theorem Visits.unique {other : List Visit} (hvisits : d.Visits h visits)
    (hother : d.Visits h other) : other = visits := by
  induction hvisits generalizing other with
  | absent he =>
    cases hother with
    | absent => rfl
    | simple he' | composite he' => cases he.symm.trans he'
  | simple he =>
    cases hother with
    | simple => rfl
    | absent he' | composite he' => cases he.symm.trans he'
  | composite he _ _ ihl ihr =>
    cases hother with
    | absent he' | simple he' => cases he.symm.trans he'
    | composite he' hleft hright =>
      cases he.symm.trans he'
      rw [ihl hleft, ihr hright]

/-- Every evaluation has its steps, since operands have smaller handles. -/
theorem WellFormed.exists_visits (hd : d.WellFormed) (h : Int) : ∃ visits, d.Visits h visits := by
  -- operands have smaller handles
  induction hn : h.toNat using Nat.strong_induction_on generalizing h with
  | _ n ih =>
    cases he : d.table.find? h with
    | none => exact ⟨_, .absent he⟩
    | some e =>
      cases e with
      | simple e => exact ⟨_, .simple he⟩
      | composite e =>
        have hl := hd.refers_lt ⟨e, he, .inl rfl⟩
        have hr := hd.refers_lt ⟨e, he, .inr rfl⟩
        obtain ⟨left, hleft⟩ := ih e.left.toNat (by omega) e.left rfl
        obtain ⟨right, hright⟩ := ih e.right.toNat (by omega) e.right rfl
        exact ⟨_, .composite he hleft hright⟩

/-- Everything below an equation is looked up. -/
theorem Visits.look_mem (hvisits : d.Visits h visits) {k : Int}
    (hk : Relation.ReflTransGen d.Refers h k) : .look k ∈ visits := by
  induction hvisits with
  | absent he | simple he =>
    rcases hk.cases_head with rfl | ⟨_, ⟨_, he', _⟩, _⟩
    · exact List.mem_cons_self
    · cases he.symm.trans he'
  | composite he _ _ ihl ihr =>
    rcases hk.cases_head with rfl | ⟨j, ⟨_, he', hj⟩, hrest⟩
    · exact List.mem_cons_self
    · cases he.symm.trans he'
      apply List.mem_cons_of_mem
      apply List.mem_append_left
      rcases hj with rfl | rfl
      · exact List.mem_append_left _ (ihl hrest)
      · exact List.mem_append_right _ (ihr hrest)

/-- Why a step of an evaluation fails, if it does: no equation has the handle, or the expression or
the operator fails by itself. An operator is not applied unless both operands have a value. -/
def failureAt? (d : Directory) (b : Bindings) : Visit → Option Failure
  | .look h =>
    match d.table.find? h with
    | some _ => none
    | none => some (.notFound (some h))
  | .solve h =>
    match d.table.find? h with
    | some (.simple e) => failureOf? (e.value b)
    | some (.composite e) =>
      match d.valueAt b e.left, d.valueAt b e.right with
      | .ok x, .ok y => failureOf? ((e.operator.apply x y).mapError .arithmetic)
      | _, _ => none
    | none => none

/-- An evaluation fails as the first of its steps that fails, and has a value if none does. -/
theorem WellFormed.failureOf?_valueAt (hd : d.WellFormed) (hvisits : d.Visits h visits)
    (b : Bindings) : failureOf? (d.valueAt b h) = visits.findSome? (d.failureAt? b) := by
  induction hvisits with
  | absent he => rw [valueAt_of_find?_eq_none he]; simp [failureAt?, he, failureOf?]
  | simple he => rw [valueAt_simple he]; simp [failureAt?, he]
  | @composite h e left right he _ _ ihl ihr =>
    have hlook : d.failureAt? b (.look h) = none := by simp only [failureAt?, he]
    rw [List.findSome?_cons, hlook, List.findSome?_append, List.findSome?_append, ← ihl, ← ihr,
      List.findSome?_singleton, hd.valueAt_composite he]
    simp only [failureAt?, he]
    -- the operator is reached when both operands have a value
    cases d.valueAt b e.left with
    | error failure => rfl
    | ok x => cases d.valueAt b e.right <;> rfl

/-- Looking up a handle that is there does not fail. -/
theorem failureAt?_look_of_contains {b : Bindings} {k : Int} (hk : d.contains (some k) = true) :
    d.failureAt? b (.look k) = none := by
  obtain ⟨e, he⟩ := Option.isSome_iff_exists.mp hk
  simp only [failureAt?, he]

/-- An expression fails for a name that is not bound or in arithmetic, an operator in arithmetic. -/
theorem WellFormed.failureAt?_solve (hd : d.WellFormed) {b : Bindings} {k : Int} {e : Failure}
    (hfail : d.failureAt? b (.solve k) = some e) :
    (∃ name, e = .unboundVariable name) ∨ ∃ a, e = .arithmetic a := by
  cases hk : d.table.find? k with
  | none => simp [failureAt?, hk] at hfail
  | some stored =>
    cases stored with
    | simple s =>
      cases (hd.stored hk).2.2 with
      | @simple f hparse =>
        simp only [failureAt?, hk] at hfail
        have hvalue : f.value b = .error e := failureOf?_eq_some_iff.mp hfail
        rcases Formula.value_cases hparse b with ⟨v, hv⟩ | ⟨name, hname⟩ | ⟨a, ha⟩
        · cases hvalue.symm.trans hv
        · exact .inl ⟨name, Except.error.inj (hvalue.symm.trans hname)⟩
        · exact .inr ⟨a, Except.error.inj (hvalue.symm.trans ha)⟩
    | composite c =>
      simp only [failureAt?, hk] at hfail
      split at hfail
      · next x y hx hy =>
        rw [failureOf?_eq_some_iff] at hfail
        cases happly : c.operator.apply x y with
        | ok v => simp [happly] at hfail
        | error a => exact .inr ⟨a, by simpa [happly, eq_comm] using hfail⟩
      · cases hfail

/-- The step looks up a handle that no equation has. -/
def misses (d : Directory) : Visit → Bool
  | .look h => !d.contains (some h)
  | .solve _ => false

/-- Among steps that look up a missing handle, one is the first. -/
theorem exists_first_missing {k : Int} (hk : .look k ∈ visits)
    (hnone : d.contains (some k) = false) :
    ∃ before missing rest, visits = before ++ .look missing :: rest ∧
      d.contains (some missing) = false ∧ ∀ j, .look j ∈ before → d.contains (some j) = true := by
  obtain ⟨step, hstep⟩ : ∃ step, visits.find? d.misses = some step :=
    Option.isSome_iff_exists.mp (List.find?_isSome.mpr ⟨.look k, hk, by simp [misses, hnone]⟩)
  obtain ⟨hmisses, before, rest, hvisits, hbefore⟩ := List.find?_eq_some_iff_append.mp hstep
  cases step with
  | look missing =>
    refine ⟨before, missing, rest, hvisits, by simpa [misses] using hmisses, fun j hj => ?_⟩
    simpa [misses] using hbefore _ hj
  | solve j => cases hmisses

/-- How an evaluation ends that comes to a missing handle: with the handle that is missing, unless
an expression or an operator fails before. -/
theorem WellFormed.valueAt_of_missing (hd : d.WellFormed) {before rest : List Visit} {missing : Int}
    (hvisits : d.Visits h (before ++ .look missing :: rest))
    (hmissing : d.contains (some missing) = false)
    (hbefore : ∀ j, .look j ∈ before → d.contains (some j) = true) (b : Bindings) :
    ((∀ step ∈ before, d.failureAt? b step = none) ∧
      d.valueAt b h = .error (.notFound (some missing))) ∨
    ∃ j e, .solve j ∈ before ∧ d.failureAt? b (.solve j) = some e ∧ d.valueAt b h = .error e ∧
      ((∃ name, e = .unboundVariable name) ∨ ∃ a, e = .arithmetic a) := by
  have hfail := hd.failureOf?_valueAt hvisits b
  rw [List.findSome?_append] at hfail
  cases hfirst : before.findSome? (d.failureAt? b) with
  | none =>
    have hlook : d.failureAt? b (.look missing) = some (.notFound (some missing)) := by
      have hnone : d.table.find? missing = none := by
        simpa [contains, Table.contains] using hmissing
      simp only [failureAt?, hnone]
    rw [hfirst, Option.none_or, List.findSome?_cons, hlook] at hfail
    exact .inl ⟨List.findSome?_eq_none_iff.mp hfirst, failureOf?_eq_some_iff.mp hfail⟩
  | some e =>
    rw [hfirst, Option.some_or] at hfail
    obtain ⟨step, hstep, he⟩ := List.exists_of_findSome?_eq_some hfirst
    cases step with
    | look j => cases he.symm.trans (failureAt?_look_of_contains (hbefore j hstep))
    | solve j =>
      exact .inr ⟨j, e, hstep, he, failureOf?_eq_some_iff.mp hfail, hd.failureAt?_solve he⟩

/-- A handle that is in use after a run, and was given out before it, was in use before and not
freed. -/
theorem WellFormed.mem_handles_of_after (hd : d.WellFormed) {ops : List Operation} {k : Int}
    (hk : k ∈ (d.after ops).handles) (hle : k ≤ d.lastHandle) :
    k ∈ d.handles ∧ k ∉ d.removed ops := by
  rw [hd.handles_after ops, List.mem_filter, List.mem_append, decide_eq_true_eq] at hk
  obtain ⟨hused | hmade, hkept⟩ := hk
  · exact ⟨hused, hkept⟩
  · have hlt := hd.lt_of_mem_made hmade
    omega

/-- What is intact after a run, and was there before it, was intact before it. -/
theorem WellFormed.intact_of_intact_after (hd : d.WellFormed) {ops : List Operation} {e : Equation}
    (he : d.table.find? h = some e) (hafter : (d.after ops).Intact h) : d.Intact h := by
  have hused {k : Int} (hk : Relation.ReflTransGen (d.after ops).Refers h k) :
      k ∈ (d.after ops).handles :=
    mem_handles.mpr (Option.isSome_iff_exists.mp (hafter k hk))
  -- all that is below `h` was there before, and composites have kept their operands
  have hbelow : ∀ k, Relation.ReflTransGen d.Refers h k →
      k ∈ d.handles ∧ Relation.ReflTransGen (d.after ops).Refers h k := by
    intro k hk
    induction hk with
    | refl => exact ⟨mem_handles.mpr ⟨e, he⟩, .refl⟩
    | @tail j k _ hrefers ih =>
      obtain ⟨hj, hchain⟩ := ih
      have hlast : j ≤ d.lastHandle := hd.le_of_mem_handles hj
      have hlt : k < j := (hd.refers_lt hrefers).2
      have hkept : j ∉ d.removed ops := (hd.mem_handles_of_after (hused hchain) hlast).2
      obtain ⟨c, hc, hk⟩ := hrefers
      obtain ⟨c', hc', hrevised⟩ := hd.find?_after hc hkept
      cases hrevised
      have hchain' := hchain.tail ⟨c, hc', hk⟩
      exact ⟨(hd.mem_handles_of_after (hused hchain') (by omega)).1, hchain'⟩
  intro k hk
  exact Option.isSome_iff_exists.mpr (mem_handles.mp (hbelow k hk).1)

/-- A composite of a reachable directory is broken if an equation that it needs is missing. Then it
has no value, now and after every further run, whether it is still there itself or not. The steps of
its evaluation come to a first handle that is missing, which is its own if it is missing itself. The
failure is that this handle is not found, unless an expression or an operator that comes before
fails, for an unbound name or in arithmetic. No other handle is ever reported as not found. -/
theorem broken_stays_broken (hd : d.Reachable) {k : Int} (hk : Relation.TransGen d.Refers h k)
    (hmissing : d.contains (some k) = false) (later : List Operation) (b : Bindings) :
    let d' := d.after later
    (∀ v, (d'.evaluate (some h) b).result ≠ .ok v) ∧
    ∃ before missing rest,
      d'.Visits h (before ++ .look missing :: rest) ∧
      (∀ visits, d'.Visits h visits → visits = before ++ .look missing :: rest) ∧
      d'.contains (some missing) = false ∧
      (∀ j, .look j ∈ before → d'.contains (some j) = true) ∧
      (d'.contains (some h) = false → missing = h) ∧
      (∀ r, (d'.evaluate (some h) b).result = .error (.notFound r) → r = some missing) ∧
      (((∀ step ∈ before, d'.failureAt? b step = none) ∧
          (d'.evaluate (some h) b).result = .error (.notFound (some missing))) ∨
        ∃ j e, .solve j ∈ before ∧ d'.failureAt? b (.solve j) = some e ∧
          (d'.evaluate (some h) b).result = .error e ∧
          ((∃ name, e = .unboundVariable name) ∨ ∃ a, e = .arithmetic a)) := by
  intro d'
  have hwf : d'.WellFormed := hd.wellFormed.after later
  have hbroken : ¬ d'.Intact h := by
    intro hintact
    obtain ⟨-, ⟨c, hc, -⟩, -⟩ := Relation.TransGen.head'_iff.mp hk
    have hpresent := hd.wellFormed.intact_of_intact_after hc hintact k hk.to_reflTransGen
    cases hpresent.symm.trans hmissing
  obtain ⟨j, hj, hnone⟩ : ∃ j, Relation.ReflTransGen d'.Refers h j ∧
      d'.contains (some j) = false := by
    simpa [Intact] using hbroken
  obtain ⟨visits, hvisits⟩ := hwf.exists_visits h
  obtain ⟨before, missing, rest, rfl, hmissing', hbefore⟩ :=
    exists_first_missing (hvisits.look_mem hj) hnone
  have hends := hwf.valueAt_of_missing hvisits hmissing' hbefore b
  refine ⟨fun v hv => ?_, before, missing, rest, hvisits, fun _ hother => hvisits.unique hother,
    hmissing', hbefore, fun hh => ?_, fun r hr => ?_, hends⟩
  · exact hbroken (hwf.intact_of_valueAt hv)
  · -- nothing comes after a handle that is missing itself
    have hnone : d'.table.find? h = none := by simpa [contains, Table.contains] using hh
    have halone : [.look h] = before ++ .look missing :: rest := hvisits.unique (.absent hnone)
    cases before with
    | nil => exact (Visit.look.inj (List.cons.inj halone).1).symm
    | cons step before => simp at halone
  · rcases hends with ⟨-, hnotFound⟩ | ⟨j, e, -, -, hfailed, ⟨name, rfl⟩ | ⟨a, rfl⟩⟩
    · cases hnotFound.symm.trans hr
      rfl
    · cases hfailed.symm.trans hr
    · cases hfailed.symm.trans hr

/-- A new equation like the deleted one, and edits of other equations, do not mend a composite. -/
theorem broken_stays_broken_replaced :
    let d := empty.after [.create (some "a"), .create (some "b"),
      .merge (some 1) (some 2) (some "+"), .merge (some 3) (some 1) (some "/"),
      .delete (some 2)]
    let later := [.create (some "b"), .edit (some 1) (some "c"), .edit (some 2) (some "b"),
      .merge (some 4) (some 5) (some "*")]
    let d' := d.after later
    d.Reachable ∧ Relation.TransGen d.Refers 4 2 ∧ d.contains (some 2) = false ∧
      (∀ b v, (d'.evaluate (some 4) b).result ≠ .ok v) ∧
      ∀ b r, (d'.evaluate (some 4) b).result = .error (.notFound r) → r = some 2 := by
  intro d later d'
  have hd : d.Reachable := Reachable.empty.after _
  have hbelow : Relation.TransGen d.Refers 4 2 :=
    .tail (.single ⟨⟨4, 3, 1, .divide⟩, by rfl, .inl rfl⟩) ⟨⟨3, 1, 2, .plus⟩, by rfl, .inr rfl⟩
  have hmissing : d.contains (some 2) = false := by rfl
  have hbroken := broken_stays_broken hd hbelow hmissing later
  have hone : d'.Visits 1 [.look 1, .solve 1] :=
    .simple (e := ⟨1, (Tree.leaf "c").formula "c"⟩) (by rfl)
  have hsum : d'.Visits 3 [.look 3, .look 1, .solve 1, .look 2, .solve 3] :=
    .composite (e := ⟨3, 1, 2, .plus⟩) (by rfl) hone (.absent (by rfl))
  have hquotient : d'.Visits 4 [.look 4, .look 3, .look 1, .solve 1, .look 2, .solve 3, .look 1,
      .solve 1, .solve 4] :=
    .composite (e := ⟨4, 3, 1, .divide⟩) (by rfl) hsum hone
  refine ⟨hd, hbelow, hmissing, fun b => (hbroken b).1, fun b r hr => ?_⟩
  obtain ⟨-, before, missing, rest, -, hunique, hnone, -, -, hnotFound, -⟩ := hbroken b
  have hmem : .look missing ∈ before ++ .look missing :: rest := by simp
  rw [← hunique _ hquotient] at hmem
  -- the others are still there
  have hmissing' : missing = 2 := by
    simp only [List.mem_cons, Visit.look.injEq, reduceCtorEq, List.not_mem_nil, or_false,
      false_or] at hmem
    rcases hmem with rfl | rfl | rfl | rfl | rfl
    · cases hnone
    · cases hnone
    · cases hnone
    · rfl
    · cases hnone
  rw [hnotFound r hr, hmissing']

end Directory

end Formulary
