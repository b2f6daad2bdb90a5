import Formulary.Proofs.Directory.Reachable

/-!
# Refused requests

A request that is refused leaves no trace: not in the directory, not in what it reports, and not in
any answer to a later request. All refused requests of a run can be left out of it.
-/

namespace Formulary

/-- The request was served: there is an answer. -/
def Outcome.isServed {α : Type} (o : Outcome α) : Bool :=
  match o.result with
  | .ok _ => true
  | .error _ => false

theorem Outcome.isServed_of_ok {α : Type} {o : Outcome α} {a : α} (ha : o.result = .ok a) :
    o.isServed = true := by
  rw [isServed, ha]

theorem Outcome.isServed_of_error {α : Type} {o : Outcome α} {e : Failure}
    (he : o.result = .error e) : o.isServed = false := by
  rw [isServed, he]

namespace Directory

variable {d : Directory} {op : Operation} {e : Failure}

/-- Of the ways in which a request can end, a failure fits only the refusal. -/
theorem Served.eq_failed {outcome : Outcome Answer} (h : d.Served op outcome)
    (he : outcome.result = .error e) : outcome = d.failed e := by
  cases h with
  | refused op e' =>
    obtain rfl : e' = e := Except.error.inj he
    rfl
  -- in every other case there is an answer
  | _ => cases he

/-- A refused request leaves behind its failure and nothing else. -/
theorem perform_eq_failed (he : (d.perform op).result = .error e) : d.perform op = d.failed e :=
  (d.perform_served op).eq_failed he

/-- A refused request leaves the directory as it is. -/
theorem perform_directory_eq (he : (d.perform op).result = .error e) :
    (d.perform op).directory = d := by
  rw [perform_eq_failed he]
  rfl

/-- The requests of a list that are served when the list is run from first to last. -/
def succeeding (d : Directory) : List Operation → List Operation
  | [] => []
  | op :: ops =>
    let outcome := d.perform op
    let rest := succeeding outcome.directory ops
    if outcome.isServed then op :: rest else rest

/-- A request that is served stays in a run. -/
theorem succeeding_cons_of_ok {a : Answer} {ops : List Operation}
    (ha : (d.perform op).result = .ok a) :
    d.succeeding (op :: ops) = op :: (d.perform op).directory.succeeding ops := by
  simp [succeeding, Outcome.isServed_of_ok ha]

/-- A request that is refused is left out of it. -/
theorem succeeding_cons_of_error {ops : List Operation} (he : (d.perform op).result = .error e) :
    d.succeeding (op :: ops) = d.succeeding ops := by
  simp [succeeding, Outcome.isServed_of_error he, perform_directory_eq he]

/-- A run without its refused requests has the outcomes of the others. -/
theorem run_succeeding (d : Directory) (ops : List Operation) :
    d.run (d.succeeding ops) = (d.run ops).filter Outcome.isServed := by
  induction ops generalizing d with
  | nil => rfl
  | cons op ops ih =>
    cases hresult : (d.perform op).result with
    | ok a =>
      rw [succeeding_cons_of_ok hresult, run, run,
        List.filter_cons_of_pos (Outcome.isServed_of_ok hresult), ih]
    | error e =>
      have hrefused : ¬ (d.perform op).isServed = true := by
        simp [Outcome.isServed_of_error hresult]
      rw [succeeding_cons_of_error hresult, run, List.filter_cons_of_neg hrefused,
        perform_directory_eq hresult, ih]

/-- A run without its refused requests leads to the same directory. -/
theorem after_succeeding (d : Directory) (ops : List Operation) :
    d.after (d.succeeding ops) = d.after ops := by
  induction ops generalizing d with
  | nil => rfl
  | cons op ops ih =>
    cases hresult : (d.perform op).result with
    | ok a =>
      rw [succeeding_cons_of_ok hresult]
      exact ih _
    | error e =>
      have hskip : d.after (op :: ops) = d.after ops :=
        congrArg (after · ops) (perform_directory_eq hresult)
      rw [succeeding_cons_of_error hresult, hskip, ih]

/-- A refused request changes nothing, whatever it asks for and wherever in a run it stands. The
counter, the handles and all equations stay as they are, and nothing is reported. Without the
request, the run gives the same answers to all the others and ends in the same directory; and so it
does without all of its refused requests. -/
theorem refusals_change_nothing (d : Directory) :
    (∀ op e, (d.perform op).result = .error e →
      (d.perform op).directory = d ∧ (d.perform op).notices = []) ∧
    (∀ ops op later e, ((d.after ops).perform op).result = .error e →
      (d.run (ops ++ op :: later)).eraseIdx ops.length = d.run (ops ++ later) ∧
      d.after (ops ++ op :: later) = d.after (ops ++ later)) ∧
    ∀ ops, d.run (d.succeeding ops) = (d.run ops).filter Outcome.isServed ∧
      d.after (d.succeeding ops) = d.after ops := by
  refine ⟨fun op e he => ?_, fun ops op later e he => ?_, fun ops => ?_⟩
  · rw [perform_eq_failed he]
    exact ⟨rfl, rfl⟩
  · have hsame : ((d.after ops).perform op).directory = d.after ops := perform_directory_eq he
    have hrun : (d.after ops).run (op :: later) =
        (d.after ops).perform op :: (d.after ops).run later := by
      rw [run, hsame]
    constructor
    · rw [run_append, run_append, hrun, ← d.length_run ops,
        List.eraseIdx_append_of_length_le (Nat.le_refl _), Nat.sub_self, List.eraseIdx_cons_zero]
    · rw [after_append, after_append]
      exact congrArg (after · later) hsame
  · exact ⟨d.run_succeeding ops, d.after_succeeding ops⟩

/-- A composite cannot be edited, and the run goes on as without that request. -/
theorem refusals_change_nothing_midway :
    let ops := [.create (some "a"), .merge (some 1) (some 1) (some "+")]
    ((empty.after ops).perform (.edit (some 2) (some "b"))).result = .error (.notSimple 2) ∧
      ((empty.after ops).perform (.edit (some 2) (some "b"))).directory = empty.after ops ∧
      (∀ later, (empty.run (ops ++ .edit (some 2) (some "b") :: later)).eraseIdx 2 =
        empty.run (ops ++ later)) ∧
      empty.run (empty.succeeding (.delete none :: ops)) =
        (empty.run (.delete none :: ops)).filter Outcome.isServed := by
  intro ops
  have hrefused : ((empty.after ops).perform (.edit (some 2) (some "b"))).result =
      .error (.notSimple 2) := by rfl
  obtain ⟨hsame, -, -⟩ := refusals_change_nothing (empty.after ops)
  obtain ⟨-, hleft, hall⟩ := refusals_change_nothing empty
  exact ⟨hrefused, (hsame _ _ hrefused).1, fun later => (hleft ops _ later _ hrefused).1,
    (hall _).1⟩

end Directory

end Formulary
