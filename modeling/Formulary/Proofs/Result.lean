/-!
# Results that may be failures

How chains of steps, any of which can fail, come to an end.
-/

namespace Formulary

variable {ε ε' α β : Type}

@[simp]
theorem ok_bind (a : α) (f : α → Except ε β) : (Except.ok a >>= f) = f a := rfl

@[simp]
theorem error_bind (e : ε) (f : α → Except ε β) : (Except.error e >>= f) = .error e := rfl

@[simp]
theorem ok_map (a : α) (f : α → β) : (Except.ok a : Except ε α).map f = .ok (f a) := rfl

@[simp]
theorem error_map (e : ε) (f : α → β) : (Except.error e).map f = .error e := rfl

@[simp]
theorem ok_mapError (a : α) (f : ε → ε') : (Except.ok a).mapError f = .ok a := rfl

@[simp]
theorem error_mapError (e : ε) (f : ε → ε') :
    (Except.error e : Except ε α).mapError f = .error (f e) := rfl

/-- Two steps one after the other succeed exactly if the first does and the second does with its
result. -/
theorem bind_eq_ok_iff {x : Except ε α} {f : α → Except ε β} {b : β} :
    x >>= f = .ok b ↔ ∃ a, x = .ok a ∧ f a = .ok b := by
  cases x <;> simp

/-- A result under a function is a success exactly if the result is one. -/
theorem map_eq_ok_iff {x : Except ε α} {f : α → β} {b : β} :
    x.map f = .ok b ↔ ∃ a, x = .ok a ∧ f a = b := by
  cases x <;> simp

/-- A function on results leaves failures as they are. -/
theorem map_eq_error_iff {x : Except ε α} {f : α → β} {e : ε} :
    x.map f = .error e ↔ x = .error e := by
  cases x <;> simp

/-- A function on failures leaves results as they are. -/
theorem mapError_eq_ok_iff {x : Except ε α} {f : ε → ε'} {a : α} :
    x.mapError f = .ok a ↔ x = .ok a := by
  cases x <;> simp

/-- A list of steps succeeds exactly if each of them does. -/
theorem mapM_eq_ok_iff {f : α → Except ε β} {as : List α} {bs : List β} :
    as.mapM f = .ok bs ↔ as.map f = bs.map .ok := by
  induction as generalizing bs with
  | nil =>
    rw [List.mapM_nil, List.map_nil, eq_comm (a := []), List.map_eq_nil_iff]
    exact ⟨fun h => (Except.ok.inj h).symm, fun h => congrArg Except.ok h.symm⟩
  | cons a as ih =>
    rw [List.mapM_cons, bind_eq_ok_iff, List.map_cons]
    constructor
    · rintro ⟨b, hb, h⟩
      obtain ⟨rest, hrest, h⟩ := bind_eq_ok_iff.mp h
      obtain rfl := Except.ok.inj h
      rw [hb, ih.mp hrest, List.map_cons]
    · intro h
      obtain ⟨b, rest, rfl, hb, hrest⟩ := List.map_eq_cons_iff.mp h.symm
      exact ⟨b, hb.symm, bind_eq_ok_iff.mpr ⟨rest, ih.mpr hrest.symm, rfl⟩⟩

/-- A result of which something is true is a success. -/
theorem exists_of_any {x : Except ε α} {p : α → Bool} (h : x.toOption.any p = true) :
    ∃ a, x = .ok a ∧ p a = true := by
  cases x with
  | error => cases h
  | ok a => exact ⟨a, rfl, h⟩

/-- The failure of a result, if it is one. -/
def failureOf? : Except ε α → Option ε
  | .ok _ => none
  | .error e => some e

/-- What has a failure is that failure. -/
theorem failureOf?_eq_some_iff {x : Except ε α} {e : ε} :
    failureOf? x = some e ↔ x = .error e := by
  cases x <;> simp [failureOf?]

/-- What has no failure is a result. -/
theorem failureOf?_eq_none_iff {x : Except ε α} : failureOf? x = none ↔ ∃ a, x = .ok a := by
  cases x <;> simp [failureOf?]

/-- A function on results neither makes a failure nor removes one. -/
@[simp]
theorem failureOf?_map (x : Except ε α) (f : α → β) : failureOf? (x.map f) = failureOf? x := by
  cases x <;> rfl

end Formulary
