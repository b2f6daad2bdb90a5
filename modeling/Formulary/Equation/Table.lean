import Formulary.Equation.Evaluate

/-!
# Tables of equations

Equations by handle, in the order in which the handles were first used.
-/

namespace Formulary

/-- Handles with equations, in the order in which the handles were first used. -/
structure Table where
  entries : List (Int × Equation)
deriving DecidableEq, Inhabited

namespace Table

/-- There are no equations. -/
def empty : Table := ⟨[]⟩

/-- The equation that a list of pairs gives a handle. -/
def lookup (handle : Int) : List (Int × Equation) → Option Equation
  | [] => none
  | (h, e) :: rest => if h = handle then some e else lookup handle rest

/-- The equation under a handle. -/
def find? (t : Table) (handle : Int) : Option Equation :=
  lookup handle t.entries

/-- Whether there is an equation under a handle. -/
def contains (t : Table) (handle : Int) : Bool :=
  (t.find? handle).isSome

/-- The handles in use, in their order. -/
def handles (t : Table) : List Int :=
  t.entries.map (·.1)

/-- How many equations there are. -/
def size (t : Table) : Nat :=
  t.entries.length

/-- Replaces the equation of a handle in place, or adds the handle at the end. -/
def replace (handle : Int) (e : Equation) : List (Int × Equation) → List (Int × Equation)
  | [] => [(handle, e)]
  | (h, old) :: rest =>
    if h = handle then (handle, e) :: rest else (h, old) :: replace handle e rest

/-- Stores an equation under a handle, in place of the one that is there. -/
def insert (t : Table) (handle : Int) (e : Equation) : Table :=
  ⟨replace handle e t.entries⟩

/-- Removes the equation under a handle. -/
def erase (t : Table) (handle : Int) : Table :=
  ⟨t.entries.filter fun p => p.1 ≠ handle⟩

/-- The equation with a handle, or the failure that there is none. -/
def get (t : Table) (handle : Int) : Except Failure Equation :=
  Lookup.get t.find? handle

/-- The value of a stored equation. -/
def value (t : Table) (handle : Int) (b : Bindings) : Except Failure Number := do
  (← t.get handle).value t.find? b t.size

/-- The names that a stored equation needs. -/
def required (t : Table) (handle : Int) : Except Failure (List String) := do
  (← t.get handle).required t.find? t.size

/-- What is told about a stored equation. -/
def describe (t : Table) (handle : Int) : Except Failure Description := do
  (← t.get handle).describe t.find? t.size

/-- Gives the equation with a handle a new text; only simple equations have one. -/
def revise (t : Table) (handle : Int) (text : Option String) : Except Failure Table := do
  match ← t.get handle with
  | .simple e => pure (t.insert handle (.simple (← e.revise text)))
  | .composite _ => .error (.notSimple handle)

@[simp]
theorem find?_empty (handle : Int) : empty.find? handle = none := rfl

/-- Storing an equation changes one handle and no other. -/
theorem find?_insert (t : Table) (handle other : Int) (e : Equation) :
    (t.insert handle e).find? other = if handle = other then some e else t.find? other := by
  obtain ⟨es⟩ := t
  simp only [find?, insert]
  induction es with
  | nil => by_cases h : handle = other <;> simp [replace, lookup, h]
  | cons p rest ih =>
    by_cases hp : p.1 = handle
    · by_cases h : handle = other <;> simp [replace, lookup, hp, h]
    · by_cases ho : p.1 = other
      · have : handle ≠ other := fun h => hp (ho.trans h.symm)
        subst ho
        simp [replace, lookup, hp, this]
      · simp [replace, lookup, hp, ho, ih]

/-- Removing an equation changes one handle and no other. -/
theorem find?_erase (t : Table) (handle other : Int) :
    (t.erase handle).find? other = if handle = other then none else t.find? other := by
  obtain ⟨es⟩ := t
  simp only [find?, erase]
  induction es with
  | nil => simp [lookup]
  | cons p rest ih =>
    by_cases hp : p.1 = handle
    · rw [List.filter_cons_of_neg (by simp [hp]), ih]
      by_cases h : handle = other <;> simp [lookup, hp, h]
    · rw [List.filter_cons_of_pos (by simp [hp])]
      by_cases ho : p.1 = other
      · have : handle ≠ other := fun h => hp (ho.trans h.symm)
        simp [lookup, ho, this]
      · simp only [lookup, ho, if_false, ih]

/-- The handles in use are those under which an equation is found. -/
theorem mem_handles {t : Table} {handle : Int} :
    handle ∈ t.handles ↔ ∃ e, t.find? handle = some e := by
  obtain ⟨es⟩ := t
  simp only [handles, find?]
  induction es with
  | nil => simp [lookup]
  | cons p rest ih =>
    by_cases hp : p.1 = handle
    · simp [lookup, hp]
    · simp only [List.map_cons, List.mem_cons, lookup, hp, if_false, ih]
      simp [Ne.symm hp]

/-- Where no handle is there twice, every entry is found. -/
theorem find?_of_mem_entries {t : Table} {handle : Int} {e : Equation} (hnodup : t.handles.Nodup)
    (h : (handle, e) ∈ t.entries) : t.find? handle = some e := by
  obtain ⟨es⟩ := t
  simp only [handles, find?] at hnodup h ⊢
  induction es with
  | nil => cases h
  | cons p rest ih =>
    obtain ⟨hp, hrest⟩ := List.nodup_cons.mp hnodup
    rcases List.mem_cons.mp h with rfl | h
    · simp [lookup]
    · have hmem : handle ∈ rest.map (·.1) := List.mem_map.mpr ⟨(handle, e), h, rfl⟩
      have hne : p.1 ≠ handle := fun heq => hp (show p.1 ∈ rest.map (·.1) from heq ▸ hmem)
      simp only [lookup, hne, if_false]
      exact ih hrest h

/-- A new handle goes to the end. -/
theorem handles_insert (t : Table) (handle : Int) (e : Equation) :
    (t.insert handle e).handles =
      if handle ∈ t.handles then t.handles else t.handles ++ [handle] := by
  obtain ⟨es⟩ := t
  simp only [handles, insert]
  induction es with
  | nil => simp [replace]
  | cons p rest ih =>
    by_cases hp : p.1 = handle
    · simp [replace, hp]
    · simp only [replace, hp, if_false, List.map_cons, List.mem_cons, Ne.symm hp, false_or, ih]
      by_cases hmem : handle ∈ rest.map (·.1) <;> simp [hmem]

/-- The other handles keep their order. -/
theorem handles_erase (t : Table) (handle : Int) :
    (t.erase handle).handles = t.handles.filter (· ≠ handle) := by
  simp [handles, erase, List.filter_map, Function.comp_def]

/-- There are as many equations as handles in use. -/
theorem size_eq_length_handles (t : Table) : t.size = t.handles.length := by
  simp [size, handles]

end Table

end Formulary
