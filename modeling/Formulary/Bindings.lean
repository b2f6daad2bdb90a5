import Formulary.Number.Basic

/-!
# Bindings

The values given to variables by name. A name has at most one value, and binding it again
replaces that value in place.
-/

namespace Formulary

/-- Names with values, in the order in which the names were first bound. -/
structure Bindings where
  entries : List (String × Number)
deriving Inhabited

namespace Bindings

/-- No name has a value. -/
def empty : Bindings := ⟨[]⟩

/-- The value that a list of pairs gives a name: that of the first pair with this name. -/
def lookup (name : String) : List (String × Number) → Option Number
  | [] => none
  | (n, v) :: rest => if n = name then some v else lookup name rest

/-- The value of a name, if it is bound. -/
def value? (b : Bindings) (name : String) : Option Number :=
  lookup name b.entries

/-- Replaces the value of a name, or adds the name at the end. -/
def replace (name : String) (value : Number) : List (String × Number) → List (String × Number)
  | [] => [(name, value)]
  | (n, v) :: rest =>
    if n = name then (name, value) :: rest else (n, v) :: replace name value rest

/-- Gives a name a value, in place of the one that it has. -/
def bind (b : Bindings) (name : String) (value : Number) : Bindings :=
  ⟨replace name value b.entries⟩

/-- Binds the pairs of a list one after the other, so that the last value of a name wins. -/
def ofList (pairs : List (String × Number)) : Bindings :=
  pairs.foldl (fun b p => b.bind p.1 p.2) empty

@[simp]
theorem value?_empty (name : String) : empty.value? name = none := rfl

/-- A name that is bound has the value. -/
@[simp]
theorem value?_bind_self (b : Bindings) (name : String) (v : Number) :
    (b.bind name v).value? name = some v := by
  obtain ⟨es⟩ := b
  simp only [value?, bind]
  induction es with
  | nil => simp [replace, lookup]
  | cons e rest ih =>
    by_cases h : e.1 = name
    · simp [replace, lookup, h]
    · simp [replace, lookup, h, ih]

/-- Binding a name changes no other. -/
theorem value?_bind_of_ne (b : Bindings) {name other : String} (v : Number) (h : other ≠ name) :
    (b.bind name v).value? other = b.value? other := by
  obtain ⟨es⟩ := b
  simp only [value?, bind]
  induction es with
  | nil => simp [replace, lookup, Ne.symm h]
  | cons e rest ih =>
    by_cases he : e.1 = name
    · simp [replace, lookup, he, Ne.symm h]
    · by_cases ho : e.1 = other
      · subst ho
        simp [replace, lookup, h]
      · simp [replace, lookup, he, ho, ih]

end Bindings

end Formulary
