/-!
# Sorted names
-/

namespace Formulary.Text

/-- Puts a name into an ascending list of distinct names, unless it is there already. Names are
ordered by their code points. -/
def insertName (name : String) : List String → List String
  | [] => [name]
  | n :: ns =>
    if name = n then n :: ns
    else if name < n then name :: n :: ns
    else n :: insertName name ns

/-- The distinct names of a list in ascending order. -/
def sortedNames : List String → List String
  | [] => []
  | name :: names => insertName name (sortedNames names)

/-- Inserting a name adds it and nothing else. -/
theorem mem_insertName {x name : String} {ns : List String} :
    x ∈ insertName name ns ↔ x = name ∨ x ∈ ns := by
  induction ns with
  | nil => simp [insertName]
  | cons n ns ih =>
    unfold insertName
    split
    · next h => subst h; simp
    · split
      · simp
      · simp only [List.mem_cons, ih]
        exact or_left_comm

/-- Sorting keeps exactly the names of a list. -/
theorem mem_sortedNames {x : String} {names : List String} :
    x ∈ sortedNames names ↔ x ∈ names := by
  induction names with
  | nil => simp [sortedNames]
  | cons n ns ih => simp [sortedNames, mem_insertName, ih]

end Formulary.Text
