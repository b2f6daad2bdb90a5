import Mathlib.Data.List.Find
import Formulary.Proofs.Expression.Accepted

/-!
# Bindings that agree

The value of an expression depends on the names in it and on nothing else that is bound.
-/

namespace Formulary

/-- Every one of the names has the same value in both bindings or is unbound in both. -/
def Bindings.AgreeOn (names : List String) (b b' : Bindings) : Prop :=
  ∀ name ∈ names, b.value? name = b'.value? name

variable {b b' : Bindings}

/-- Bindings that agree on some names agree on part of them. -/
theorem Bindings.AgreeOn.subset {names names' : List String} (h : b.AgreeOn names b')
    (hsub : ∀ name ∈ names', name ∈ names) : b.AgreeOn names' b' :=
  fun name hname => h name (hsub name hname)

/-- Bindings that agree on some names have the same first unbound name among them. -/
theorem firstUnbound?_congr {names : List String} (h : b.AgreeOn names b') :
    firstUnbound? b names = firstUnbound? b' names := by
  apply List.find?_congr
  intro name hname
  rw [h name hname]

/-- The value of a tree depends on the values of its names only. -/
theorem Tree.value_congr {t : Tree} (h : b.AgreeOn t.names b') : t.value b = t.value b' := by
  induction t with
  | leaf name =>
    have hname : b.value? name = b'.value? name := h name (List.mem_singleton_self name)
    simp only [Tree.value, hname]
  | node o left right ihl ihr =>
    have hleft := ihl (h.subset fun _ hname => List.mem_append_left _ hname)
    have hright := ihr (h.subset fun _ hname => List.mem_append_right _ hname)
    simp only [Tree.value, hleft, hright]

/-- The value of the formula of a tree depends on the values of its names only. -/
theorem Tree.formula_value_congr {t : Tree} (text : String) (h : b.AgreeOn t.names b') :
    (t.formula text).value b = (t.formula text).value b' := by
  rw [Tree.formula_value, Tree.formula_value, firstUnbound?_congr h, Tree.value_congr h]

end Formulary
