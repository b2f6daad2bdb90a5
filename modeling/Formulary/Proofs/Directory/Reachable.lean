import Formulary.Proofs.Directory.Served

/-!
# Directories that operations lead to

Every operation makes at most one change to a directory, and there are four kinds of change. What
all of them keep holds in every directory that operations can lead to, whether they fail or not.

## Main definitions

* `Directory.Change` — what an operation may do to a directory
* `Directory.after` — the directory after a list of operations
* `Directory.Reachable` — the directories that operations lead to from the empty one
* `Proper` — what is true of every equation that is kept under a handle
* `Directory.WellFormed` — the invariant of the reachable directories
-/

namespace Formulary

namespace Directory

/-- What an operation may do to a directory. -/
inductive Change (d : Directory) : Directory → Prop
  | none : Change d d
  | create {f : Formula} : Formula.parse f.text = .ok f →
      Change d (d.keep (.simple ⟨d.lastHandle + 1, f⟩))
  | edit {h : Int} {e : Equation.Simple} {f : Formula} : d.table.find? h = some (.simple e) →
      Formula.parse f.text = .ok f →
      Change d { d with table := d.table.insert h (.simple { e with formula := f }) }
  | merge {l r : Int} {left right : Equation} (o : Operator) : d.table.find? l = some left →
      d.table.find? r = some right → Change d (d.keep (.composite ⟨d.lastHandle + 1, l, r, o⟩))
  | delete {h : Int} {e : Equation} : d.table.find? h = some e →
      Change d { d with table := d.table.erase h }

/-- Whatever becomes of a request, it makes one change or none. -/
theorem Served.change {d : Directory} {op : Operation} {outcome : Outcome Answer}
    (h : d.Served op outcome) : d.Change outcome.directory := by
  cases h with
  | created hf => exact .create hf
  | edited hfind hf => exact .edit hfind hf
  | merged o hl hr => exact .merge o hl hr
  | deleted hfind => exact .delete hfind
  | refused | evaluated | asked => exact .none

/-- An operation makes one change or none, whatever its arguments are and whether it fails or
not. -/
theorem perform_change (d : Directory) (op : Operation) : d.Change (d.perform op).directory :=
  (d.perform_served op).change

/-- The directories that operations lead to from the empty one. -/
inductive Reachable : Directory → Prop
  | empty : Reachable empty
  | perform {d : Directory} (op : Operation) : Reachable d → Reachable (d.perform op).directory

/-- The directory after a list of operations. -/
def after (d : Directory) (ops : List Operation) : Directory :=
  ops.foldl (fun d op => (d.perform op).directory) d

theorem after_append (d : Directory) (ops later : List Operation) :
    d.after (ops ++ later) = (d.after ops).after later :=
  List.foldl_append

theorem length_run (d : Directory) (ops : List Operation) : (d.run ops).length = ops.length := by
  induction ops generalizing d with
  | nil => rfl
  | cons op ops ih => exact congrArg (· + 1) (ih _)

/-- The outcomes of a run in two parts. -/
theorem run_append (d : Directory) (ops later : List Operation) :
    d.run (ops ++ later) = d.run ops ++ (d.after ops).run later := by
  induction ops generalizing d with
  | nil => rfl
  | cons op ops ih => exact congrArg (d.perform op :: ·) (ih _)

/-- A run leads from a reachable directory to a reachable one. -/
theorem Reachable.after {d : Directory} (hd : d.Reachable) (ops : List Operation) :
    (d.after ops).Reachable := by
  induction ops generalizing d with
  | nil => exact hd
  | cons op ops ih => exact ih (hd.perform op)

/-- The reachable directories are those after some run. -/
theorem reachable_iff {d : Directory} : d.Reachable ↔ ∃ ops, d = empty.after ops := by
  constructor
  · intro h
    induction h with
    | empty => exact ⟨[], rfl⟩
    | @perform d op _ ih =>
      obtain ⟨ops, rfl⟩ := ih
      exact ⟨ops ++ [op], by simp [Directory.after]⟩
  · rintro ⟨ops, rfl⟩
    exact Reachable.empty.after ops

end Directory

/-- What is true of every equation that is kept under a handle: it has the handle as its id, a
simple one was read from its text, and the operands of a composite have smaller handles. -/
inductive Proper (h : Int) : Equation → Prop
  | simple {f : Formula} : Formula.parse f.text = .ok f → Proper h (.simple ⟨h, f⟩)
  | composite {l r : Int} (o : Operator) : 1 ≤ l → l < h → 1 ≤ r → r < h →
      Proper h (.composite ⟨h, l, r, o⟩)

/-- An equation has the handle under which it is kept. -/
theorem Proper.id_eq {h : Int} {e : Equation} (he : Proper h e) : e.id = h := by
  cases he <;> rfl

namespace Table

variable {t : Table} {handle other : Int} {e e' : Equation}

/-- What is found after storing an equation is that equation or was found before. -/
theorem of_find?_insert (h : (t.insert handle e).find? other = some e') :
    (other = handle ∧ e' = e) ∨ t.find? other = some e' := by
  rw [find?_insert] at h
  split at h
  · next heq => exact .inl ⟨heq.symm, (Option.some.inj h).symm⟩
  · exact .inr h

/-- What is found after a removal was found before. -/
theorem of_find?_erase (h : (t.erase handle).find? other = some e') :
    t.find? other = some e' := by
  rw [find?_erase] at h
  split at h
  · cases h
  · exact h

end Table

namespace Directory

/-- The invariant of the reachable directories. Operands are below their composite's handle also
when they are no longer there. -/
structure WellFormed (d : Directory) : Prop where
  counter : 0 ≤ d.lastHandle
  stored : ∀ {h : Int} {e : Equation}, d.table.find? h = some e →
    1 ≤ h ∧ h ≤ d.lastHandle ∧ Proper h e

/-- The empty directory is well-formed. -/
theorem WellFormed.empty : WellFormed empty :=
  ⟨Int.le_refl 0, fun h => by simp [Directory.empty] at h⟩

/-- Keeping a proper equation under the next handle keeps a directory well-formed. -/
theorem WellFormed.keep {d : Directory} (hd : d.WellFormed) {e : Equation}
    (he : Proper (d.lastHandle + 1) e) : (d.keep e).WellFormed := by
  have hcounter := hd.counter
  unfold Directory.keep
  rw [he.id_eq]
  refine ⟨by simp only; omega, fun {k e'} hk => ?_⟩
  rcases Table.of_find?_insert hk with ⟨rfl, rfl⟩ | hk
  · exact ⟨by omega, Int.le_refl _, he⟩
  · obtain ⟨hpos, hle, hproper⟩ := hd.stored hk
    exact ⟨hpos, by simp only; omega, hproper⟩

/-- Each of the four changes keeps a directory well-formed. -/
theorem WellFormed.change {d d' : Directory} (hd : d.WellFormed) (h : d.Change d') :
    d'.WellFormed := by
  cases h with
  | none => exact hd
  | create hf => exact hd.keep (.simple hf)
  | @edit h e f hfind hf =>
    -- a new text changes neither the handle nor the id
    refine ⟨hd.counter, fun {k e'} hk => ?_⟩
    rcases Table.of_find?_insert hk with ⟨rfl, rfl⟩ | hk
    · obtain ⟨hpos, hle, hproper⟩ := hd.stored hfind
      cases hproper
      exact ⟨hpos, hle, .simple hf⟩
    · exact hd.stored hk
  | merge o hl hr =>
    -- both operands are stored, so their handles are at most the last one
    obtain ⟨hl, hl', -⟩ := hd.stored hl
    obtain ⟨hr, hr', -⟩ := hd.stored hr
    exact hd.keep (.composite o hl (by omega) hr (by omega))
  | delete =>
    -- what is left was there before, and the counter stays
    exact ⟨hd.counter, fun hk => hd.stored (Table.of_find?_erase hk)⟩

/-- A request keeps a directory well-formed, whether it is served or refused. -/
theorem WellFormed.perform {d : Directory} (hd : d.WellFormed) (op : Operation) :
    (d.perform op).directory.WellFormed :=
  hd.change (d.perform_change op)

/-- A run keeps a directory well-formed. -/
theorem WellFormed.after {d : Directory} (hd : d.WellFormed) (ops : List Operation) :
    (d.after ops).WellFormed := by
  induction ops generalizing d with
  | nil => exact hd
  | cons op ops ih => exact ih (hd.perform op)

/-- Every reachable directory is well-formed. -/
theorem Reachable.wellFormed {d : Directory} (h : d.Reachable) : d.WellFormed := by
  induction h with
  | empty => exact .empty
  | perform op _ ih => exact ih.perform op

end Directory

end Formulary
