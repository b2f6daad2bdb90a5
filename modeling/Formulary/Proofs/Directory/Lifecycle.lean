import Mathlib.Data.List.Range
import Formulary.Proofs.Directory.Nesting

/-!
# The life of a handle

A handle is given out once, to the equation that a request makes. The equation keeps its kind, and a
composite its operands and its operator, until a request deletes it. From then on the handle names
nothing.
-/

namespace Formulary

namespace Operation

/-- The handle that a request was given for the equation that it made. -/
def made? : Operation → Outcome Answer → Option Int
  | .create _, ⟨.ok (.handle h), _, _⟩ => some h
  | .merge _ _ _, ⟨.ok (.handle h), _, _⟩ => some h
  | _, _ => none

/-- The handle whose equation a request deleted. -/
def removed? : Operation → Outcome Answer → Option Int
  | .delete r, ⟨.ok _, _, _⟩ => r
  | _, _ => none

/-- The equation that a request makes under a handle: a simple one, or a composite of the operands
and the operator that it names. -/
inductive Makes (h : Int) : Operation → Equation → Prop
  | simple (text : String) (f : Formula) : Makes h (.create (some text)) (.simple ⟨h, f⟩)
  | composite (l r : Int) (o : Operator) :
      Makes h (.merge (some l) (some r) (some o.text)) (.composite ⟨h, l, r, o⟩)

/-- A request that fails is given no handle. -/
theorem made?_failed (op : Operation) (d : Directory) (e : Failure) :
    op.made? (d.failed e) = none := by
  cases op <;> rfl

/-- A request that fails frees no handle. -/
theorem removed?_failed (op : Operation) (d : Directory) (e : Failure) :
    op.removed? (d.failed e) = none := by
  cases op <;> rfl

theorem made?_of_asks {op : Operation} (hop : op.asks = true) (o : Outcome Answer) :
    op.made? o = none := by
  cases op <;> first | rfl | cases hop

theorem removed?_of_asks {op : Operation} (hop : op.asks = true) (o : Outcome Answer) :
    op.removed? o = none := by
  cases op <;> first | rfl | cases hop

end Operation

/-- An equation before and after edits: only the text of a simple one changes. -/
inductive Equation.Revised : Equation → Equation → Prop
  | simple (id : Int) (f f' : Formula) : Revised (.simple ⟨id, f⟩) (.simple ⟨id, f'⟩)
  | composite (e : Equation.Composite) : Revised (.composite e) (.composite e)

/-- An equation that is not edited is as it was. -/
theorem Equation.Revised.refl (e : Equation) : e.Revised e := by
  cases e with
  | simple e => exact .simple e.id e.formula e.formula
  | composite e => exact .composite e

/-- What becomes of an equation in several edits. -/
theorem Equation.Revised.trans {e e' e'' : Equation} (h : e.Revised e') (h' : e'.Revised e'') :
    e.Revised e'' := by
  cases h with
  | simple id f f' =>
    cases h' with
    | simple _ _ f'' => exact .simple id f f''
  | composite e => exact h'

/-- A revised equation is still one that the request makes. -/
theorem Operation.Makes.revised {h : Int} {op : Operation} {e e' : Equation} (hmakes : op.Makes h e)
    (hrevised : e.Revised e') : op.Makes h e' := by
  cases hmakes with
  | simple text f =>
    cases hrevised with
    | simple _ _ f' => exact .simple text f'
  | composite l r o =>
    cases hrevised with
    | composite => exact .composite l r o

/-- A request ends because no equation has a handle. The caller sees that, with the handle in the
message, whenever the handle can be written. Otherwise putting the message together fails already,
and the caller sees a refusal to write so long an integer. -/
structure Misses {α : Type} (result : Except Failure α) (r : Reference) : Prop where
  failure : result = .error (.notFound r)
  written : r.isWritable = true → (Failure.notFound r).raised =
    ⟨.notFound, s!"Equation with ID {r.text} doesn't exist"⟩
  tooLong : r.isWritable = false → (Failure.notFound r).raised =
    ⟨.unwritable, Number.tooLongMessage⟩

/-- What fails because there is no such equation misses it. -/
theorem Misses.of_eq {α : Type} {result : Except Failure α} {r : Reference}
    (h : result = .error (.notFound r)) : Misses result r :=
  ⟨h, fun hr => if_pos hr, fun hr => if_neg (Bool.eq_false_iff.mp hr)⟩

namespace Directory

variable {d : Directory} {op : Operation} {outcome : Outcome Answer}

/-- The handles in use are those under which an equation is found. -/
theorem mem_handles {k : Int} : k ∈ d.handles ↔ ∃ e, d.table.find? k = some e :=
  Table.mem_handles

/-- Only handles that have been given out are in use. -/
theorem WellFormed.le_of_mem_handles (hd : d.WellFormed) {k : Int} (hk : k ∈ d.handles) :
    k ≤ d.lastHandle := by
  obtain ⟨e, he⟩ := mem_handles.mp hk
  exact (hd.stored he).2.1

/-- Keeping an equation stores it under its own handle and changes no other. -/
theorem find?_keep (d : Directory) (e : Equation) (k : Int) :
    (d.keep e).table.find? k = if e.id = k then some e else d.table.find? k :=
  Table.find?_insert d.table e.id k e

/-- The handle of a new equation is put behind those in use. -/
theorem WellFormed.handles_keep (hd : d.WellFormed) {e : Equation} (he : e.id = d.lastHandle + 1) :
    (d.keep e).handles = d.handles ++ [d.lastHandle + 1] := by
  have hnew : e.id ∉ d.table.handles := by
    intro hmem
    have hle := hd.le_of_mem_handles hmem
    omega
  have hinsert := Table.handles_insert d.table e.id e
  rw [if_neg hnew] at hinsert
  rw [← he]
  exact hinsert

/-- A request leaves the handles alone, or is given the next one for a new equation, or frees one
that is in use. -/
theorem Served.handles_cases (hd : d.WellFormed) (h : d.Served op outcome) :
    (op.made? outcome = none ∧ op.removed? outcome = none ∧
      outcome.directory.lastHandle = d.lastHandle ∧ outcome.directory.handles = d.handles) ∨
    (op.made? outcome = some (d.lastHandle + 1) ∧ op.removed? outcome = none ∧
      outcome.directory.lastHandle = d.lastHandle + 1 ∧
      outcome.directory.handles = d.handles ++ [d.lastHandle + 1]) ∨
    ∃ k ∈ d.handles, op.made? outcome = none ∧ op.removed? outcome = some k ∧
      outcome.directory.lastHandle = d.lastHandle ∧
      outcome.directory.handles = d.handles.filter (· ≠ k) := by
  cases h with
  | refused op e => exact .inl ⟨op.made?_failed d e, op.removed?_failed d e, rfl, rfl⟩
  | created hf => exact .inr (.inl ⟨rfl, rfl, rfl, hd.handles_keep rfl⟩)
  | @edited k e f hfind hf =>
    have hmem : k ∈ d.table.handles := Table.mem_handles.mpr ⟨_, hfind⟩
    have hinsert := Table.handles_insert d.table k (.simple { e with formula := f })
    rw [if_pos hmem] at hinsert
    exact .inl ⟨rfl, rfl, rfl, hinsert⟩
  | merged o hl hr => exact .inr (.inl ⟨rfl, rfl, rfl, hd.handles_keep rfl⟩)
  | @deleted k e hfind =>
    exact .inr (.inr ⟨k, mem_handles.mpr ⟨e, hfind⟩, rfl, rfl, rfl, Table.handles_erase d.table k⟩)
  | evaluated hfind hv => exact .inl ⟨rfl, rfl, rfl, rfl⟩
  | asked a hop =>
    exact .inl ⟨Operation.made?_of_asks hop _, Operation.removed?_of_asks hop _, rfl, rfl⟩

/-- The handles that the requests of a run were given, in the order of the requests. -/
def made (d : Directory) : List Operation → List Int
  | [] => []
  | op :: ops => (op.made? (d.perform op)).toList ++ made (d.perform op).directory ops

/-- The handles that the requests of a run freed, in the order of the requests. -/
def removed (d : Directory) : List Operation → List Int
  | [] => []
  | op :: ops => (op.removed? (d.perform op)).toList ++ removed (d.perform op).directory ops

theorem removed_append (d : Directory) (ops later : List Operation) :
    d.removed (ops ++ later) = d.removed ops ++ (d.after ops).removed later := by
  induction ops generalizing d with
  | nil => rfl
  | cons op ops ih =>
    rw [List.cons_append, removed, removed, ih, List.append_assoc]
    rfl

/-- The counter moves exactly when a handle is given out, and is that handle then. -/
theorem WellFormed.made?_cases (hd : d.WellFormed) (op : Operation) :
    (op.made? (d.perform op) = none ∧ (d.perform op).directory.lastHandle = d.lastHandle) ∨
    (op.made? (d.perform op) = some (d.lastHandle + 1) ∧
      (d.perform op).directory.lastHandle = d.lastHandle + 1) := by
  rcases (d.perform_served op).handles_cases hd with
    ⟨hmade, -, hlast, -⟩ | ⟨hmade, -, hlast, -⟩ | ⟨k, -, hmade, -, hlast, -⟩
  · exact .inl ⟨hmade, hlast⟩
  · exact .inr ⟨hmade, hlast⟩
  · exact .inl ⟨hmade, hlast⟩

/-- A run gives out consecutive handles, beginning after the last one given out before. -/
theorem WellFormed.made_eq (hd : d.WellFormed) (ops : List Operation) :
    d.made ops = (List.range (d.made ops).length).map fun k : Nat => d.lastHandle + 1 + k := by
  induction ops generalizing d with
  | nil => rfl
  | cons op ops ih =>
    have hrest := ih (hd.perform op)
    rcases hd.made?_cases op with ⟨hmade, hlast⟩ | ⟨hmade, hlast⟩
    · rw [made, hmade, Option.toList_none, List.nil_append]
      rwa [hlast] at hrest
    · rw [made, hmade, Option.toList_some, List.singleton_append, List.length_cons,
        List.range_succ_eq_map, List.map_cons, List.map_map]
      rw [hlast] at hrest
      congr 1
      · omega
      · -- the later handles come one after the new one
        rw [hrest, List.length_map, List.length_range]
        apply List.map_congr_left
        intro k _
        simp only [Function.comp_apply, Nat.succ_eq_add_one]
        omega

/-- The handles that a run gives out are new. -/
theorem WellFormed.lt_of_mem_made (hd : d.WellFormed) {ops : List Operation} {k : Int}
    (hk : k ∈ d.made ops) : d.lastHandle < k := by
  rw [hd.made_eq ops] at hk
  obtain ⟨i, -, rfl⟩ := List.mem_map.mp hk
  omega

/-- The handles in use after a run are those in use before and those given out, without those that
were freed. -/
theorem WellFormed.handles_after (hd : d.WellFormed) (ops : List Operation) :
    (d.after ops).handles = (d.handles ++ d.made ops).filter (· ∉ d.removed ops) := by
  induction ops generalizing d with
  | nil => simp [made, removed, Directory.after]
  | cons op ops ih =>
    have hafter : d.after (op :: ops) = (d.perform op).directory.after ops := rfl
    have hd' := hd.perform op
    rw [hafter, ih hd', made, removed]
    rcases (d.perform_served op).handles_cases hd with
      ⟨hmade, hremoved, -, hhandles⟩ | ⟨hmade, hremoved, -, hhandles⟩ |
      ⟨k, hk, hmade, hremoved, hlast, hhandles⟩
    · rw [hmade, hremoved, hhandles]
      rfl
    · rw [hmade, hremoved, hhandles, List.append_assoc]
      rfl
    · -- what is given out later is above `k`
      have habove : ∀ x ∈ (d.perform op).directory.made ops, x ≠ k := by
        intro x hx
        have hlt := hd'.lt_of_mem_made hx
        have hle := hd.le_of_mem_handles hk
        omega
      rw [hmade, hremoved, hhandles, Option.toList_none, Option.toList_some, List.nil_append,
        List.filter_append, List.filter_append, List.filter_filter]
      congr 1
      · apply List.filter_congr
        intro x _
        by_cases hx : x = k <;> simp [hx]
      · apply List.filter_congr
        intro x hx
        simp [habove x hx]

/-- An equation is there after a request unless it was deleted, and then at most edited. -/
theorem Served.find?_eq_some (hd : d.WellFormed) (h : d.Served op outcome) {k : Int} {e : Equation}
    (he : d.table.find? k = some e) (hk : op.removed? outcome ≠ some k) :
    ∃ e', outcome.directory.table.find? k = some e' ∧ e.Revised e' := by
  have hkeep (new : Equation) (hnew : new.id = d.lastHandle + 1) :
      (d.keep new).table.find? k = some e := by
    have hle : k ≤ d.lastHandle := (hd.stored he).2.1
    rw [find?_keep, if_neg (by omega), he]
  cases h with
  | refused | evaluated | asked => exact ⟨e, he, .refl e⟩
  | created hf => exact ⟨e, hkeep _ rfl, .refl e⟩
  | merged o hl hr => exact ⟨e, hkeep _ rfl, .refl e⟩
  | @edited j old f hfind hf =>
    have hinsert := Table.find?_insert d.table j k (.simple { old with formula := f })
    by_cases hj : j = k
    · subst hj
      obtain rfl := Option.some.inj (he.symm.trans hfind)
      rw [if_pos rfl] at hinsert
      exact ⟨_, hinsert, .simple old.id old.formula f⟩
    · rw [if_neg hj, he] at hinsert
      exact ⟨e, hinsert, .refl e⟩
  | @deleted j old hfind =>
    have hj : j ≠ k := fun heq => hk (congrArg some heq)
    have herase := Table.find?_erase d.table j k
    rw [if_neg hj, he] at herase
    exact ⟨e, herase, .refl e⟩

/-- An equation is there after a run unless it was deleted, and then at most edited. -/
theorem WellFormed.find?_after (hd : d.WellFormed) {ops : List Operation} {k : Int} {e : Equation}
    (he : d.table.find? k = some e) (hk : k ∉ d.removed ops) :
    ∃ e', (d.after ops).table.find? k = some e' ∧ e.Revised e' := by
  induction ops generalizing d e with
  | nil => exact ⟨e, he, .refl e⟩
  | cons op ops ih =>
    rw [removed, List.mem_append, not_or, Option.mem_toList] at hk
    obtain ⟨e', he', hrevised⟩ := (d.perform_served op).find?_eq_some hd he hk.1
    obtain ⟨e'', he'', hrevised'⟩ := ih (hd.perform op) he' hk.2
    exact ⟨e'', he'', hrevised.trans hrevised'⟩

/-- A request that was given a handle has made the equation that it asked for. -/
theorem Served.makes (h : d.Served op outcome) {k : Int} (hk : op.made? outcome = some k) :
    ∃ e, outcome.directory.table.find? k = some e ∧ op.Makes k e := by
  have hkeep (new : Equation) : (d.keep new).table.find? new.id = some new := by
    rw [find?_keep, if_pos rfl]
  cases h with
  | refused op e =>
    rw [op.made?_failed d e] at hk
    cases hk
  | created hf =>
    obtain rfl := Option.some.inj hk
    exact ⟨_, hkeep (.simple ⟨d.lastHandle + 1, _⟩), .simple _ _⟩
  | @merged l r _ _ o hl hr =>
    obtain rfl := Option.some.inj hk
    exact ⟨_, hkeep (.composite ⟨d.lastHandle + 1, l, r, o⟩), .composite l r o⟩
  | edited | deleted | evaluated => cases hk
  | asked a hop =>
    rw [Operation.made?_of_asks hop] at hk
    cases hk

/-- What a request has made is there after a later run that does not delete it. -/
theorem WellFormed.makes_after (hd : d.WellFormed) {later : List Operation} {k : Int}
    (hk : op.made? (d.perform op) = some k)
    (hkept : k ∉ (d.perform op).directory.removed later) :
    ∃ e, ((d.perform op).directory.after later).table.find? k = some e ∧ op.Makes k e := by
  obtain ⟨e, he, hmakes⟩ := (d.perform_served op).makes hk
  obtain ⟨e', he', hrevised⟩ := (hd.perform op).find?_after he hkept
  exact ⟨e', he', hmakes.revised hrevised⟩

/-- Every request that names the handle is refused, since no equation has it. A merge whose left
operand does not exist either is refused for the left one. -/
structure Unknown (d : Directory) (h : Int) : Prop where
  get : Misses (d.get (some h)) (some h)
  describe : Misses (d.describe (some h)) (some h)
  edit : ∀ text, Misses (d.edit (some h) text).result (some h)
  delete : Misses (d.delete (some h)).result (some h)
  evaluate : ∀ b, Misses (d.evaluate (some h) b).result (some h)
  mergeLeft : ∀ right symbol, Misses (d.merge (some h) right symbol).result (some h)
  mergeRight : ∀ left symbol, ∃ r, (r = left ∨ r = some h) ∧
    Misses (d.merge left (some h) symbol).result r

/-- Where no equation is found, the handle is unknown to every request. -/
theorem unknown_of_find?_eq_none {h : Int} (hnone : d.table.find? h = none) : d.Unknown h := by
  have hlocate := locate_of_find?_eq_none hnone
  refine ⟨.of_eq ?_, .of_eq ?_, fun text => .of_eq ?_, .of_eq ?_, fun b => .of_eq ?_,
    fun right symbol => .of_eq ?_, fun left symbol => ?_⟩
  · rw [get, hlocate, error_map]
  · rw [describe, hlocate, error_bind]
  · simp only [edit, hlocate, failed]
  · simp only [delete, hlocate, failed]
  · simp only [evaluate, hlocate, failed]
  · simp only [merge, hlocate, failed]
  · cases hleft : d.locate left with
    | error e =>
      obtain rfl := locate_eq_error hleft
      exact ⟨left, .inl rfl, .of_eq (by simp only [merge, hleft, failed])⟩
    | ok p => exact ⟨some h, .inr rfl, .of_eq (by simp only [merge, hleft, hlocate, failed])⟩

theorem get_of_find?_eq_some {h : Int} {e : Equation} (he : d.table.find? h = some e) :
    d.get (some h) = .ok e := by
  rw [get, locate_eq_ok_iff.mpr ⟨rfl, he⟩, ok_map]

/-- A reference is contained if it is a handle in use. -/
theorem contains_iff {r : Reference} : d.contains r = true ↔ ∃ h ∈ d.handles, r = some h := by
  cases r with
  | none => simp [contains]
  | some h => simp [contains, Table.contains, mem_handles, Option.isSome_iff_exists]

/-- What is contained can be got. -/
theorem get_of_contains {r : Reference} (hr : d.contains r = true) : ∃ e, d.get r = .ok e := by
  obtain ⟨h, hmem, rfl⟩ := contains_iff.mp hr
  obtain ⟨e, he⟩ := mem_handles.mp hmem
  exact ⟨e, get_of_find?_eq_some he⟩

/-- What is not contained is missed. -/
theorem get_of_not_contains {r : Reference} (hr : d.contains r = false) : Misses (d.get r) r := by
  cases r with
  | none => exact .of_eq rfl
  | some h =>
    have hnone : d.table.find? h = none := by simpa [contains, Table.contains] using hr
    exact (unknown_of_find?_eq_none hnone).get

/-- The list describes the equations of the handles in use, one by one. -/
theorem WellFormed.map_id_list (hd : d.WellFormed) (hnodup : d.handles.Nodup) :
    ∃ ds, d.list = .ok ds ∧ ds.map (·.equation.id) = d.handles := by
  obtain ⟨ds, hlist, hds⟩ := hd.list_eq hnodup
  have hid (k : Int) (hk : k ∈ d.handles) :
      (d.describe (some k)).map (·.equation.id) = .ok k := by
    obtain ⟨e, he⟩ := mem_handles.mp hk
    obtain ⟨names, hnames⟩ := hd.exists_describe he
    rw [hnames, ok_map, (hd.stored he).2.2.id_eq]
  have hids : (ds.map (·.equation.id)).map (Except.ok : Int → Except Failure Int) =
      d.handles.map .ok := by
    have hmap := congrArg (List.map (Except.map (·.equation.id))) hds
    rw [List.map_map, List.map_map] at hmap
    rw [List.map_map]
    exact hmap.trans (List.map_congr_left hid)
  exact ⟨ds, hlist, List.map_injective_iff.mpr (fun _ _ => Except.ok.inj) hids⟩

/-- The first request that makes an equation is given the handle 1, the next one 2, and so on. -/
theorem made_empty (ops : List Operation) :
    empty.made ops = (List.range (empty.made ops).length).map fun k : Nat => (k : Int) + 1 := by
  refine (WellFormed.empty.made_eq ops).trans (List.map_congr_left fun k _ => ?_)
  simp only [Directory.empty]
  omega

/-- Handles are given out in ascending order. -/
theorem pairwise_made_empty (ops : List Operation) : (empty.made ops).Pairwise (· < ·) := by
  rw [made_empty]
  exact List.pairwise_map.mpr (List.pairwise_lt_range.imp fun hlt => by omega)

/-- Handles in use are in ascending order. -/
theorem Reachable.pairwise_handles (hd : d.Reachable) : d.handles.Pairwise (· < ·) := by
  obtain ⟨ops, rfl⟩ := reachable_iff.mp hd
  rw [WellFormed.empty.handles_after ops]
  exact (pairwise_made_empty ops).filter _

end Directory

end Formulary
