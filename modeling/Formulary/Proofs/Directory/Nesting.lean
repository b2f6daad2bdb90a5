import Mathlib.Data.List.Chain
import Mathlib.Data.Set.List
import Formulary.Proofs.Directory.Reachable

/-!
# Nesting of composites

In a reachable directory the operands of a composite have smaller handles. Whoever asks a composite
follows a descending chain of handles, so the depth bounds of the model never cut an answer short,
and the answers obey recursive equations that mention no bound.
-/

namespace Formulary

namespace Equation

variable {α : Type} {find : Lookup} {leaf : Equation.Simple → Except Failure α}
  {join : Equation.Composite → α → α → Except Failure α}

/-- Asks an equation: a simple one answers by itself, a composite asks its operands, the left one
first, and joins their answers. -/
def ask (find : Lookup) (leaf : Equation.Simple → Except Failure α)
    (join : Equation.Composite → α → α → Except Failure α) : Nat → Equation → Except Failure α
  | _, simple e => leaf e
  | 0, composite _ => .error .circular
  | depth + 1, composite e => do
    let left ← ask find leaf join depth (← find.get e.left)
    let right ← ask find leaf join depth (← find.get e.right)
    join e left right

/-- The value of an equation is gathered from its operands. -/
theorem value_eq_ask (find : Lookup) (b : Bindings) (depth : Nat) (e : Equation) :
    e.value find b depth =
      ask find (·.value b) (fun c x y => (c.operator.apply x y).mapError .arithmetic) depth e := by
  induction depth generalizing e with
  | zero => cases e <;> rfl
  | succ depth ih =>
    cases e with
    | simple e => rfl
    | composite e => simp only [value, ask, ih]

/-- The names that an equation needs are gathered from its operands. -/
theorem required_eq_ask (find : Lookup) (depth : Nat) (e : Equation) :
    e.required find depth =
      ask find (fun s => .ok (Text.sortedNames s.formula.names))
        (fun _ left right => .ok (Text.sortedNames (left ++ right))) depth e := by
  induction depth generalizing e with
  | zero => cases e <;> rfl
  | succ depth ih =>
    cases e with
    | simple e => rfl
    | composite e => simp only [required, ask, ih]; rfl

/-- A description holds the names that an equation needs. -/
theorem describe_of_required_eq_ok {depth : Nat} {e : Equation} {names : List String}
    (h : e.required find depth = .ok names) : e.describe find depth = .ok ⟨e, names⟩ := by
  rw [describe, h]

/-- If the names cannot be gathered for a missing handle, the description holds none. -/
theorem describe_of_required_eq_notFound {depth : Nat} {e : Equation} {r : Reference}
    (h : e.required find depth = .error (.notFound r)) : e.describe find depth = .ok ⟨e, []⟩ := by
  rw [describe, h]

/-- A description is about the equation that is described. -/
theorem equation_of_describe {depth : Nat} {e : Equation} {told : Description}
    (h : e.describe find depth = .ok told) : told.equation = e := by
  unfold describe at h
  split at h <;> cases h <;> rfl

/-- Looks an operand up and asks it. -/
def askAt (find : Lookup) (leaf : Equation.Simple → Except Failure α)
    (join : Equation.Composite → α → α → Except Failure α) (depth : Nat) (handle : Int) :
    Except Failure α :=
  find.get handle >>= ask find leaf join depth

/-- A composite asks its left operand, then its right one, and joins what they answer. -/
theorem ask_composite (depth : Nat) (e : Equation.Composite) :
    ask find leaf join (depth + 1) (.composite e) = (do
      let left ← askAt find leaf join depth e.left
      let right ← askAt find leaf join depth e.right
      join e left right) := by
  simp only [ask, askAt, bind_assoc]

/-- Every equation that is found is proper for its handle. -/
def Grounded (find : Lookup) : Prop :=
  ∀ {h : Int} {e : Equation}, find h = some e → 1 ≤ h ∧ Proper h e

/-- Beyond the handle of an equation, the depth bound does not matter. -/
theorem ask_eq_of_depth (hfind : Grounded find) {h : Int} {e : Equation} (he : find h = some e)
    {m n : Nat} (hm : h.toNat ≤ m + 1) (hn : h.toNat ≤ n + 1) :
    ask find leaf join m e = ask find leaf join n e := by
  induction m generalizing n h e with
  | zero =>
    cases (hfind he).2 with
    | simple => simp only [ask]
    | composite => omega
  | succ m ih =>
    cases (hfind he).2 with
    | simple => simp only [ask]
    | @composite l r o hl hlh hr hrh =>
      obtain ⟨n, rfl⟩ : ∃ k, n = k + 1 := ⟨n - 1, by omega⟩
      -- operands are below `h`, so one level less is still enough for them
      have hoperand (k : Int) (hk : k < h) :
          askAt find leaf join m k = askAt find leaf join n k := by
        unfold askAt Lookup.get
        cases hfk : find k with
        | none => rfl
        | some e => exact ih hfk (by omega) (by omega)
      rw [ask_composite, ask_composite, hoperand l hlh, hoperand r hrh]

/-- An equation whose handle is within the depth bound is not refused for a circle, if neither
simple equations nor joins are. -/
theorem ask_ne_circular (hfind : Grounded find) (hleaf : ∀ s, leaf s ≠ .error .circular)
    (hjoin : ∀ c x y, join c x y ≠ .error .circular) {h : Int} {e : Equation}
    (he : find h = some e) {n : Nat} (hn : h.toNat ≤ n + 1) :
    ask find leaf join n e ≠ .error .circular := by
  induction n generalizing h e with
  | zero =>
    cases (hfind he).2 with
    | simple => exact hleaf _
    | composite => omega
  | succ n ih =>
    cases (hfind he).2 with
    | simple => exact hleaf _
    | @composite l r o hl hlh hr hrh =>
      have hoperand (k : Int) (hk : k < h) : askAt find leaf join n k ≠ .error .circular := by
        unfold askAt Lookup.get
        cases hfk : find k with
        | none => simp
        | some e => exact ih hfk (by omega)
      rw [ask_composite]
      have hleft := hoperand l hlh
      have hright := hoperand r hrh
      cases hx : askAt find leaf join n l with
      | error e => simpa [hx] using hleft
      | ok x =>
        cases hy : askAt find leaf join n r with
        | error e => simpa [hx, hy] using hright
        | ok y => simpa [hx, hy] using hjoin _ x y

end Equation

namespace Directory

variable {d : Directory} {α : Type} {leaf : Equation.Simple → Except Failure α}
  {join : Equation.Composite → α → α → Except Failure α}

/-- In a well-formed directory, operands have smaller handles. -/
theorem WellFormed.grounded (hd : d.WellFormed) : Equation.Grounded d.table.find? :=
  fun hfind => ⟨(hd.stored hfind).1, (hd.stored hfind).2.2⟩

/-- Asks the equation with a handle, within the depth that its handle allows. -/
def askAt (d : Directory) (leaf : Equation.Simple → Except Failure α)
    (join : Equation.Composite → α → α → Except Failure α) (h : Int) : Except Failure α :=
  Equation.askAt d.table.find? leaf join (depthBound h) h

/-- A handle without an equation is not found. -/
theorem askAt_of_find?_eq_none {h : Int} (he : d.table.find? h = none) :
    d.askAt leaf join h = .error (.notFound (some h)) := by
  simp [askAt, Equation.askAt, Lookup.get, he]

/-- A simple equation answers by itself. -/
theorem askAt_simple {h : Int} {e : Equation.Simple} (he : d.table.find? h = some (.simple e)) :
    d.askAt leaf join h = leaf e := by
  simp [askAt, Equation.askAt, Lookup.get, he, Equation.ask]

/-- A composite answers by its operands. No depth bound is left in the equation. -/
theorem WellFormed.askAt_composite (hd : d.WellFormed) {h : Int} {e : Equation.Composite}
    (he : d.table.find? h = some (.composite e)) :
    d.askAt leaf join h = (do
      let left ← d.askAt leaf join e.left
      let right ← d.askAt leaf join e.right
      join e left right) := by
  -- an operand is asked within the depth that `h` leaves, which its own handle does not need
  have hoperand (k : Int) (hk : 1 ≤ k) (hkh : k < h) :
      Equation.askAt d.table.find? leaf join (h.toNat - 1) k = d.askAt leaf join k := by
    unfold askAt depthBound Equation.askAt Lookup.get
    cases hfk : d.table.find? k with
    | none => rfl
    | some e => exact Equation.ask_eq_of_depth hd.grounded hfk (by omega) (by omega)
  cases (hd.stored he).2.2 with
  | @composite l r o hl hlh hr hrh =>
    have hdepth : depthBound h = h.toNat - 1 + 1 := by
      unfold depthBound
      omega
    unfold askAt Equation.askAt Lookup.get
    rw [he, hdepth, ok_bind, Equation.ask_composite, hoperand l hl hlh, hoperand r hr hrh]
    rfl

/-- The result of evaluating the equation with a handle. -/
def valueAt (d : Directory) (b : Bindings) (h : Int) : Except Failure Number :=
  (d.evaluate (some h) b).result

/-- The names that the equation with a handle needs. -/
def requiredAt (d : Directory) (h : Int) : Except Failure (List String) := do
  (← d.get (some h)).required d.table.find? (depthBound h)

/-- An evaluation looks the equation up and asks for its value. -/
theorem evaluate_result (d : Directory) (r : Reference) (b : Bindings) :
    (d.evaluate r b).result = d.locate r >>= fun p => d.valueOf b p.1 p.2 := by
  unfold evaluate
  cases d.locate r with
  | error e => rfl
  | ok p =>
    simp only [ok_bind]
    split <;> simp_all [failed]

/-- The value under a handle is gathered from the operands there. -/
theorem valueAt_eq_askAt (d : Directory) (b : Bindings) (h : Int) :
    d.valueAt b h =
      d.askAt (·.value b) (fun c x y => (c.operator.apply x y).mapError .arithmetic) h := by
  rw [valueAt, evaluate_result]
  cases he : d.table.find? h with
  | none => rw [locate_of_find?_eq_none he, askAt_of_find?_eq_none he, error_bind]
  | some e =>
    rw [locate_eq_ok_iff.mpr ⟨rfl, he⟩, ok_bind, valueOf, Equation.value_eq_ask]
    simp [askAt, Equation.askAt, Lookup.get, he]

/-- The names that are needed under a handle are gathered from the operands there. -/
theorem requiredAt_eq_askAt (d : Directory) (h : Int) :
    d.requiredAt h =
      d.askAt (fun s => .ok (Text.sortedNames s.formula.names))
        (fun _ left right => .ok (Text.sortedNames (left ++ right))) h := by
  rw [requiredAt, get]
  cases he : d.table.find? h with
  | none => rw [locate_of_find?_eq_none he, askAt_of_find?_eq_none he, error_map, error_bind]
  | some e =>
    rw [locate_eq_ok_iff.mpr ⟨rfl, he⟩, ok_map, ok_bind, Equation.required_eq_ask]
    simp [askAt, Equation.askAt, Lookup.get, he]

/-- A handle without an equation has no value. -/
theorem valueAt_of_find?_eq_none {h : Int} (he : d.table.find? h = none) (b : Bindings) :
    d.valueAt b h = .error (.notFound (some h)) := by
  rw [valueAt_eq_askAt, askAt_of_find?_eq_none he]

/-- The value of a simple equation is that of its formula. -/
theorem valueAt_simple {h : Int} {e : Equation.Simple} (he : d.table.find? h = some (.simple e))
    (b : Bindings) : d.valueAt b h = e.value b := by
  rw [valueAt_eq_askAt, askAt_simple he]

/-- The value of a composite is that of its operator on the values of its operands, the left one
first. -/
theorem WellFormed.valueAt_composite (hd : d.WellFormed) {h : Int} {e : Equation.Composite}
    (he : d.table.find? h = some (.composite e)) (b : Bindings) :
    d.valueAt b h = (do
      let x ← d.valueAt b e.left
      let y ← d.valueAt b e.right
      (e.operator.apply x y).mapError .arithmetic) := by
  simp only [valueAt_eq_askAt, hd.askAt_composite he]

/-- A handle without an equation needs no names, and says so. -/
theorem requiredAt_of_find?_eq_none {h : Int} (he : d.table.find? h = none) :
    d.requiredAt h = .error (.notFound (some h)) := by
  rw [requiredAt_eq_askAt, askAt_of_find?_eq_none he]

/-- A simple equation needs the names of its formula. -/
theorem requiredAt_simple {h : Int} {e : Equation.Simple}
    (he : d.table.find? h = some (.simple e)) :
    d.requiredAt h = .ok (Text.sortedNames e.formula.names) := by
  rw [requiredAt_eq_askAt, askAt_simple he]

/-- A composite needs the names of both operands. -/
theorem WellFormed.requiredAt_composite (hd : d.WellFormed) {h : Int} {e : Equation.Composite}
    (he : d.table.find? h = some (.composite e)) :
    d.requiredAt h = (do
      let left ← d.requiredAt e.left
      let right ← d.requiredAt e.right
      .ok (Text.sortedNames (left ++ right))) := by
  simp only [requiredAt_eq_askAt, hd.askAt_composite he]

/-- A composite names an operand. -/
def Refers (d : Directory) (h k : Int) : Prop :=
  ∃ e : Equation.Composite, d.table.find? h = some (.composite e) ∧ (k = e.left ∨ k = e.right)

/-- Operands have handles that were given out before. -/
theorem WellFormed.refers_lt (hd : d.WellFormed) {h k : Int} (hk : d.Refers h k) :
    1 ≤ k ∧ k < h := by
  obtain ⟨e, he, hk⟩ := hk
  cases (hd.stored he).2.2 with
  | composite => rcases hk with rfl | rfl <;> exact ⟨by assumption, by assumption⟩

/-- While the names that an equation needs are gathered, nothing can fail but the look-up of an
equation that is missing. -/
theorem WellFormed.missing_of_requiredAt (hd : d.WellFormed) {h : Int} {failure : Failure}
    (hfail : d.requiredAt h = .error failure) :
    ∃ k, Relation.ReflTransGen d.Refers h k ∧ d.table.find? k = none ∧
      failure = .notFound (some k) := by
  -- operands have smaller handles
  induction hn : h.toNat using Nat.strong_induction_on generalizing h with
  | _ n ih =>
    cases he : d.table.find? h with
    | none =>
      rw [requiredAt_of_find?_eq_none he] at hfail
      exact ⟨h, .refl, he, (Except.error.inj hfail).symm⟩
    | some e =>
      cases e with
      | simple e => cases (requiredAt_simple he).symm.trans hfail
      | composite e =>
        have hoperand (k : Int) (hk : d.Refers h k) (hfail : d.requiredAt k = .error failure) :
            ∃ j, Relation.ReflTransGen d.Refers h j ∧ d.table.find? j = none ∧
              failure = .notFound (some j) := by
          have hlt := hd.refers_lt hk
          obtain ⟨j, hj, hmissing⟩ := ih k.toNat (by omega) hfail rfl
          exact ⟨j, .head hk hj, hmissing⟩
        rw [hd.requiredAt_composite he] at hfail
        cases hleft : d.requiredAt e.left with
        | error failure' =>
          rw [hleft, error_bind] at hfail
          exact hoperand e.left ⟨e, he, .inl rfl⟩ (hleft.trans hfail)
        | ok names =>
          rw [hleft, ok_bind] at hfail
          cases hright : d.requiredAt e.right with
          | error failure' =>
            rw [hright, error_bind] at hfail
            exact hoperand e.right ⟨e, he, .inr rfl⟩ (hright.trans hfail)
          | ok names' =>
            rw [hright, ok_bind] at hfail
            cases hfail

/-- Going down from a composite to its operands, handles get smaller. -/
theorem WellFormed.chain_descends (hd : d.WellFormed) {h : Int} {chain : List Int}
    (hchain : (h :: chain).IsChain d.Refers) : (h :: chain).Pairwise (· > ·) :=
  (hchain.imp fun _ _ hk => (hd.refers_lt hk).2).pairwise

/-- No way down from a composite to its operands is longer than its first handle says. -/
theorem WellFormed.length_chain_le (hd : d.WellFormed) {h : Int} {chain : List Int}
    (hchain : (h :: chain).IsChain d.Refers) (hh : 1 ≤ h) : (h :: chain).length ≤ h.toNat := by
  induction chain generalizing h with
  | nil => rw [List.length_singleton]; omega
  | cons k chain ih =>
    obtain ⟨hk, hrest⟩ := List.isChain_cons_cons.mp hchain
    obtain ⟨hpos, hlt⟩ := hd.refers_lt hk
    have hlen := ih hrest hpos
    rw [List.length_cons]
    omega

end Directory

/-- No run over tokens fails for a circle. -/
theorem run_ne_circular {onMalformed : Failure} (hmalformed : onMalformed ≠ .circular)
    (b : Bindings) (ts : List Token) (stack : List Number) :
    run onMalformed b ts stack ≠ .error .circular := by
  fun_induction run onMalformed b ts stack with
  | case1 => simp
  | case2 => simpa using hmalformed
  | case3 => assumption
  | case4 => simp
  | case5 => assumption
  | case6 => simp
  | case7 => simpa using hmalformed

/-- No formula fails for a circle. -/
theorem Formula.value_ne_circular (f : Formula) (b : Bindings) : f.value b ≠ .error .circular := by
  unfold Formula.value
  split
  · simp
  · exact run_ne_circular (by simp) b _ _

namespace Directory

/-- No answer fails for a circle, since handles descend. -/
theorem WellFormed.askAt_ne_circular {d : Directory} {α : Type}
    {leaf : Equation.Simple → Except Failure α}
    {join : Equation.Composite → α → α → Except Failure α} (hd : d.WellFormed)
    (hleaf : ∀ s, leaf s ≠ .error .circular) (hjoin : ∀ c x y, join c x y ≠ .error .circular)
    (h : Int) : d.askAt leaf join h ≠ .error .circular := by
  cases he : d.table.find? h with
  | none => simp [askAt_of_find?_eq_none he]
  | some e =>
    have hask := Equation.ask_ne_circular (n := depthBound h) hd.grounded hleaf hjoin he
      (by unfold depthBound; omega)
    simpa [askAt, Equation.askAt, Lookup.get, he] using hask

/-- No value fails for a circle. -/
theorem WellFormed.valueAt_ne_circular {d : Directory} (hd : d.WellFormed) (b : Bindings)
    (h : Int) : d.valueAt b h ≠ .error .circular := by
  rw [valueAt_eq_askAt]
  -- neither an expression nor arithmetic fails in this way
  refine hd.askAt_ne_circular (fun s => s.formula.value_ne_circular b) (fun c x y => ?_) h
  cases c.operator.apply x y <;> simp

/-- The names can always be gathered without coming upon a circle. -/
theorem WellFormed.requiredAt_ne_circular {d : Directory} (hd : d.WellFormed) (h : Int) :
    d.requiredAt h ≠ .error .circular := by
  rw [requiredAt_eq_askAt]
  exact hd.askAt_ne_circular (by simp) (by simp) h

/-- Every depth bound from one below the handle on gives the value. -/
theorem WellFormed.value_eq_valueAt {d : Directory} (hd : d.WellFormed) {h : Int} {e : Equation}
    (he : d.table.find? h = some e) {depth : Nat} (hdepth : h.toNat ≤ depth + 1) (b : Bindings) :
    e.value d.table.find? b depth = d.valueAt b h := by
  rw [valueAt, evaluate_result, locate_eq_ok_iff.mpr ⟨rfl, he⟩, ok_bind, valueOf,
    Equation.value_eq_ask, Equation.value_eq_ask]
  exact Equation.ask_eq_of_depth hd.grounded he hdepth (Nat.le_succ _)

/-- Every depth bound from one below the handle on gives the names. -/
theorem WellFormed.required_eq_requiredAt {d : Directory} (hd : d.WellFormed) {h : Int}
    {e : Equation} (he : d.table.find? h = some e) {depth : Nat} (hdepth : h.toNat ≤ depth + 1) :
    e.required d.table.find? depth = d.requiredAt h := by
  rw [requiredAt, get, locate_eq_ok_iff.mpr ⟨rfl, he⟩, ok_map, ok_bind, Equation.required_eq_ask,
    Equation.required_eq_ask]
  exact Equation.ask_eq_of_depth hd.grounded he hdepth (Nat.le_succ _)

section Descriptions

variable {d : Directory} {h : Int} {e : Equation}

/-- The names that a stored equation needs. -/
theorem requiredAt_of_find? (he : d.table.find? h = some e) :
    d.requiredAt h = e.required d.table.find? (depthBound h) := by
  rw [requiredAt, get, locate_eq_ok_iff.mpr ⟨rfl, he⟩, ok_map, ok_bind]

/-- The description of a stored equation. -/
theorem describe_of_find? (he : d.table.find? h = some e) :
    d.describe (some h) = d.descriptionOf h e := by
  rw [describe, locate_eq_ok_iff.mpr ⟨rfl, he⟩, ok_bind]

/-- A description is about the equation that is stored. -/
theorem find?_of_describe {told : Description} (htold : d.describe (some h) = .ok told) :
    d.table.find? h = some told.equation := by
  obtain ⟨⟨k, e⟩, hlocate, htold⟩ := bind_eq_ok_iff.mp htold
  obtain ⟨hk, he⟩ := locate_eq_ok_iff.mp hlocate
  obtain rfl := Option.some.inj hk
  rw [Equation.equation_of_describe htold]
  exact he

/-- The description of a stored equation whose names can be gathered. -/
theorem describe_of_requiredAt_eq_ok (he : d.table.find? h = some e) {names : List String}
    (hnames : d.requiredAt h = .ok names) : d.describe (some h) = .ok ⟨e, names⟩ := by
  rw [describe_of_find? he]
  exact Equation.describe_of_required_eq_ok ((requiredAt_of_find? he).symm.trans hnames)

/-- Only a missing equation can be in the way of the names, and a description passes over that. -/
theorem WellFormed.describe_of_requiredAt_eq_error (hd : d.WellFormed)
    (he : d.table.find? h = some e) {failure : Failure} (hfail : d.requiredAt h = .error failure) :
    d.describe (some h) = .ok ⟨e, []⟩ := by
  obtain ⟨k, -, -, rfl⟩ := hd.missing_of_requiredAt hfail
  rw [describe_of_find? he]
  exact Equation.describe_of_required_eq_notFound ((requiredAt_of_find? he).symm.trans hfail)

/-- Every stored equation has a description. -/
theorem WellFormed.exists_describe (hd : d.WellFormed) (he : d.table.find? h = some e) :
    ∃ names, d.describe (some h) = .ok ⟨e, names⟩ := by
  cases hnames : d.requiredAt h with
  | ok names => exact ⟨names, describe_of_requiredAt_eq_ok he hnames⟩
  | error failure => exact ⟨[], hd.describe_of_requiredAt_eq_error he hnames⟩

/-- A depth bound that the handle does not exceed leaves the description as it is. -/
theorem WellFormed.describe_eq (hd : d.WellFormed) (he : d.table.find? h = some e) {depth : Nat}
    (hdepth : h.toNat ≤ depth + 1) : d.describe (some h) = e.describe d.table.find? depth := by
  -- the description is made within the depth that the handle allows
  rw [describe_of_find? he, descriptionOf, Equation.describe, Equation.describe,
    ← requiredAt_of_find? he, hd.required_eq_requiredAt he hdepth]

/-- All stored equations can be described together, each of them as it is described alone. -/
theorem WellFormed.list_eq (hd : d.WellFormed) (hnodup : d.handles.Nodup) :
    ∃ ds, d.list = .ok ds ∧ ds.map Except.ok = d.handles.map fun h => d.describe (some h) := by
  have hmap : d.handles.map (fun h => d.describe (some h)) =
      d.table.entries.map fun p => d.descriptionOf p.1 p.2 := by
    rw [handles, Table.handles, List.map_map]
    exact List.map_congr_left fun p hp => describe_of_find? (Table.find?_of_mem_entries hnodup hp)
  obtain ⟨ds, hds⟩ : d.handles.map (fun h => d.describe (some h)) ∈
      Set.range (List.map Except.ok) := by
    rw [Set.range_list_map]
    intro result hresult
    obtain ⟨h, hh, rfl⟩ := List.mem_map.mp hresult
    obtain ⟨e, he⟩ := Table.mem_handles.mp hh
    obtain ⟨names, hnames⟩ := hd.exists_describe he
    exact ⟨⟨e, names⟩, hnames.symm⟩
  exact ⟨ds, mapM_eq_ok_iff.mpr (hmap.symm.trans hds.symm), hds⟩

end Descriptions

/-- In every reachable directory handles are at least 1 and at most the last one given out, an
equation has its handle as its id, and the operands of a composite have smaller handles, whether
they are still there or not. Asking therefore follows the handles down: the answers for a composite
come from those for its operands, a chain of operands from `h` has at most `h` members, and a bound
of `h` nested calls (`h - 1` of them composites) changes no answer. -/
theorem composition_grounded {d : Directory} (hd : d.Reachable) (h : Int) :
    (∀ e, d.table.find? h = some e → 1 ≤ h ∧ h ≤ d.lastHandle ∧ e.id = h) ∧
    (∀ e, d.table.find? h = some (.composite e) →
      Operator.ofText? e.operator.text = some e.operator ∧
      (1 ≤ e.left ∧ e.left < h) ∧ (1 ≤ e.right ∧ e.right < h) ∧
      (∀ b, d.valueAt b h = do
        let x ← d.valueAt b e.left
        let y ← d.valueAt b e.right
        (e.operator.apply x y).mapError .arithmetic) ∧
      d.requiredAt h = do
        let left ← d.requiredAt e.left
        let right ← d.requiredAt e.right
        .ok (Text.sortedNames (left ++ right))) ∧
    (∀ chain : List Int, (h :: chain).IsChain d.Refers →
      (h :: chain).Pairwise (· > ·) ∧ (1 ≤ h → (h :: chain).length ≤ h.toNat)) ∧
    (∀ e depth, d.table.find? h = some e → h.toNat ≤ depth + 1 →
      (∀ b, e.value d.table.find? b depth = d.valueAt b h) ∧
      e.required d.table.find? depth = d.requiredAt h ∧
      ∃ told, d.describe (some h) = .ok told ∧ e.describe d.table.find? depth = .ok told) ∧
    (∀ b, d.valueAt b h ≠ .error .circular) ∧ d.requiredAt h ≠ .error .circular := by
  have hwf := hd.wellFormed
  refine ⟨fun e he => ?_, fun e he => ?_, fun chain hchain => ?_, fun e depth he hdepth => ?_,
    fun b => hwf.valueAt_ne_circular b h, hwf.requiredAt_ne_circular h⟩
  · obtain ⟨hpos, hle, hproper⟩ := hwf.stored he
    exact ⟨hpos, hle, hproper.id_eq⟩
  · have hleft := hwf.refers_lt ⟨e, he, .inl rfl⟩
    have hright := hwf.refers_lt ⟨e, he, .inr rfl⟩
    exact ⟨Operator.ofText?_eq_some_iff.mpr rfl, hleft, hright, hwf.valueAt_composite he,
      hwf.requiredAt_composite he⟩
  · exact ⟨hwf.chain_descends hchain, hwf.length_chain_le hchain⟩
  · obtain ⟨names, hnames⟩ := hwf.exists_describe he
    exact ⟨hwf.value_eq_valueAt he hdepth, hwf.required_eq_requiredAt he hdepth, ⟨e, names⟩,
      hnames, (hwf.describe_eq he hdepth).symm.trans hnames⟩

/-- A chain of composites, with a way down that ends at a deleted equation. -/
theorem composition_grounded_dangling :
    let d := empty.after [.create (some "a"), .merge (some 1) (some 1) (some "+"),
      .delete (some 1), .create (some "b"), .merge (some 2) (some 3) (some "*")]
    d.Reachable ∧ d.table.find? 1 = none ∧
      d.table.find? 4 = some (.composite ⟨4, 2, 3, .times⟩) ∧
      (4 : Int) ≤ d.lastHandle ∧ (1 ≤ (2 : Int) ∧ (2 : Int) < 4) ∧
      (∀ chain : List Int, (4 :: chain).IsChain d.Refers → (4 :: chain).length ≤ 4) ∧
      ∀ b, d.valueAt b 4 ≠ .error .circular := by
  intro d
  have hd : d.Reachable := Reachable.empty.after _
  have hfind : d.table.find? 4 = some (.composite ⟨4, 2, 3, .times⟩) := by rfl
  obtain ⟨hstored, hcomposite, hchain, -, hvalue, -⟩ := composition_grounded hd 4
  refine ⟨hd, by rfl, hfind, (hstored _ hfind).2.1, (hcomposite _ hfind).2.1, ?_, hvalue⟩
  intro chain hrefers
  exact (hchain chain hrefers).2 (by decide)

end Directory

end Formulary
