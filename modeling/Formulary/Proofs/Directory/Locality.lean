import Mathlib.Data.Set.Basic
import Formulary.Proofs.Directory.Nesting

/-!
# What a request sees of a directory

A request that concerns one equation sees that equation and the equations below it, and nothing else
of the directory. It writes to the equation alone. Two directories that agree on a set of handles,
with the operands of every composite among them, answer such a request alike and agree afterwards.
-/

namespace Formulary

namespace Equation

variable {α : Type} {find find' : Lookup} {leaf : Equation.Simple → Except Failure α}
  {join : Equation.Composite → α → α → Except Failure α} {hs : Set Int}

/-- Look-ups that find the same equations in a set that has the operands of its composites give the
same answers there. -/
theorem askAt_congr (hagree : ∀ h ∈ hs, find h = find' h)
    (hclosed : ∀ h ∈ hs, ∀ e, find h = some (.composite e) → e.left ∈ hs ∧ e.right ∈ hs)
    (depth : Nat) {h : Int} (hh : h ∈ hs) :
    askAt find leaf join depth h = askAt find' leaf join depth h := by
  induction depth generalizing h with
  | zero =>
    unfold askAt Lookup.get
    rw [← hagree h hh]
    cases find h with
    | none => rfl
    | some e => cases e <;> rfl
  | succ depth ih =>
    unfold askAt Lookup.get
    rw [← hagree h hh]
    cases hfind : find h with
    | none => rfl
    | some e =>
      cases e with
      | simple e => rfl
      | composite e =>
        obtain ⟨hleft, hright⟩ := hclosed h hh e hfind
        rw [ok_bind, ok_bind, ask_composite, ask_composite, ih hleft, ih hright]

end Equation

namespace Operation

/-- The handle that a request about one equation names; it may be missing. Requests that make an
equation or ask for all of them are not about one. -/
def subject? : Operation → Option Reference
  | edit r _ | delete r | evaluate r _ | get r | describe r => some r
  | _ => none

/-- The handle whose equation a request changed or removed. -/
def written? : Operation → Outcome Answer → Option Int
  | edit r _, ⟨.ok _, _, _⟩ => r
  | delete r, ⟨.ok _, _, _⟩ => r
  | _, _ => none

/-- What a request writes to can be told from its answer. -/
theorem written?_congr {op : Operation} {o o' : Outcome Answer} (h : o.result = o'.result) :
    op.written? o = op.written? o' := by
  obtain ⟨result, d, ns⟩ := o
  obtain ⟨result', d', ns'⟩ := o'
  obtain rfl : result = result' := h
  cases op <;> cases result <;> rfl

/-- A request writes to no other equation than the one that it names. -/
theorem subject?_of_written? {op : Operation} {o : Outcome Answer} {h : Int}
    (hh : op.written? o = some h) : op.subject? = some (some h) := by
  obtain ⟨result, d, ns⟩ := o
  cases op with
  | edit r _ | delete r =>
    cases result with
    | ok a => exact congrArg some hh
    | error e => cases hh
  | create | merge | evaluate | get | describe | list | handles | contains => cases hh

end Operation

namespace Directory

variable {d d' : Directory} {hs : Set Int} {op : Operation} {outcome : Outcome Answer}

/-- Both directories have the same equation, or none, under each of the handles. -/
def AgreesOn (hs : Set Int) (d d' : Directory) : Prop :=
  ∀ h ∈ hs, d.table.find? h = d'.table.find? h

/-- The operands of the composites under the handles are among the handles, whether they are still
there or not. -/
def Closed (hs : Set Int) (d : Directory) : Prop :=
  ∀ h ∈ hs, ∀ k, d.Refers h k → k ∈ hs

/-- The answer of an equation depends on the equations below it. -/
theorem askAt_congr {α : Type} {leaf : Equation.Simple → Except Failure α}
    {join : Equation.Composite → α → α → Except Failure α} (hagree : AgreesOn hs d d')
    (hclosed : Closed hs d) {h : Int} (hh : h ∈ hs) :
    d.askAt leaf join h = d'.askAt leaf join h := by
  refine Equation.askAt_congr hagree (fun k hk e he => ?_) _ hh
  exact ⟨hclosed k hk _ ⟨e, he, .inl rfl⟩, hclosed k hk _ ⟨e, he, .inr rfl⟩⟩

/-- The value of an equation depends on the equations below it. -/
theorem valueAt_eq_of_agreesOn (hagree : AgreesOn hs d d') (hclosed : Closed hs d) {h : Int}
    (hh : h ∈ hs) (b : Bindings) : d.valueAt b h = d'.valueAt b h := by
  rw [valueAt_eq_askAt, valueAt_eq_askAt, askAt_congr hagree hclosed hh]

theorem requiredAt_eq_of_agreesOn (hagree : AgreesOn hs d d') (hclosed : Closed hs d) {h : Int}
    (hh : h ∈ hs) : d.requiredAt h = d'.requiredAt h := by
  rw [requiredAt_eq_askAt, requiredAt_eq_askAt, askAt_congr hagree hclosed hh]

/-- Whether an equation is found depends on its handle. -/
theorem locate_eq_of_agreesOn (hagree : AgreesOn hs d d') {r : Reference}
    (hr : ∀ h, r = some h → h ∈ hs) : d.locate r = d'.locate r := by
  cases r with
  | none => rfl
  | some h => simp only [locate, Table.get, Lookup.get, hagree h (hr h rfl)]

/-- The description of an equation depends on the equations below it. -/
theorem describe_eq_of_agreesOn (hagree : AgreesOn hs d d') (hclosed : Closed hs d) {r : Reference}
    (hr : ∀ h, r = some h → h ∈ hs) : d.describe r = d'.describe r := by
  rw [describe, describe, ← locate_eq_of_agreesOn hagree hr]
  cases hlocate : d.locate r with
  | error e => rfl
  | ok p =>
    obtain ⟨h, e⟩ := p
    obtain ⟨rfl, he⟩ := locate_eq_ok_iff.mp hlocate
    have hh : h ∈ hs := hr h rfl
    have he' : d'.table.find? h = some e := (hagree h hh).symm.trans he
    -- the names that are told are those that the equation needs
    have hrequired : d.requiredAt h = d'.requiredAt h := requiredAt_eq_of_agreesOn hagree hclosed hh
    rw [requiredAt_of_find? he, requiredAt_of_find? he'] at hrequired
    simp only [ok_bind, descriptionOf, Equation.describe, hrequired]

/-- Evaluating changes nothing. -/
theorem evaluate_directory (d : Directory) (r : Reference) (b : Bindings) :
    (d.evaluate r b).directory = d := by
  unfold evaluate
  cases d.locate r with
  | error e => rfl
  | ok p =>
    dsimp only
    cases d.valueOf b p.1 p.2 <;> rfl

/-- The result of an evaluation depends on the equations below the one evaluated. -/
theorem evaluate_result_congr (hagree : AgreesOn hs d d') (hclosed : Closed hs d) {r : Reference}
    (hr : ∀ h, r = some h → h ∈ hs) (b : Bindings) :
    (d.evaluate r b).result = (d'.evaluate r b).result := by
  cases r with
  | none => rfl
  | some h => exact valueAt_eq_of_agreesOn hagree hclosed (hr h rfl) b

/-- Directories that agree still do when both store the same equation. -/
theorem AgreesOn.insert (hagree : AgreesOn hs d d') (k : Int) (e : Equation) :
    AgreesOn hs { d with table := d.table.insert k e }
      { d' with table := d'.table.insert k e } := by
  intro h hh
  simp only [Table.find?_insert, hagree h hh]

/-- Directories that agree still do when both remove the same equation. -/
theorem AgreesOn.erase (hagree : AgreesOn hs d d') (k : Int) :
    AgreesOn hs { d with table := d.table.erase k } { d' with table := d'.table.erase k } := by
  intro h hh
  simp only [Table.find?_erase, hagree h hh]

/-- An edit has the same result in directories that agree, and they agree after it. -/
theorem edit_congr (hagree : AgreesOn hs d d') {r : Reference} (hlocate : d.locate r = d'.locate r)
    (text : Option String) :
    (d.edit r text).result = (d'.edit r text).result ∧
      AgreesOn hs (d.edit r text).directory (d'.edit r text).directory := by
  unfold edit
  rw [hlocate]
  cases d'.locate r with
  | error e => exact ⟨rfl, hagree⟩
  | ok p =>
    obtain ⟨h, e⟩ := p
    cases e with
    | composite e => exact ⟨rfl, hagree⟩
    | simple e =>
      dsimp only
      cases e.revise text with
      | error failure => exact ⟨rfl, hagree⟩
      | ok e' => exact ⟨rfl, hagree.insert h (.simple e')⟩

/-- A removal has the same result in directories that agree, and they agree after it. -/
theorem delete_congr (hagree : AgreesOn hs d d') {r : Reference}
    (hlocate : d.locate r = d'.locate r) :
    (d.delete r).result = (d'.delete r).result ∧
      AgreesOn hs (d.delete r).directory (d'.delete r).directory := by
  unfold delete
  rw [hlocate]
  cases d'.locate r with
  | error e => exact ⟨rfl, hagree⟩
  | ok p => exact ⟨rfl, hagree.erase p.1⟩

/-- Directories that agree on the equation that a request is about, and on those below it, give the
same answer and agree on these equations afterwards. -/
theorem perform_congr (hagree : AgreesOn hs d d') (hclosed : Closed hs d) {r : Reference}
    (hop : op.subject? = some r) (hr : ∀ h, r = some h → h ∈ hs) :
    (d.perform op).result = (d'.perform op).result ∧
      AgreesOn hs (d.perform op).directory (d'.perform op).directory := by
  have hlocate : d.locate r = d'.locate r := locate_eq_of_agreesOn hagree hr
  cases op with
  | edit k text =>
    obtain rfl := Option.some.inj hop
    exact (edit_congr hagree hlocate text).imp_left (congrArg (Except.map _))
  | delete k =>
    obtain rfl := Option.some.inj hop
    exact (delete_congr hagree hlocate).imp_left (congrArg (Except.map _))
  | evaluate k b =>
    obtain rfl := Option.some.inj hop
    refine ⟨congrArg (Except.map _) (evaluate_result_congr hagree hclosed hr b), ?_⟩
    show AgreesOn hs (d.evaluate k b).directory (d'.evaluate k b).directory
    rw [evaluate_directory, evaluate_directory]
    exact hagree
  | get k =>
    obtain rfl := Option.some.inj hop
    exact ⟨congrArg (fun x => Except.map _ (Except.map _ x)) hlocate, hagree⟩
  | describe k =>
    obtain rfl := Option.some.inj hop
    exact ⟨congrArg (Except.map _) (describe_eq_of_agreesOn hagree hclosed hr), hagree⟩
  | create | merge | list | handles | contains => cases hop

/-- A request that is about one equation leaves all others alone, and its own unless it is told to
have written it. The counter stays. -/
theorem Served.find?_of_not_written (h : d.Served op outcome) {r : Reference}
    (hop : op.subject? = some r) :
    outcome.directory.lastHandle = d.lastHandle ∧
    ∀ k, op.written? outcome ≠ some k → outcome.directory.table.find? k = d.table.find? k := by
  cases h with
  | refused | evaluated | asked => exact ⟨rfl, fun _ _ => rfl⟩
  | created | merged => cases hop
  | @edited j e f hfind hf =>
    refine ⟨rfl, fun k hk => ?_⟩
    have hj : j ≠ k := fun heq => hk (congrArg some heq)
    exact (Table.find?_insert _ _ _ _).trans (if_neg hj)
  | @deleted j e hfind =>
    refine ⟨rfl, fun k hk => ?_⟩
    have hj : j ≠ k := fun heq => hk (congrArg some heq)
    exact (Table.find?_erase _ _ _).trans (if_neg hj)

/-- A request that is about one equation makes no composite refer to anything new. -/
theorem Served.refers_of_refers (h : d.Served op outcome) {r : Reference}
    (hop : op.subject? = some r) {j k : Int} (hk : outcome.directory.Refers j k) :
    d.Refers j k := by
  obtain ⟨e, he, hk⟩ := hk
  refine ⟨e, ?_, hk⟩
  cases h with
  | refused | evaluated | asked => exact he
  | created | merged => cases hop
  | edited =>
    rcases Table.of_find?_insert he with ⟨-, hsimple⟩ | he
    · cases hsimple
    · exact he
  | deleted => exact Table.of_find?_erase he

/-- A request about one equation keeps a set closed, since it gives no composite new operands. -/
theorem Closed.perform (hclosed : Closed hs d) {r : Reference} (hop : op.subject? = some r) :
    Closed hs (d.perform op).directory :=
  fun h hh k hk => hclosed h hh k ((d.perform_served op).refers_of_refers hop hk)

end Directory

end Formulary
