import Formulary.Directory.Operation
import Formulary.Proofs.Expression.Accepted

/-!
# What becomes of a request

A directory either refuses a request and stays as it is, or serves it in the one way that fits the
kind of the request. Everything that is proved about runs rests on this list of cases.
-/

namespace Formulary

/-- A formula keeps the text that it was read from. -/
theorem Formula.text_of_parse {text : String} {f : Formula} (h : Formula.parse text = .ok f) :
    f.text = text := by
  obtain ⟨t, -, rfl⟩ := Formula.parse_eq_ok_iff.mp h
  rfl

/-- The symbols that are accepted are those of the operators. -/
theorem Operator.require_eq_ok_iff {symbol : Option String} {o : Operator} :
    Operator.require symbol = .ok o ↔ symbol = some o.text := by
  unfold Operator.require
  cases symbol with
  | none => simp
  | some s =>
    rw [Option.bind_some, Option.some_inj, ← Operator.ofText?_eq_some_iff]
    cases Operator.ofText? s <;> simp

namespace Equation

/-- A text has to be given and to be accepted. -/
theorem Simple.readText_eq_ok_iff {text : Option String} {f : Formula} :
    readText Formula.parse text = .ok f ↔ ∃ s, text = some s ∧ Formula.parse s = .ok f := by
  unfold readText
  cases text with
  | none => simp
  | some s =>
    by_cases hs : s.isEmpty
    · -- the empty text is refused before it is read, and it would be refused then as well
      have hblank : Formula.parse s = .error .blank := by
        rw [String.isEmpty_iff.mp hs]
        rfl
      simp [hs, hblank]
    · simp [hs, mapError_eq_ok_iff]

/-- A simple equation is made of an accepted text. -/
theorem Simple.make_eq_ok_iff {id : Int} {text : Option String} {e : Equation.Simple} :
    make (some id) text = .ok e ↔ ∃ s f, text = some s ∧ Formula.parse s = .ok f ∧ e = ⟨id, f⟩ := by
  unfold make makeWith
  rw [map_eq_ok_iff]
  simp only [readText_eq_ok_iff]
  grind

/-- A simple equation is revised with an accepted text and keeps its handle. -/
theorem Simple.revise_eq_ok_iff {e e' : Equation.Simple} {text : Option String} :
    e.revise text = .ok e' ↔
      ∃ s f, text = some s ∧ Formula.parse s = .ok f ∧ e' = { e with formula := f } := by
  unfold revise
  rw [map_eq_ok_iff]
  simp only [readText_eq_ok_iff]
  grind

/-- A composite that is made has the operands and the operator that were asked for. -/
theorem Composite.eq_of_make_eq_ok {find : Lookup} {id : Int} {left right : Reference}
    {symbol : Option String} {e : Equation.Composite}
    (h : make find (some id) left right symbol = .ok e) :
    ∃ l r o, left = some l ∧ right = some r ∧ symbol = some (Operator.text o) ∧
      e = ⟨id, l, r, o⟩ := by
  unfold make at h
  cases left with
  | none => cases right <;> cases h
  | some l =>
    cases right with
    | none => cases h
    | some r =>
      obtain ⟨o, hsymbol, h⟩ := bind_eq_ok_iff.mp h
      split at h
      · cases h
      · obtain ⟨-, -, h⟩ := bind_eq_ok_iff.mp h
        obtain ⟨-, -, h⟩ := bind_eq_ok_iff.mp h
        exact ⟨l, r, o, rfl, rfl, Operator.require_eq_ok_iff.mp hsymbol, (Except.ok.inj h).symm⟩

end Equation

/-- The requests that only ask about the directory. Evaluations are not among them, since they are
reported. -/
def Operation.asks : Operation → Bool
  | .get _ | .describe _ | .list | .handles | .contains _ => true
  | _ => false

namespace Directory

/-- What is located is stored under the handle that was given. -/
theorem locate_eq_ok_iff {d : Directory} {r : Reference} {h : Int} {e : Equation} :
    d.locate r = .ok (h, e) ↔ r = some h ∧ d.table.find? h = some e := by
  unfold locate
  cases r with
  | none => simp
  | some k =>
    rw [map_eq_ok_iff]
    unfold Table.get Lookup.get
    cases hk : d.table.find? k with
    | none => simp; grind
    | some e' => simp; grind

/-- A handle without an equation is not located. -/
theorem locate_of_find?_eq_none {d : Directory} {h : Int} (he : d.table.find? h = none) :
    d.locate (some h) = .error (.notFound (some h)) := by
  simp [locate, Table.get, Lookup.get, he]

/-- Locating fails in one way. -/
theorem locate_eq_error {d : Directory} {r : Reference} {e : Failure} (h : d.locate r = .error e) :
    e = .notFound r := by
  cases r with
  | none => exact (Except.error.inj h).symm
  | some k =>
    cases hk : d.table.find? k with
    | none =>
      rw [locate_of_find?_eq_none hk] at h
      exact (Except.error.inj h).symm
    | some e' =>
      rw [locate_eq_ok_iff.mpr ⟨rfl, hk⟩] at h
      cases h

/-- How a request to a directory can end. -/
inductive Served (d : Directory) : Operation → Outcome Answer → Prop
  /-- The request is refused; nothing changes and nothing is reported. -/
  | refused (op : Operation) (e : Failure) : Served d op (d.failed e)
  | created {f : Formula} : Formula.parse f.text = .ok f →
      Served d (.create (some f.text))
        ⟨.ok (.handle (d.lastHandle + 1)), d.keep (.simple ⟨d.lastHandle + 1, f⟩),
          [.created (d.lastHandle + 1) f.text]⟩
  | edited {h : Int} {e : Equation.Simple} {f : Formula} :
      d.table.find? h = some (.simple e) → Formula.parse f.text = .ok f →
      Served d (.edit (some h) (some f.text))
        ⟨.ok .done, { d with table := d.table.insert h (.simple { e with formula := f }) },
          [.edited h f.text]⟩
  | merged {l r : Int} {left right : Equation} (o : Operator) :
      d.table.find? l = some left → d.table.find? r = some right →
      Served d (.merge (some l) (some r) (some o.text))
        ⟨.ok (.handle (d.lastHandle + 1)), d.keep (.composite ⟨d.lastHandle + 1, l, r, o⟩),
          [.merged (d.lastHandle + 1) l o r]⟩
  | deleted {h : Int} {e : Equation} : d.table.find? h = some e →
      Served d (.delete (some h))
        ⟨.ok .done, { d with table := d.table.erase h }, [.deleted h]⟩
  | evaluated {h : Int} {e : Equation} {b : Bindings} {v : Number} : d.table.find? h = some e →
      d.valueOf b h e = .ok v →
      Served d (.evaluate (some h) b) ⟨.ok (.number v), d, [.solved h v]⟩
  | asked {op : Operation} (a : Answer) : op.asks = true → Served d op ⟨.ok a, d, []⟩

variable (d : Directory)

/-- Making a simple equation ends in one of the ways for it. -/
theorem create_served (text : Option String) :
    d.Served (.create text) ((d.create text).map .handle) := by
  unfold create
  split
  · exact .refused _ _
  · next e he =>
    obtain ⟨s, f, rfl, hf, rfl⟩ := Equation.Simple.make_eq_ok_iff.mp he
    obtain rfl := Formula.text_of_parse hf
    exact .created hf

theorem edit_served (r : Reference) (text : Option String) :
    d.Served (.edit r text) ((d.edit r text).map fun _ => .done) := by
  unfold edit
  split
  · exact .refused _ _
  · exact .refused _ _
  · next h e hlocate =>
    obtain ⟨rfl, hfind⟩ := locate_eq_ok_iff.mp hlocate
    split
    · exact .refused _ _
    · next e' he' =>
      obtain ⟨s, f, rfl, hf, rfl⟩ := Equation.Simple.revise_eq_ok_iff.mp he'
      obtain rfl := Formula.text_of_parse hf
      exact .edited hfind hf

theorem merge_served (left right : Reference) (symbol : Option String) :
    d.Served (.merge left right symbol) ((d.merge left right symbol).map .handle) := by
  unfold merge
  split
  · exact .refused _ _
  · exact .refused _ _
  · next p q hleft hright =>
    split
    · exact .refused _ _
    · next e he =>
      obtain ⟨l, r, o, rfl, rfl, rfl, rfl⟩ := Equation.Composite.eq_of_make_eq_ok he
      obtain ⟨hl, hfindl⟩ := locate_eq_ok_iff.mp hleft
      obtain ⟨hr, hfindr⟩ := locate_eq_ok_iff.mp hright
      obtain rfl := Option.some.inj hl
      obtain rfl := Option.some.inj hr
      exact .merged o hfindl hfindr

theorem delete_served (r : Reference) :
    d.Served (.delete r) ((d.delete r).map fun _ => .done) := by
  unfold delete
  split
  · exact .refused _ _
  · next h e hlocate =>
    obtain ⟨rfl, hfind⟩ := locate_eq_ok_iff.mp hlocate
    exact .deleted hfind

theorem evaluate_served (r : Reference) (b : Bindings) :
    d.Served (.evaluate r b) ((d.evaluate r b).map .number) := by
  unfold evaluate
  split
  · exact .refused _ _
  · next h e hlocate =>
    obtain ⟨rfl, hfind⟩ := locate_eq_ok_iff.mp hlocate
    split
    · exact .refused _ _
    · next v hv => exact .evaluated hfind hv

/-- A request that only asks ends in one of the ways for it, whatever it is answered with. -/
theorem answered_served {op : Operation} (hop : op.asks = true) (result : Except Failure Answer) :
    d.Served op (d.answered result) := by
  cases result with
  | error e => exact .refused op e
  | ok a => exact .asked a hop

/-- Every request ends in one of these ways, whatever its arguments are. -/
theorem perform_served (op : Operation) : d.Served op (d.perform op) := by
  cases op with
  | create text => exact d.create_served text
  | edit handle text => exact d.edit_served handle text
  | merge left right symbol => exact d.merge_served left right symbol
  | delete handle => exact d.delete_served handle
  | evaluate handle b => exact d.evaluate_served handle b
  -- everything else only asks
  | _ => exact d.answered_served rfl _

end Directory

end Formulary
