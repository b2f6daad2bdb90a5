import Mathlib.Data.List.Induction
import Formulary.Proofs.Directory.Served

/-!
# Edits of a simple equation

An equation that is given one text after the other is, at every time, the equation that the last
accepted text alone would make. Refused texts leave no trace, and neither do the texts before. How
it answers follows from that text: a name that is not bound is reported before any arithmetic, and
nothing but arithmetic can fail after that.
-/

namespace Formulary

/-- The first unbound name is not bound, and all names before it are. -/
theorem firstUnbound?_eq_some_iff {b : Bindings} {names : List String} {name : String} :
    firstUnbound? b names = some name ↔
      ∃ before rest, names = before ++ name :: rest ∧
        (∀ n ∈ before, (b.value? n).isSome) ∧ b.value? name = none := by
  rw [firstUnbound?, List.find?_eq_some_iff_append]
  simp only [Option.isNone_iff_eq_none, Bool.not_eq_true', Option.isNone_eq_false_iff]
  constructor
  · rintro ⟨hname, before, rest, hnames, hbefore⟩
    exact ⟨before, rest, hnames, hbefore, hname⟩
  · rintro ⟨before, rest, hnames, hbefore, hname⟩
    exact ⟨hname, before, rest, hnames, hbefore⟩

namespace Formula

variable {text : String} {f : Formula} {b : Bindings}

/-- With a name of the text unbound, the first such name is reported and nothing is computed. -/
theorem value_of_unbound (hf : parse text = .ok f) {name : String}
    (hname : firstUnbound? b (operands text.toList) = some name) :
    f.value b = .error (.unboundVariable name) := by
  obtain ⟨t, hscan, rfl⟩ := parse_eq_ok_iff.mp hf
  rw [← names_of_scan hscan, Tree.names_tokens] at hname
  rw [Tree.formula_value, hname]

/-- With all names of the text bound, nothing but arithmetic can fail. -/
theorem value_of_bound (hf : parse text = .ok f)
    (hbound : firstUnbound? b (operands text.toList) = none) :
    (∃ v, f.value b = .ok v) ∨ ∃ a, f.value b = .error (.arithmetic a) := by
  obtain ⟨t, hscan, rfl⟩ := parse_eq_ok_iff.mp hf
  rw [← names_of_scan hscan, Tree.names_tokens] at hbound
  rw [Tree.formula_value, hbound]
  exact Tree.value_of_bound hbound

/-- An accepted text has a value, or a name in it is not bound, or arithmetic fails. -/
theorem value_cases (hf : parse text = .ok f) (b : Bindings) :
    (∃ v, f.value b = .ok v) ∨ (∃ name, f.value b = .error (.unboundVariable name)) ∨
      ∃ a, f.value b = .error (.arithmetic a) := by
  cases hfirst : firstUnbound? b (operands text.toList) with
  | some name => exact .inr (.inl ⟨name, value_of_unbound hf hfirst⟩)
  | none =>
    rcases value_of_bound hf hfirst with hvalue | hfailed
    · exact .inl hvalue
    · exact .inr (.inr hfailed)

/-- An accepted text fails for want of a name exactly if that is its first unbound operand. -/
theorem value_eq_unboundVariable_iff (hf : parse text = .ok f) {name : String} :
    f.value b = .error (.unboundVariable name) ↔
      firstUnbound? b (operands text.toList) = some name := by
  refine ⟨fun hvalue => ?_, value_of_unbound hf⟩
  cases hfirst : firstUnbound? b (operands text.toList) with
  | none =>
    rcases value_of_bound hf hfirst with ⟨v, hv⟩ | ⟨a, ha⟩
    · cases hv.symm.trans hvalue
    · cases ha.symm.trans hvalue
  | some first => cases (value_of_unbound hf hfirst).symm.trans hvalue; rfl

end Formula

/-- The texts of a list that are expressions; some may be missing altogether. -/
def expressions (texts : List (Option String)) : List String :=
  texts.filterMap fun text => text.filter fun s => (Formula.parse s).isOk

theorem expressions_append (texts texts' : List (Option String)) :
    expressions (texts ++ texts') = expressions texts ++ expressions texts' :=
  List.filterMap_append

/-- A text that is accepted is an expression. -/
theorem expressions_singleton_of_parse {s : String} {f : Formula} (hs : Formula.parse s = .ok f) :
    expressions [some s] = [s] := by
  have haccepted : (some s).filter (fun s => (Formula.parse s).isOk) = some s := by
    rw [Option.filter_some, hs]
    rfl
  rw [expressions, List.filterMap_cons_some haccepted, List.filterMap_nil]

/-- A text that is refused, or none at all, is no expression. -/
theorem expressions_singleton_of_refused {text : Option String}
    (htext : ∀ s, text = some s → ∃ failure, Formula.parse s = .error failure) :
    expressions [text] = [] := by
  cases text with
  | none => rfl
  | some s =>
    obtain ⟨failure, hs⟩ := htext s rfl
    have hrefused : (some s).filter (fun s => (Formula.parse s).isOk) = none := by
      rw [Option.filter_some, hs]
      rfl
    rw [expressions, List.filterMap_cons_none hrefused, List.filterMap_nil]

namespace Equation.Simple

/-- The equation after a list of new texts, each of which it takes on unless the text is refused. -/
def after (e : Equation.Simple) (texts : List (Option String)) : Equation.Simple :=
  texts.foldl (fun e text =>
    match e.revise text with
    | .ok e' => e'
    | .error _ => e) e

/-- A new text is taken on if it is an expression and refused if it is not. -/
theorem after_append_singleton (e : Equation.Simple) (texts : List (Option String))
    (text : Option String) :
    (∃ s f, text = some s ∧ Formula.parse s = .ok f ∧
      e.after (texts ++ [text]) = { e.after texts with formula := f }) ∨
    ((∀ s, text = some s → ∃ failure, Formula.parse s = .error failure) ∧
      e.after (texts ++ [text]) = e.after texts) := by
  have hstep : e.after (texts ++ [text]) =
      match (e.after texts).revise text with
      | .ok e' => e'
      | .error _ => e.after texts := by
    simp [after]
  cases hrevise : (e.after texts).revise text with
  | ok e' =>
    rw [hrevise] at hstep
    obtain ⟨s, f, rfl, hf, rfl⟩ := revise_eq_ok_iff.mp hrevise
    exact .inl ⟨s, f, rfl, hf, hstep⟩
  | error failure =>
    rw [hrevise] at hstep
    refine .inr ⟨?_, hstep⟩
    rintro s rfl
    cases hs : Formula.parse s with
    | error refusal => exact ⟨refusal, rfl⟩
    | ok f => cases hrevise.symm.trans (revise_eq_ok_iff.mpr ⟨s, f, rfl, hs, rfl⟩)

/-- After a list of texts the equation is the one that the last expression makes. -/
theorem after_eq (id : Int) {text : String} {f : Formula} (hf : Formula.parse text = .ok f)
    (texts : List (Option String)) :
    ∃ t f', (expressions (some text :: texts)).getLast? = some t ∧ Formula.parse t = .ok f' ∧
      after ⟨id, f⟩ texts = ⟨id, f'⟩ := by
  induction texts using List.reverseRecOn with
  | nil => exact ⟨text, f, by rw [expressions_singleton_of_parse hf]; rfl, hf, rfl⟩
  | append_singleton texts new ih =>
    rw [← List.cons_append, expressions_append]
    rcases after_append_singleton ⟨id, f⟩ texts new with ⟨s, f', rfl, hs, hafter⟩ | ⟨hnew, hafter⟩
    · obtain ⟨-, f'', -, -, hbefore⟩ := ih
      rw [hbefore] at hafter
      refine ⟨s, f', ?_, hs, hafter⟩
      rw [expressions_singleton_of_parse hs, List.getLast?_append, List.getLast?_singleton,
        Option.some_or]
    · obtain ⟨t, f', hlast, ht, hbefore⟩ := ih
      refine ⟨t, f', ?_, ht, hafter.trans hbefore⟩
      rw [expressions_singleton_of_refused hnew, List.append_nil, hlast]

/-- A simple equation that was given any texts, some of them refused, is the one that the last
expression among them makes, with no trace of the others. When it is asked, it reports the first
name of that text that is not bound, if there is one, before any arithmetic. Otherwise it has a
value or fails in arithmetic. It never comes upon malformed tokens or a token that it cannot look
up. -/
theorem last_expression_decides {id : Int} {text : String} {e : Equation.Simple}
    (he : make (some id) (some text) = .ok e) (texts : List (Option String)) :
    ∃ t, (expressions (some text :: texts)).getLast? = some t ∧
      Formula.parse t = .ok (e.after texts).formula ∧
      make (some id) (some t) = .ok (e.after texts) ∧
      ∀ b,
        (∀ name, (e.after texts).value b = .error (.unboundVariable name) ↔
          ∃ before rest, operands t.toList = before ++ name :: rest ∧
            (∀ n ∈ before, (b.value? n).isSome) ∧ b.value? name = none) ∧
        ((∃ name ∈ operands t.toList, b.value? name = none) →
          ∃ name, (e.after texts).value b = .error (.unboundVariable name)) ∧
        ((∀ name ∈ operands t.toList, (b.value? name).isSome) →
          (∃ v, (e.after texts).value b = .ok v) ∨
            ∃ a, (e.after texts).value b = .error (.arithmetic a)) ∧
        ∀ shown, (e.after texts).value b ≠ .error (.malformed shown) ∧
          (e.after texts).value b ≠ .error (.unboundToken shown) := by
  obtain ⟨s, f, hs, hf, rfl⟩ := make_eq_ok_iff.mp he
  obtain rfl := Option.some.inj hs
  obtain ⟨t, f', hlast, ht, hafter⟩ := after_eq id hf texts
  rw [hafter]
  refine ⟨t, hlast, ht, make_eq_ok_iff.mpr ⟨t, f', rfl, ht, rfl⟩, fun b => ⟨fun name => ?_, ?_,
    fun hbound => ?_, fun shown => ?_⟩⟩
  · exact (Formula.value_eq_unboundVariable_iff ht).trans firstUnbound?_eq_some_iff
  · rintro ⟨name, hname, hnone⟩
    cases hfirst : firstUnbound? b (operands t.toList) with
    | none => simpa [hnone] using firstUnbound?_eq_none_iff.mp hfirst name hname
    | some first => exact ⟨first, Formula.value_of_unbound ht hfirst⟩
  · exact Formula.value_of_bound ht (firstUnbound?_eq_none_iff.mpr hbound)
  · show f'.value b ≠ _ ∧ f'.value b ≠ _
    rcases Formula.value_cases ht b with ⟨v, hv⟩ | ⟨name, hv⟩ | ⟨a, hv⟩ <;> simp [hv]

/-- The last of several edits are refused, so the text before them decides. -/
theorem last_expression_decides_untidy :
    let e : Equation.Simple := ⟨1, (Tree.node .power (.leaf "a") (.leaf "b")).formula "a^b"⟩
    let texts := [some "a+", some "b c/", none, some "()", some ""]
    make (some 1) (some "a^b") = .ok e ∧
      make (some 1) (some "b c/") = .ok (e.after texts) ∧
      (∀ b : Bindings, b.value? "b" = none →
        (e.after texts).value b = .error (.unboundVariable "b")) ∧
      ∀ b : Bindings, (∀ name ∈ ["b", "c"], (b.value? name).isSome) →
        (∃ v, (e.after texts).value b = .ok v) ∨
          ∃ a, (e.after texts).value b = .error (.arithmetic a) := by
  intro e texts
  have he : make (some 1) (some "a^b") = .ok e := by rfl
  obtain ⟨t, hlast, -, hmake, hanswers⟩ := last_expression_decides he texts
  have hexpressions : (expressions (some "a^b" :: texts)).getLast? = some "b c/" := by rfl
  obtain rfl : "b c/" = t := Option.some.inj (hexpressions.symm.trans hlast)
  refine ⟨he, hmake, fun b hb => ?_, fun b hb => (hanswers b).2.2.1 hb⟩
  exact ((hanswers b).1 "b").mpr ⟨[], ["c"], rfl, by simp, hb⟩

end Equation.Simple

end Formulary
