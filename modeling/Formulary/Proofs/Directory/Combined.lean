import Mathlib.Logic.Relation
import Formulary.Proofs.Directory.Nesting
import Formulary.Proofs.Text.SortedNames

/-!
# Combined expressions

A composite whose operands are all there, and theirs, and so on, stands for one text: those of the
simple equations below it, in brackets and with the operators in between. The text is accepted
whatever the texts of the simple equations look like, since a bracketed text puts out the same
tokens wherever it stands, and the equation with that text answers as the composite does.
-/

namespace Formulary

/-- Two texts in brackets with an operator in between. -/
def Operator.joinTexts (o : Operator) (left right : String) : String :=
  "(" ++ left ++ ")" ++ o.text ++ "(" ++ right ++ ")"

/-- Two texts that scan, joined by an operator, scan to the postorder of the joined trees. What is
read in a bracket does not depend on what waits outside. -/
theorem scan_joinTexts (o : Operator) {left right : String} {s t : Tree}
    (hleft : scan 0 [] left.toList = .ok s.tokens)
    (hright : scan 0 [] right.toList = .ok t.tokens) :
    scan 0 [] (o.joinTexts left right).toList = .ok (Tree.node o s t).tokens := by
  obtain ⟨out, ops, hreads, hs⟩ := scan_eq_ok_iff.mp hleft
  obtain ⟨out', ops', hreads', ht⟩ := scan_eq_ok_iff.mp hright
  have hfirst := hreads.bracketed []
  have hoperator : Reads [] [o.symbol] [] [.operator o] :=
    .single (@Waiting.Step.operator o [] [] (by simp) trivial)
  -- `o` waits while the right text is read, which takes no notice of it
  have hsecond := hreads'.bracketed [.operator o]
  have hall := (hfirst.append hoperator).append hsecond
  rw [← hs, ← ht] at hall
  have htext : (o.joinTexts left right).toList =
      '(' :: left.toList ++ [')'] ++ [o.symbol] ++ ('(' :: right.toList ++ [')']) := by
    simp [Operator.joinTexts]
  rw [htext]
  refine scan_eq_ok_iff.mpr ⟨_, [o], hall, ?_⟩
  simp [Tree.tokens, operatorTokens]

namespace Directory

variable {d : Directory} {h : Int}

/-- The text that the equation with a handle stands for. -/
inductive Combined (d : Directory) : Int → String → Prop
  | simple {h : Int} {e : Equation.Simple} : d.table.find? h = some (.simple e) →
      Combined d h e.formula.text
  | composite {h : Int} {e : Equation.Composite} {left right : String} :
      d.table.find? h = some (.composite e) → Combined d e.left left →
      Combined d e.right right → Combined d h (e.operator.joinTexts left right)

/-- The equation with a handle is there, and so are its operands, their operands, and so on. -/
def Intact (d : Directory) (h : Int) : Prop :=
  ∀ k, Relation.ReflTransGen d.Refers h k → d.contains (some k) = true

/-- An equation stands for one text. -/
theorem Combined.unique {text other : String} (htext : d.Combined h text)
    (hother : d.Combined h other) : other = text := by
  induction htext generalizing other with
  | simple hfind =>
    cases hother with
    | simple hfind' => cases hfind.symm.trans hfind'; rfl
    | composite hfind' => cases hfind.symm.trans hfind'
  | composite hfind _ _ ihl ihr =>
    cases hother with
    | simple hfind' => cases hfind.symm.trans hfind'
    | composite hfind' hleft hright =>
      cases hfind.symm.trans hfind'
      rw [ihl hleft, ihr hright]

/-- What is intact is there. -/
theorem Intact.exists_find? (hh : d.Intact h) : ∃ e, d.table.find? h = some e :=
  Option.isSome_iff_exists.mp (hh h .refl)

/-- The operands of what is intact are intact. -/
theorem Intact.of_refers {k : Int} (hh : d.Intact h) (hk : d.Refers h k) : d.Intact k :=
  fun _ hchain => hh _ (.head hk hchain)

/-- If an equation has an answer to a question that it passes on to its operands, so have they. -/
theorem WellFormed.askAt_of_refers (hd : d.WellFormed) {α : Type}
    {leaf : Equation.Simple → Except Failure α}
    {join : Equation.Composite → α → α → Except Failure α} {a : α}
    (ha : d.askAt leaf join h = .ok a) {k : Int} (hk : d.Refers h k) :
    ∃ x, d.askAt leaf join k = .ok x := by
  obtain ⟨e, he, hk⟩ := hk
  rw [hd.askAt_composite he] at ha
  obtain ⟨x, hleft, ha⟩ := bind_eq_ok_iff.mp ha
  obtain ⟨y, hright, -⟩ := bind_eq_ok_iff.mp ha
  rcases hk with rfl | rfl
  · exact ⟨x, hleft⟩
  · exact ⟨y, hright⟩

/-- Nothing that an equation with an answer needs has been deleted. -/
theorem WellFormed.intact_of_askAt (hd : d.WellFormed) {α : Type}
    {leaf : Equation.Simple → Except Failure α}
    {join : Equation.Composite → α → α → Except Failure α} {a : α}
    (ha : d.askAt leaf join h = .ok a) : d.Intact h := by
  intro k hk
  -- the answers go down along the chain
  have hanswer : ∃ x, d.askAt leaf join k = .ok x := by
    induction hk with
    | refl => exact ⟨a, ha⟩
    | tail _ hrefers ih =>
      obtain ⟨x, hx⟩ := ih
      exact hd.askAt_of_refers hx hrefers
  obtain ⟨x, hx⟩ := hanswer
  cases he : d.table.find? k with
  | none => cases hx.symm.trans (askAt_of_find?_eq_none he)
  | some e => exact Option.isSome_iff_exists.mpr ⟨e, he⟩

/-- What stands for a text is intact. -/
theorem Combined.intact {text : String} (htext : d.Combined h text) : d.Intact h := by
  induction htext with
  | simple he =>
    intro k hchain
    rcases hchain.cases_head with rfl | ⟨_, ⟨_, he', _⟩, _⟩
    · exact Option.isSome_iff_exists.mpr ⟨_, he⟩
    · cases he.symm.trans he'
  | composite he _ _ ihl ihr =>
    intro k hchain
    rcases hchain.cases_head with rfl | ⟨j, ⟨_, he', hj⟩, hrest⟩
    · exact Option.isSome_iff_exists.mpr ⟨_, he⟩
    · cases he.symm.trans he'
      rcases hj with rfl | rfl
      · exact ihl k hrest
      · exact ihr k hrest

/-- What is intact stands for a text. -/
theorem WellFormed.exists_combined (hd : d.WellFormed) (hh : d.Intact h) :
    ∃ text, d.Combined h text := by
  -- operands have smaller handles
  induction hn : h.toNat using Nat.strong_induction_on generalizing h with
  | _ n ih =>
    obtain ⟨e, he⟩ := hh.exists_find?
    cases e with
    | simple e => exact ⟨_, .simple he⟩
    | composite e =>
      have hoperand (k : Int) (hk : d.Refers h k) : ∃ text, d.Combined k text := by
        have hlt := hd.refers_lt hk
        exact ih k.toNat (by omega) (hh.of_refers hk) rfl
      obtain ⟨left, hleft⟩ := hoperand e.left ⟨e, he, .inl rfl⟩
      obtain ⟨right, hright⟩ := hoperand e.right ⟨e, he, .inr rfl⟩
      exact ⟨_, .composite he hleft hright⟩

/-- The equation with a handle answers as a tree does, except that it may come upon an arithmetic
failure before it comes upon a name that is not bound. -/
structure AnswersAs (d : Directory) (h : Int) (t : Tree) : Prop where
  required : d.requiredAt h = .ok (Text.sortedNames t.names)
  bound : ∀ {b : Bindings}, firstUnbound? b t.names = none → d.valueAt b h = t.value b
  unbound : ∀ {b : Bindings} {name : String}, firstUnbound? b t.names = some name →
    d.valueAt b h = .error (.unboundVariable name) ∨ ∃ e, d.valueAt b h = .error (.arithmetic e)

/-- A simple equation answers as the tree of its formula. -/
theorem AnswersAs.simple {e : Equation.Simple} {text : String} {t : Tree}
    (he : d.table.find? h = some (.simple e)) (hformula : e.formula = t.formula text) :
    d.AnswersAs h t := by
  have hvalue (b : Bindings) : d.valueAt b h = (t.formula text).value b := by
    rw [valueAt_simple he, Equation.Simple.value, hformula]
  refine ⟨?_, fun {b} hb => ?_, fun {b name} hb => .inl ?_⟩
  · rw [requiredAt_simple he, hformula]
    rfl
  · rw [hvalue, Tree.formula_value, hb]
  · rw [hvalue, Tree.formula_value, hb]

/-- A composite answers as its operator over the trees of its operands. -/
theorem AnswersAs.composite (hd : d.WellFormed) {e : Equation.Composite} {left right : Tree}
    (he : d.table.find? h = some (.composite e)) (hleft : d.AnswersAs e.left left)
    (hright : d.AnswersAs e.right right) : d.AnswersAs h (.node e.operator left right) := by
  refine ⟨?_, fun {b} hb => ?_, fun {b name} hb => ?_⟩
  · rw [hd.requiredAt_composite he, hleft.required, hright.required, ok_bind, ok_bind,
      Text.sortedNames_append]
    rfl
  · rw [Tree.names, firstUnbound?_append, Option.or_eq_none_iff] at hb
    rw [hd.valueAt_composite he, hleft.bound hb.1, hright.bound hb.2, Tree.value]
    cases left.value b with
    | error e => rfl
    | ok x => cases right.value b <;> rfl
  · rw [Tree.names, firstUnbound?_append] at hb
    rw [hd.valueAt_composite he]
    cases hfirst : firstUnbound? b left.names with
    | some n =>
      obtain rfl : n = name := by simpa [hfirst] using hb
      rcases hleft.unbound hfirst with hfail | ⟨failure, hfail⟩
      · exact .inl (by rw [hfail, error_bind])
      · exact .inr ⟨failure, by rw [hfail, error_bind]⟩
    | none =>
      -- the left operand has a value or fails first; only then is the right one asked
      rw [hfirst, Option.none_or] at hb
      rw [hleft.bound hfirst]
      rcases Tree.value_of_bound hfirst with ⟨x, hx⟩ | ⟨failure, hx⟩
      · rw [hx, ok_bind]
        rcases hright.unbound hb with hfail | ⟨failure, hfail⟩
        · exact .inl (by rw [hfail, error_bind])
        · exact .inr ⟨failure, by rw [hfail, error_bind]⟩
      · exact .inr ⟨failure, by rw [hx, error_bind]⟩

/-- The tree of the equation with a handle: that of its text, or the trees of its operands joined by
its operator. -/
inductive Denotes (d : Directory) : Int → Tree → Prop
  | simple {h : Int} {e : Equation.Simple} {t : Tree} : d.table.find? h = some (.simple e) →
      e.formula = t.formula e.formula.text → Denotes d h t
  | composite {h : Int} {e : Equation.Composite} {left right : Tree} :
      d.table.find? h = some (.composite e) → Denotes d e.left left →
      Denotes d e.right right → Denotes d h (.node e.operator left right)

/-- An equation answers as the tree that it denotes. -/
theorem Denotes.answersAs (hd : d.WellFormed) {t : Tree} (ht : d.Denotes h t) :
    d.AnswersAs h t := by
  induction ht with
  | simple he hformula => exact .simple he hformula
  | composite he _ _ ihl ihr => exact .composite hd he ihl ihr

/-- The combined text scans to the postorder of the tree that the equation denotes. -/
theorem Combined.exists_denotes (hd : d.WellFormed) {text : String} (htext : d.Combined h text) :
    ∃ t : Tree, scan 0 [] text.toList = .ok t.tokens ∧ d.Denotes h t := by
  induction htext with
  | @simple h e he =>
    cases (hd.stored he).2.2 with
    | simple hparse =>
      -- the text was accepted when it was stored, so it has a tree
      obtain ⟨t, hscan, hformula⟩ := Formula.parse_eq_ok_iff.mp hparse
      exact ⟨t, hscan, .simple he hformula⟩
  | @composite h e left right he _ _ ihl ihr =>
    obtain ⟨s, hleft, hs⟩ := ihl
    obtain ⟨t, hright, ht⟩ := ihr
    exact ⟨.node e.operator s t, scan_joinTexts e.operator hleft hright, .composite he hs ht⟩

/-- The combined text scans to the postorder of a tree that the equation answers as. -/
theorem Combined.exists_tree (hd : d.WellFormed) {text : String} (htext : d.Combined h text) :
    ∃ t : Tree, scan 0 [] text.toList = .ok t.tokens ∧ d.AnswersAs h t := by
  obtain ⟨t, hscan, ht⟩ := htext.exists_denotes hd
  exact ⟨t, hscan, ht.answersAs hd⟩

/-- In a reachable directory, merging is writing the combined expression. While nothing that an
equation needs has been deleted, it stands for exactly one text. The text makes a simple equation,
whatever the texts of the simple equations below look like. Both need the same names. With all of
them bound both give the same number or the same arithmetic failure. Otherwise the simple equation
names the first unbound one in its text, and so does the other unless arithmetic fails before. -/
theorem merged_eq_combined (hd : d.Reachable) (hh : d.Intact h) :
    ∃ text e names, d.Combined h text ∧ (∀ other, d.Combined h other → other = text) ∧
      Equation.Simple.make (some 1) (some text) = .ok e ∧
      d.requiredAt h = .ok names ∧
      (∀ find depth, (Equation.simple e).required find depth = .ok names) ∧
      ∀ b,
        ((∀ name ∈ names, (b.value? name).isSome) →
          (d.evaluate (some h) b).result = e.value b ∧
          ((∃ v, e.value b = .ok v) ∨ ∃ a, e.value b = .error (.arithmetic a))) ∧
        ((∃ name ∈ names, b.value? name = none) →
          ∃ name, firstUnbound? b (operands text.toList) = some name ∧
            e.value b = .error (.unboundVariable name) ∧
            ((d.evaluate (some h) b).result = .error (.unboundVariable name) ∨
              ∃ a, (d.evaluate (some h) b).result = .error (.arithmetic a))) := by
  obtain ⟨text, htext⟩ := hd.wellFormed.exists_combined hh
  obtain ⟨t, hscan, hanswers⟩ := htext.exists_tree hd.wellFormed
  have hmake : Equation.Simple.make (some 1) (some text) = .ok ⟨1, t.formula text⟩ :=
    Equation.Simple.make_eq_ok_iff.mpr
      ⟨text, _, rfl, Formula.parse_eq_ok_iff.mpr ⟨t, hscan, rfl⟩, rfl⟩
  have hoperands : operands text.toList = t.names := by
    rw [← names_of_scan hscan, Tree.names_tokens]
  refine ⟨text, ⟨1, t.formula text⟩, Text.sortedNames t.names, htext,
    fun _ hother => htext.unique hother, hmake, hanswers.required, fun _ depth => ?_, fun b => ?_⟩
  · cases depth <;> rfl
  · have hresult : (d.evaluate (some h) b).result = d.valueAt b h := rfl
    have hvalue : Equation.Simple.value ⟨1, t.formula text⟩ b = (t.formula text).value b := rfl
    rw [hresult, hvalue, Tree.formula_value, hoperands]
    cases hfirst : firstUnbound? b t.names with
    | none =>
      have hbound := firstUnbound?_eq_none_iff.mp hfirst
      refine ⟨fun _ => ⟨hanswers.bound hfirst, Tree.value_of_bound hfirst⟩, ?_⟩
      rintro ⟨name, hname, hnone⟩
      simpa [hnone] using hbound name (Text.mem_sortedNames.mp hname)
    | some name =>
      refine ⟨fun hbound => ?_, fun _ => ⟨name, rfl, rfl, hanswers.unbound hfirst⟩⟩
      have hnone : firstUnbound? b t.names = none :=
        firstUnbound?_eq_none_iff.mpr fun n hn => hbound n (Text.mem_sortedNames.mpr hn)
      cases hfirst.symm.trans hnone

/-- Composites of simple equations whose texts are not tidy. -/
theorem merged_eq_combined_untidy :
    let d := empty.after [.create (some "ab+"), .create (some " c "),
      .merge (some 1) (some 2) (some "*"), .merge (some 3) (some 1) (some "^")]
    d.Reachable ∧ d.Intact 4 ∧ d.Combined 4 "((ab+)*( c ))^(ab+)" ∧
      ∃ e, Equation.Simple.make (some 1) (some "((ab+)*( c ))^(ab+)") = .ok e ∧
        ∀ b, (∀ name ∈ ["a", "b", "c"], (b.value? name).isSome) →
          (d.evaluate (some 4) b).result = e.value b := by
  intro d
  have hd : d.Reachable := Reachable.empty.after _
  have hsum : d.Combined 1 "ab+" :=
    .simple (e := ⟨1, (Tree.node .plus (.leaf "a") (.leaf "b")).formula "ab+"⟩) rfl
  have hc : d.Combined 2 " c " := .simple (e := ⟨2, (Tree.leaf "c").formula " c "⟩) rfl
  have hproduct : d.Combined 3 "(ab+)*( c )" := .composite (e := ⟨3, 1, 2, .times⟩) rfl hsum hc
  have hpower : d.Combined 4 "((ab+)*( c ))^(ab+)" :=
    .composite (e := ⟨4, 3, 1, .power⟩) rfl hproduct hsum
  obtain ⟨text, e, names, -, hunique, hmake, hrequired, -, hsame⟩ :=
    merged_eq_combined hd hpower.intact
  obtain rfl := hunique _ hpower
  have hnames : d.requiredAt 4 = .ok ["a", "b", "c"] := by rfl
  obtain rfl : ["a", "b", "c"] = names := Except.ok.inj (hnames.symm.trans hrequired)
  exact ⟨hd, hpower.intact, hpower, e, hmake, fun b hb => ((hsame b).1 hb).1⟩

end Directory

end Formulary
