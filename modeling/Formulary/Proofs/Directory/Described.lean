import Formulary.Proofs.Directory.Combined
import Formulary.Proofs.Directory.Lifecycle

/-!
# What descriptions tell

The description of an equation lists the operands in the texts of all simple equations that it
needs, and no names at all if one of them is missing. Every accepted text has an operand, so an
empty list can mean nothing else. A missing handle is also the only thing that can go wrong while
the names are gathered.
-/

namespace Formulary

/-- The operands of a text are its letters and digits. -/
theorem mem_operands_iff {name : String} {cs : List Char} :
    name ∈ operands cs ↔ ∃ c ∈ cs, isOperandChar c = true ∧ name = String.singleton c := by
  rw [operands, List.mem_map]
  constructor
  · rintro ⟨c, hc, rfl⟩
    exact ⟨c, (List.mem_filter.mp hc).1, (List.mem_filter.mp hc).2, rfl⟩
  · rintro ⟨c, hc, hoperand, rfl⟩
    exact ⟨c, List.mem_filter.mpr ⟨hc, hoperand⟩, rfl⟩

/-- Every tree has a leaf. -/
theorem Tree.names_ne_nil (t : Tree) : t.names ≠ [] := by
  intro hnil
  have hlength := t.length_tokens
  rw [hnil] at hlength
  exact absurd hlength (Nat.succ_ne_zero _)

/-- A name is that of an operand in the text of a simple equation. -/
def Equation.Simple.Mentions (e : Equation.Simple) (name : String) : Prop :=
  ∃ c ∈ e.formula.text.toList, isOperandChar c = true ∧ name = String.singleton c

namespace Directory

variable {d : Directory} {h : Int}

/-- An equation that is needed, directly or through other composites, is missing. -/
def Broken (d : Directory) (h : Int) : Prop :=
  ∃ k, Relation.TransGen d.Refers h k ∧ d.contains (some k) = false

/-- A handle with an equation is there. -/
theorem contains_of_find? {e : Equation} (he : d.table.find? h = some e) :
    d.contains (some h) = true :=
  Option.isSome_iff_exists.mpr ⟨e, he⟩

/-- An equation that is there is either intact or broken. -/
theorem intact_iff_not_broken (hh : d.contains (some h) = true) : d.Intact h ↔ ¬ d.Broken h := by
  constructor
  · rintro hintact ⟨k, hk, hmissing⟩
    cases (hintact k hk.to_reflTransGen).symm.trans hmissing
  · intro hbroken k hk
    rcases Relation.reflTransGen_iff_eq_or_transGen.mp hk with rfl | hk
    · exact hh
    · by_contra hmissing
      exact hbroken ⟨k, hk, by simpa using hmissing⟩

/-- The operands of the tree of a simple equation are those in its text. -/
theorem WellFormed.mem_names_simple (hd : d.WellFormed) {e : Equation.Simple}
    (he : d.table.find? h = some (.simple e)) {t : Tree} (ht : d.Denotes h t) {name : String} :
    name ∈ t.names ↔ e.Mentions name := by
  cases ht with
  | composite he' => cases he.symm.trans he'
  | simple he' hformula =>
    cases he.symm.trans he'
    cases (hd.stored he).2.2 with
    | @simple f hparse =>
      obtain ⟨s, hscan, hs⟩ := Formula.parse_eq_ok_iff.mp hparse
      have hnames : t.names = operands f.text.toList := by
        rw [← names_of_scan hscan, Tree.names_tokens]
        exact congrArg Formula.names (hformula.symm.trans hs)
      rw [hnames]
      exact mem_operands_iff

/-- The operands of the tree of an equation are those in the texts of all simple equations that it
needs. -/
theorem Denotes.mem_names (hd : d.WellFormed) {t : Tree} (ht : d.Denotes h t) {name : String} :
    name ∈ t.names ↔ ∃ k e, Relation.ReflTransGen d.Refers h k ∧
      d.table.find? k = some (.simple e) ∧ e.Mentions name := by
  induction ht with
  | @simple h e t he hformula =>
    rw [hd.mem_names_simple he (.simple he hformula)]
    constructor
    · intro hmentions
      exact ⟨h, e, .refl, he, hmentions⟩
    · rintro ⟨k, e', hk, he', hmentions⟩
      rcases hk.cases_head with rfl | ⟨_, ⟨_, hcomposite, _⟩, _⟩
      · cases he.symm.trans he'
        exact hmentions
      · cases he.symm.trans hcomposite
  | @composite h e left right he _ _ ihl ihr =>
    rw [Tree.names, List.mem_append, ihl, ihr]
    constructor
    · rintro (⟨k, e', hk, hfound⟩ | ⟨k, e', hk, hfound⟩)
      · exact ⟨k, e', .head ⟨e, he, .inl rfl⟩ hk, hfound⟩
      · exact ⟨k, e', .head ⟨e, he, .inr rfl⟩ hk, hfound⟩
    · rintro ⟨k, e', hk, he', hmentions⟩
      -- a composite is not simple, so the chain goes on to one of its operands
      rcases hk.cases_head with rfl | ⟨j, ⟨c, hc, hj⟩, hrest⟩
      · cases he.symm.trans he'
      · cases he.symm.trans hc
        rcases hj with rfl | rfl
        · exact .inl ⟨k, e', hrest, he', hmentions⟩
        · exact .inr ⟨k, e', hrest, he', hmentions⟩

/-- What is got under a handle is what is stored there. -/
theorem get_eq_ok_iff {e : Equation} : d.get (some h) = .ok e ↔ d.table.find? h = some e := by
  refine ⟨fun hget => ?_, get_of_find?_eq_some⟩
  rw [get, map_eq_ok_iff] at hget
  obtain ⟨⟨k, e'⟩, hlocate, rfl⟩ := hget
  obtain ⟨hk, he⟩ := locate_eq_ok_iff.mp hlocate
  obtain rfl := Option.some.inj hk
  exact he

/-- An equation with a tree is described with the operands of the tree, and any other one without
names. -/
theorem WellFormed.describe_cases (hd : d.WellFormed) {e : Equation}
    (he : d.table.find? h = some e) :
    (∃ t, d.Denotes h t ∧ d.Intact h ∧
      d.describe (some h) = .ok ⟨e, Text.sortedNames t.names⟩) ∨
    (¬ d.Intact h ∧ d.describe (some h) = .ok ⟨e, []⟩) := by
  by_cases hh : d.Intact h
  · obtain ⟨text, htext⟩ := hd.exists_combined hh
    obtain ⟨t, -, ht⟩ := htext.exists_denotes hd
    exact .inl ⟨t, ht, hh, describe_of_requiredAt_eq_ok he (ht.answersAs hd).required⟩
  · cases hfail : d.requiredAt h with
    | error failure => exact .inr ⟨hh, hd.describe_of_requiredAt_eq_error he hfail⟩
    | ok names =>
      rw [requiredAt_eq_askAt] at hfail
      exact absurd (hd.intact_of_askAt hfail) hh

/-- The operands of the tree of a composite are those in the texts of all simple equations below
it. -/
theorem WellFormed.mem_names_composite (hd : d.WellFormed) {e : Equation.Composite}
    (he : d.table.find? h = some (.composite e)) {t : Tree} (ht : d.Denotes h t) {name : String} :
    name ∈ t.names ↔ ∃ k s, Relation.TransGen d.Refers h k ∧ d.get (some k) = .ok (.simple s) ∧
      s.Mentions name := by
  rw [ht.mem_names hd]
  constructor
  · rintro ⟨k, s, hk, hs, hmentions⟩
    rcases Relation.reflTransGen_iff_eq_or_transGen.mp hk with rfl | hk
    · cases he.symm.trans hs
    · exact ⟨k, s, hk, get_of_find?_eq_some hs, hmentions⟩
  · rintro ⟨k, s, hk, hs, hmentions⟩
    exact ⟨k, s, hk.to_reflTransGen, get_eq_ok_iff.mp hs, hmentions⟩

/-- In a reachable directory every stored equation has a description, and the list of all of them
holds each one once, in ascending order of the handles. While the names for a description are
gathered, nothing can fail but the look-up of an equation that is missing. The names ascend
strictly. Those of a simple equation are the operands in its text, and there is always one. Those of
a composite are the operands in the texts of all simple equations below it, and there are none
exactly if an equation that it needs is missing. -/
theorem descriptions_truthful (hd : d.Reachable) :
    (∀ h e, d.get (some h) = .ok e →
      (∃ names, d.describe (some h) = .ok ⟨e, names⟩ ∧ names.Pairwise (· < ·)) ∧
      ∀ failure, d.requiredAt h = .error failure →
        ∃ k, d.contains (some k) = false ∧ failure = .notFound (some k)) ∧
    ((∃ ds, d.list = .ok ds ∧ ds.map Except.ok = d.handles.map (fun h => d.describe (some h))) ∧
      d.handles.Pairwise (· < ·) ∧ ∀ h, h ∈ d.handles ↔ ∃ e, d.get (some h) = .ok e) ∧
    (∀ h e names, d.describe (some h) = .ok ⟨.simple e, names⟩ →
      names ≠ [] ∧ ∀ name, name ∈ names ↔ e.Mentions name) ∧
    ∀ h e names, d.describe (some h) = .ok ⟨.composite e, names⟩ →
      (names = [] ↔ d.Broken h) ∧
      (¬ d.Broken h → ∀ name, name ∈ names ↔
        ∃ k s, Relation.TransGen d.Refers h k ∧ d.get (some k) = .ok (.simple s) ∧
          s.Mentions name) := by
  have hwf := hd.wellFormed
  refine ⟨fun h e he => ⟨?_, fun failure hfail => ?_⟩,
    ⟨hwf.list_eq (hd.pairwise_handles.imp Int.ne_of_lt), hd.pairwise_handles, fun h => ?_⟩,
    fun h e names hnames => ?_, fun h e names hnames => ?_⟩
  · rcases hwf.describe_cases (get_eq_ok_iff.mp he) with ⟨t, -, -, hdescribe⟩ | ⟨-, hdescribe⟩
    · exact ⟨_, hdescribe, Text.pairwise_sortedNames t.names⟩
    · exact ⟨[], hdescribe, .nil⟩
  · obtain ⟨k, -, hmissing, hnotFound⟩ := hwf.missing_of_requiredAt hfail
    exact ⟨k, by simp [contains, Table.contains, hmissing], hnotFound⟩
  · simp only [mem_handles, get_eq_ok_iff]
  · have he := find?_of_describe hnames
    have hintact : d.Intact h := (Combined.simple he).intact
    rcases hwf.describe_cases he with ⟨t, ht, -, hdescribe⟩ | ⟨hbroken, -⟩
    · cases hnames.symm.trans hdescribe
      refine ⟨Text.sortedNames_ne_nil t.names_ne_nil, fun name => ?_⟩
      rw [Text.mem_sortedNames, hwf.mem_names_simple he ht]
    · exact absurd hintact hbroken
  · have he := find?_of_describe hnames
    have hintact := intact_iff_not_broken (contains_of_find? he)
    rcases hwf.describe_cases he with ⟨t, ht, hh, hdescribe⟩ | ⟨hh, hdescribe⟩
    · cases hnames.symm.trans hdescribe
      refine ⟨iff_of_false (Text.sortedNames_ne_nil t.names_ne_nil) (hintact.mp hh), ?_⟩
      intro _ name
      rw [Text.mem_sortedNames, hwf.mem_names_composite he ht]
    · cases hnames.symm.trans hdescribe
      have hbroken : d.Broken h := not_not.mp (mt hintact.mpr hh)
      exact ⟨iff_of_true rfl hbroken, fun hnot => absurd hbroken hnot⟩

/-- The descriptions of a composite that is intact, with an edited operand, and of one that is
broken. -/
theorem descriptions_truthful_broken :
    let d := empty.after [.create (some "b+a"), .create (some " c "),
      .merge (some 1) (some 2) (some "*"), .merge (some 3) (some 1) (some "-"),
      .create (some "z"), .merge (some 5) (some 3) (some "^"), .edit (some 1) (some "x x 7--"),
      .delete (some 5)]
    d.Reachable ∧ ¬ d.Broken 4 ∧ d.Broken 6 ∧
      d.describe (some 4) = .ok ⟨.composite ⟨4, 3, 1, .minus⟩, ["7", "c", "x"]⟩ ∧
      (∃ s, d.get (some 1) = .ok (.simple s) ∧ s.Mentions "7") ∧
      d.describe (some 6) = .ok ⟨.composite ⟨6, 5, 3, .power⟩, []⟩ ∧
      ∃ ds, d.list = .ok ds ∧
        ds.map Except.ok = [1, 2, 3, 4, 6].map fun h => d.describe (some h) := by
  intro d
  have hd : d.Reachable := Reachable.empty.after _
  obtain ⟨-, ⟨hlist, -⟩, hsimple, hcomposite⟩ := descriptions_truthful hd
  have hone : d.describe (some 1) = .ok ⟨.simple ⟨1, (Tree.node .minus (.leaf "x")
      (.node .minus (.leaf "x") (.leaf "7"))).formula "x x 7--"⟩, ["7", "x"]⟩ := by rfl
  have hfour : d.describe (some 4) = .ok ⟨.composite ⟨4, 3, 1, .minus⟩, ["7", "c", "x"]⟩ := by rfl
  have hsix : d.describe (some 6) = .ok ⟨.composite ⟨6, 5, 3, .power⟩, []⟩ := by rfl
  refine ⟨hd, ?_, (hcomposite 6 _ _ hsix).1.mp rfl, hfour, ?_, hsix, hlist⟩
  · exact fun hbroken => absurd ((hcomposite 4 _ _ hfour).1.mpr hbroken) (by simp)
  · exact ⟨_, by rfl, ((hsimple 1 _ _ hone).2 "7").mp (by simp)⟩

end Directory

end Formulary
