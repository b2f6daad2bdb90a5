import Formulary.Proofs.Expression.Fault

/-!
# Why a text is refused

A text may be wrong in several ways, and one complaint is made. The first character at fault comes
first. A bracket that is left open comes next. Only then are the tokens checked: the first operator
without two values before it is named, and failing that, there are no values at the end or too many.
-/

namespace Formulary

section Tokens

variable {depth : Nat} {ts : List Token} {o : Operator}

/-- How many values tokens leave: every operand is one, and every operator makes one of two. -/
def atHand : List Token → Int
  | [] => 0
  | .operand _ :: ts => atHand ts + 1
  | .operator _ :: ts => atHand ts - 1

/-- The token at position `k` is an operator that finds fewer than two values, where `depth` of them
are at hand from before. -/
def Starved (depth : Nat) (ts : List Token) (k : Nat) (o : Operator) : Prop :=
  ts[k]? = some (.operator o) ∧ depth + atHand (ts.take k) < 2

/-- The first operator that finds fewer than two values before it. -/
def FirstStarved (ts : List Token) (o : Operator) : Prop :=
  ∃ k, Starved 0 ts k o ∧ ∀ j < k, ∀ p, ¬ Starved 0 ts j p

/-- An operand in front of the tokens counts as one more value at hand. -/
theorem Starved.cons_operand {k : Nat} (h : Starved (depth + 1) ts k o) (name : String) :
    Starved depth (.operand name :: ts) (k + 1) o := by
  refine ⟨h.1, ?_⟩
  have hfew := h.2
  rw [List.take_succ_cons, atHand]
  omega

/-- An operator in front of the tokens counts as one value less at hand. -/
theorem Starved.cons_operator {k : Nat} (h : Starved (depth + 1) ts k o) (p : Operator) :
    Starved (depth + 2) (.operator p :: ts) (k + 1) o := by
  refine ⟨h.1, ?_⟩
  have hfew := h.2
  rw [List.take_succ_cons, atHand]
  omega

/-- While every operator finds two values, the check does nothing but count the values at hand. -/
theorem exists_checkFormFrom_append (hfed : ∀ k p, ¬ Starved depth ts k p) :
    ∃ n : Nat, n = depth + atHand ts ∧
      ∀ us, checkFormFrom depth (ts ++ us) = checkFormFrom n us := by
  induction ts generalizing depth with
  | nil => exact ⟨depth, by simp [atHand], fun us => rfl⟩
  | cons token ts ih =>
    cases token with
    | operand name =>
      obtain ⟨n, hn, hcheck⟩ := ih fun k p hk => hfed (k + 1) p (hk.cons_operand name)
      refine ⟨n, by rw [atHand]; omega, fun us => ?_⟩
      rw [← hcheck us]
      cases depth <;> simp [checkFormFrom]
    | operator o =>
      have htwo : ¬ ((depth : Int) + atHand [] < 2) := fun hlt => hfed 0 o ⟨rfl, hlt⟩
      obtain ⟨d, rfl⟩ : ∃ d, depth = d + 2 := ⟨depth - 2, by simp only [atHand] at htwo; omega⟩
      obtain ⟨n, hn, hcheck⟩ := ih fun k p hk => hfed (k + 1) p (hk.cons_operator o)
      exact ⟨n, by rw [atHand]; omega, hcheck⟩

/-- Tokens that leave no value are no tokens at all. -/
theorem checkFormFrom_eq_noOperands_iff :
    checkFormFrom depth ts = .error .noOperands ↔ depth = 0 ∧ ts = [] := by
  induction ts generalizing depth with
  | nil => rcases depth with _ | _ | depth <;> simp [checkFormFrom]
  | cons token ts ih =>
    cases token with
    | operand name => cases depth <;> simp [checkFormFrom, ih]
    | operator o => rcases depth with _ | _ | depth <;> simp [checkFormFrom, ih]

/-- The check stops at the first operator that finds fewer than two values. -/
theorem FirstStarved.checkForm_eq_error (h : FirstStarved ts o) :
    checkForm ts = .error (.missingOperand o) := by
  obtain ⟨k, ⟨hk, htwo⟩, hfirst⟩ := h
  have hfed : ∀ j p, ¬ Starved 0 (ts.take k) j p := by
    rintro j p ⟨hj, hstarved⟩
    rw [List.getElem?_take] at hj
    split at hj
    · next hjk =>
      rw [List.take_take, Nat.min_eq_left (Nat.le_of_lt hjk)] at hstarved
      exact hfirst j hjk p ⟨hj, hstarved⟩
    · cases hj
  obtain ⟨n, hn, hcheck⟩ := exists_checkFormFrom_append hfed
  have hsplit : ts = ts.take k ++ .operator o :: ts.drop (k + 1) := eq_take_append_cons_drop hk
  have hfew : n = 0 ∨ n = 1 := by omega
  rw [checkForm, hsplit, hcheck]
  rcases hfew with rfl | rfl <;> rfl

/-- Tokens without a starved operator pass the check unless they leave more than one value or are
none at all. -/
theorem checkForm_of_not_firstStarved (h : ∀ o, ¬ FirstStarved ts o) :
    checkForm ts = .ok () ∨ ts = [] ∨ checkForm ts = .error .missingOperator := by
  have hfed : ∀ k p, ¬ Starved 0 ts k p := by
    intro k p hk
    obtain ⟨j, q, hfirst⟩ := exists_first ⟨k, p, hk⟩
    exact h q ⟨j, hfirst⟩
  obtain ⟨n, -, hcheck⟩ := exists_checkFormFrom_append hfed
  have hend := hcheck []
  rw [List.append_nil] at hend
  rcases n with _ | _ | n
  · exact .inr (.inl (checkFormFrom_eq_noOperands_iff.mp hend).2)
  · exact .inl hend
  · exact .inr (.inr hend)

end Tokens

/-- The complaint about a text, if there is one. -/
inductive Refusal (cs : List Char) : ParseError → Prop
  | blank : (∀ c ∈ cs, Text.isBlank c = true) → Refusal cs .blank
  /-- The first character at fault comes before everything else. -/
  | fault {i : Nat} {e : ParseError} : FirstFault cs i e → Refusal cs e
  | unmatchedOpen : Faultless cs → cs.count ')' < cs.count '(' → Refusal cs .unmatchedOpen
  /-- Brackets with nothing in them. -/
  | noOperands :
      Balanced cs → (∃ c ∈ cs, Text.isBlank c = false) → (∀ c ∈ cs, Tokenless c) →
      Refusal cs .noOperands
  | missingOperand {ts : List Token} {o : Operator} :
      Balanced cs → scan 0 [] cs = .ok ts → FirstStarved ts o → Refusal cs (.missingOperand o)
  /-- Every operator has its operands, and yet the tokens are not those of one tree. -/
  | missingOperator {ts : List Token} :
      Balanced cs → scan 0 [] cs = .ok ts → (∃ c ∈ cs, ¬ Tokenless c) →
      (∀ o, ¬ FirstStarved ts o) → (¬ ∃ t : Tree, ts = t.tokens) → Refusal cs .missingOperator

section Parsing

variable {text : String} {e : ParseError} {ts : List Token}

/-- A blank text is refused as blank. -/
theorem Formula.parse_of_allBlank (h : Text.allBlank text.toList = true) :
    parse text = .error .blank := by
  unfold parse
  exact if_pos h

/-- What stops the scanner is the complaint about the text. -/
theorem Formula.parse_of_scan_eq_error (h : scan 0 [] text.toList = .error e) :
    parse text = .error e := by
  have hblank : ¬ Text.allBlank text.toList = true := by
    intro hblank
    cases (scan_allBlank hblank).symm.trans h
  unfold parse
  dsimp only
  rw [if_neg hblank, h]
  rfl

/-- What stops the check of the tokens is the complaint about a text that scans. -/
theorem Formula.parse_of_checkForm_eq_error (hvisible : ∃ c ∈ text.toList, Text.isBlank c = false)
    (hscan : scan 0 [] text.toList = .ok ts) (hform : checkForm ts = .error e) :
    parse text = .error e := by
  have hblank : ¬ Text.allBlank text.toList = true := by
    obtain ⟨c, hc, hvisible⟩ := hvisible
    intro hblank
    cases hvisible.symm.trans (List.all_eq_true.mp hblank c hc)
  unfold parse
  dsimp only
  rw [if_neg hblank, hscan, ok_bind, hform]
  rfl

/-- A text with a token in it is not blank. -/
theorem exists_visible {cs : List Char} (h : Faultless cs) (hscan : scan 0 [] cs = .ok ts)
    (hts : ts ≠ []) : ∃ c ∈ cs, Text.isBlank c = false := by
  by_contra hblank
  refine hts ((h.scan_eq_nil_iff hscan).mpr fun c hc => .inl ?_)
  by_contra hvisible
  exact hblank ⟨c, hc, by simpa using hvisible⟩

/-- The complaint is made. -/
theorem Refusal.parse_eq_error (h : Refusal text.toList e) : Formula.parse text = .error e := by
  cases h with
  | blank hblank => exact Formula.parse_of_allBlank (List.all_eq_true.mpr hblank)
  | fault hfirst => exact Formula.parse_of_scan_eq_error hfirst.scan_eq_error
  | unmatchedOpen hfaultless hopen =>
    exact Formula.parse_of_scan_eq_error (hfaultless.scan_eq_unmatchedOpen hopen)
  | noOperands hbalanced hvisible htokenless =>
    obtain ⟨ts, hscan⟩ := hbalanced.exists_scan
    obtain rfl := (hbalanced.1.scan_eq_nil_iff hscan).mpr htokenless
    exact Formula.parse_of_checkForm_eq_error hvisible hscan rfl
  | @missingOperand ts o hbalanced hscan hstarved =>
    have hts : ts ≠ [] := by
      rintro rfl
      obtain ⟨k, ⟨hk, -⟩, -⟩ := hstarved
      cases hk
    exact Formula.parse_of_checkForm_eq_error (exists_visible hbalanced.1 hscan hts) hscan
      hstarved.checkForm_eq_error
  | @missingOperator ts hbalanced hscan htoken hfed htree =>
    have hts : ts ≠ [] := by
      intro hnil
      obtain ⟨c, hc, htoken⟩ := htoken
      exact htoken ((hbalanced.1.scan_eq_nil_iff hscan).mp hnil c hc)
    rcases checkForm_of_not_firstStarved hfed with hok | hnil | hform
    · exact absurd (checkForm_eq_ok_iff.mp hok) htree
    · exact absurd hnil hts
    · exact Formula.parse_of_checkForm_eq_error (exists_visible hbalanced.1 hscan hts) hscan hform

/-- There is a complaint about every text that does not scan to the postorder of a tree. -/
theorem exists_refusal {cs : List Char} (h : ¬ ∃ t : Tree, scan 0 [] cs = .ok t.tokens) :
    ∃ e, Refusal cs e := by
  by_cases hfaultless : Faultless cs
  · by_cases hclosed : cs.count ')' = cs.count '('
    · have hbalanced : Balanced cs := ⟨hfaultless, hclosed⟩
      obtain ⟨ts, hscan⟩ := hbalanced.exists_scan
      have htree : ¬ ∃ t : Tree, ts = t.tokens := by
        rintro ⟨t, rfl⟩
        exact h ⟨t, hscan⟩
      by_cases hblank : ∀ c ∈ cs, Text.isBlank c = true
      · exact ⟨_, .blank hblank⟩
      · by_cases hnone : ∀ c ∈ cs, Tokenless c
        · exact ⟨_, .noOperands hbalanced (by simpa using hblank) hnone⟩
        · by_cases hstarved : ∃ o, FirstStarved ts o
          · obtain ⟨o, ho⟩ := hstarved
            exact ⟨_, .missingOperand hbalanced hscan ho⟩
          · exact ⟨_, .missingOperator hbalanced hscan (by simpa using hnone)
              (not_exists.mp hstarved) htree⟩
    · have hopen : cs.count ')' < cs.count '(' := Nat.lt_of_le_of_ne hfaultless.count_le hclosed
      exact ⟨_, .unmatchedOpen hfaultless hopen⟩
  · obtain ⟨i, e, hfirst⟩ := exists_firstFault hfaultless
    exact ⟨e, .fault hfirst⟩

/-- A complaint that tells a position is about the first character at fault. -/
theorem Refusal.exists_firstFault_of_index? {cs : List Char} {i : Nat} (h : Refusal cs e)
    (hi : e.index? = some i) : FirstFault cs i e := by
  cases h with
  | @fault j e hfirst =>
    have hj : e.index? = some j := by
      cases hfirst.1 <;> rfl
    obtain rfl : j = i := Option.some.inj (hj.symm.trans hi)
    exact hfirst
  | _ => cases hi

/-- A text is refused with the complaint that its characters and its tokens call for, and with no
other. It is accepted exactly if none of its characters is at fault, its brackets are closed, and it
scans to the postorder of a tree. A position is reported exactly if it is that of the first
character at fault. -/
theorem Formula.parse_eq_error_iff_refusal (text : String) :
    (∀ e, parse text = .error e ↔ Refusal text.toList e) ∧
    ((∃ f, parse text = .ok f) ↔
      Balanced text.toList ∧ ∃ t : Tree, scan 0 [] text.toList = .ok t.tokens) ∧
    ∀ i, (∃ e, parse text = .error e ∧ e.index? = some i) ↔ ∃ e, FirstFault text.toList i e := by
  have hrefusal : ∀ e, parse text = .error e ↔ Refusal text.toList e := by
    refine fun e => ⟨fun h => ?_, Refusal.parse_eq_error⟩
    have hnone : ¬ ∃ t : Tree, scan 0 [] text.toList = .ok t.tokens := by
      rintro ⟨t, hscan⟩
      cases h.symm.trans (parse_eq_ok_iff.mpr ⟨t, hscan, rfl⟩)
    obtain ⟨e', he'⟩ := exists_refusal hnone
    obtain rfl : e = e' := Except.error.inj (h.symm.trans he'.parse_eq_error)
    exact he'
  refine ⟨hrefusal, ⟨?_, ?_⟩, fun i => ⟨?_, ?_⟩⟩
  · rintro ⟨f, hf⟩
    obtain ⟨t, hscan, -⟩ := parse_eq_ok_iff.mp hf
    exact ⟨exists_scan_iff_balanced.mp ⟨_, hscan⟩, t, hscan⟩
  · rintro ⟨-, t, hscan⟩
    exact ⟨_, parse_eq_ok_iff.mpr ⟨t, hscan, rfl⟩⟩
  · rintro ⟨e, he, hi⟩
    exact ⟨e, ((hrefusal e).mp he).exists_firstFault_of_index? hi⟩
  · rintro ⟨e, hfirst⟩
    refine ⟨e, (hrefusal e).mpr (.fault hfirst), ?_⟩
    cases hfirst.1 <;> rfl

example : Formula.parse "(a+é)b)(" = .error (.invalidCharacter 'é' 3) := by rfl

end Parsing

end Formulary
