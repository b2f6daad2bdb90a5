import Formulary.Proofs.Directory.Served
import Formulary.Proofs.Expression.Refusal

/-!
# Blanks do not matter

A text is read side by side with the same text without its blanks. Before every character that is
no blank, the same waits on the stack of both readers, so both texts are accepted with the same
tokens, or refused for the same reason. Only the positions that are reported drift apart, by the
number of blanks before them.
-/

namespace Formulary

/-- A text without its blanks. -/
def withoutBlanks (text : String) : String :=
  String.ofList (unblanked text.toList)

@[simp]
theorem toList_withoutBlanks (text : String) :
    (withoutBlanks text).toList = unblanked text.toList :=
  String.toList_ofList

/-- The character `c` at position `i` of a text is the one at position `j` of the text without its
blanks: as many characters that are no blanks come before it. -/
structure SamePlace (cs : List Char) (c : Char) (i j : Nat) : Prop where
  here : cs[i]? = some c
  there : (unblanked cs)[j]? = some c
  counted : (unblanked (cs.take i)).length = j

/-- A complaint about a text and one about the text without its blanks: the same one, and if it is
about a character, about the same character, wherever that stands. -/
inductive SameComplaint (cs : List Char) : ParseError → ParseError → Prop
  | invalidCharacter {c : Char} {i j : Nat} : SamePlace cs c i j →
      SameComplaint cs (.invalidCharacter c i) (.invalidCharacter c j)
  | unmatchedClose {i j : Nat} : SamePlace cs ')' i j →
      SameComplaint cs (.unmatchedClose i) (.unmatchedClose j)
  | placeless {e : ParseError} : e.index? = none → SameComplaint cs e e

/-- What reading a text gives and what reading it without its blanks gives: the same, or the same
complaint. -/
def SameOutcome {α : Type} (cs : List Char) (x y : Except ParseError α) : Prop :=
  (∃ a, x = .ok a ∧ y = .ok a) ∨ ∃ e e', x = .error e ∧ y = .error e' ∧ SameComplaint cs e e'

section Scanning

variable {c : Char} {cs before : List Char} {stack : List Waiting}

/-- Where a character stands that is not blank, with and without the blanks before it. -/
theorem SamePlace.of_append (hc : Text.isBlank c = false) :
    SamePlace (before ++ c :: cs) c before.length (unblanked before).length where
  here := by simp
  there := by simp [unblanked_cons_of_visible hc]
  counted := by simp

/-- What is made of both results is the same again. -/
theorem SameOutcome.map {α β : Type} {x y : Except ParseError α} (h : SameOutcome cs x y)
    (f : α → β) : SameOutcome cs (x.map f) (y.map f) := by
  rcases h with ⟨a, rfl, rfl⟩ | ⟨e, e', rfl, rfl, he⟩
  · exact .inl ⟨f a, rfl, rfl⟩
  · exact .inr ⟨e, e', rfl, rfl, he⟩

/-- The scanner skips a blank and counts it. -/
theorem scan_cons_of_blank (hc : Text.isBlank c = true) (i : Nat) (stack : List Waiting)
    (cs : List Char) : scan i stack (c :: cs) = scan (i + 1) stack cs := by
  rw [scan, Symbol.ofChar_eq_blank_iff.mpr hc]

/-- The scanner treats the rest of a text like that rest without its blanks, if the same waits from
before. -/
theorem scan_unblanked (before cs : List Char) (stack : List Waiting) :
    SameOutcome (before ++ cs) (scan before.length stack cs)
      (scan (unblanked before).length stack (unblanked cs)) := by
  -- reading a character moves it from the rest to the part before
  induction cs generalizing before stack with
  | nil =>
    show SameOutcome _ (scan _ stack []) (scan _ stack [])
    rw [scan, scan]
    cases Waiting.releaseAll? stack with
    | some ops => exact .inl ⟨_, rfl, rfl⟩
    | none => exact .inr ⟨_, _, rfl, rfl, .placeless rfl⟩
  | cons c cs ih =>
    have hmoved : before ++ c :: cs = before ++ [c] ++ cs := by simp
    have hlength : before.length + 1 = (before ++ [c]).length := by simp
    by_cases hblank : Text.isBlank c = true
    · -- the blank is skipped in the one text and missing in the other
      have hcount : (unblanked before).length = (unblanked (before ++ [c])).length := by
        rw [unblanked_append, unblanked_cons_of_blank hblank, unblanked_nil, List.append_nil]
      rw [scan_cons_of_blank hblank, unblanked_cons_of_blank hblank, hmoved, hlength, hcount]
      exact ih (before ++ [c]) stack
    · have hvisible : Text.isBlank c = false := by simpa using hblank
      rw [unblanked_cons_of_visible hvisible]
      by_cases hstep : ∃ out stack', Waiting.Step c stack out stack'
      · obtain ⟨out, stack', hstep⟩ := hstep
        have hcount : (unblanked before).length + 1 = (unblanked (before ++ [c])).length := by
          simp [unblanked_cons_of_visible hvisible]
        rw [hstep.scan_cons, hstep.scan_cons, hmoved, hlength, hcount]
        exact (ih (before ++ [c]) stack').map (out ++ ·)
      · have hplace : SamePlace (before ++ c :: cs) c before.length (unblanked before).length :=
          .of_append hvisible
        rcases Waiting.scan_of_not_exists_step hstep with hstop | ⟨rfl, hstop⟩
        · rw [hstop, hstop]
          exact .inr ⟨_, _, rfl, rfl, .invalidCharacter hplace⟩
        · rw [hstop, hstop]
          exact .inr ⟨_, _, rfl, rfl, .unmatchedClose hplace⟩

end Scanning

section Parsing

/-- The check of the tokens does not mention positions. -/
theorem index?_of_checkFormFrom_eq_error {depth : Nat} {ts : List Token} {e : ParseError}
    (h : checkFormFrom depth ts = .error e) : e.index? = none := by
  induction ts generalizing depth with
  | nil => rcases depth with _ | _ | depth <;> cases h <;> rfl
  | cons token ts ih =>
    cases token with
    | operand name =>
      rw [checkFormFrom] at h
      exact ih h
    | operator o =>
      rcases depth with _ | _ | depth
      · cases h
        rfl
      · cases h
        rfl
      · exact ih h

variable {text other : String}

/-- A text that is refused is refused without its blanks as well, for the same reason. -/
theorem Formula.parse_withoutBlanks_of_error {e : ParseError} (h : parse text = .error e) :
    ∃ e', parse (withoutBlanks text) = .error e' ∧ SameComplaint text.toList e e' := by
  have hsame := scan_unblanked [] text.toList []
  rw [← toList_withoutBlanks] at hsame
  rcases hsame with ⟨ts, hscan, hscan'⟩ | ⟨e₀, e', hscan, hscan', hsame⟩
  · by_cases hvisible : ∃ c ∈ text.toList, Text.isBlank c = false
    · have hvisible' : ∃ c ∈ (withoutBlanks text).toList, Text.isBlank c = false := by
        obtain ⟨c, hc, hc'⟩ := hvisible
        exact ⟨c, toList_withoutBlanks text ▸ mem_unblanked_iff.mpr ⟨hc, hc'⟩, hc'⟩
      cases hform : checkForm ts with
      | ok u =>
        obtain ⟨t, rfl⟩ := checkForm_eq_ok_iff.mp hform
        cases h.symm.trans (parse_eq_ok_iff.mpr ⟨t, hscan, rfl⟩)
      | error e₀ =>
        cases h.symm.trans (parse_of_checkForm_eq_error hvisible hscan hform)
        exact ⟨e, parse_of_checkForm_eq_error hvisible' hscan' hform,
          .placeless (index?_of_checkFormFrom_eq_error hform)⟩
    · have hblank : ∀ c ∈ text.toList, Text.isBlank c = true := by simpa using hvisible
      have hblank' : ∀ c ∈ (withoutBlanks text).toList, Text.isBlank c = true := by
        intro c hc
        rw [toList_withoutBlanks, mem_unblanked_iff] at hc
        exact hblank c hc.1
      cases h.symm.trans (parse_of_allBlank (List.all_eq_true.mpr hblank))
      exact ⟨.blank, parse_of_allBlank (List.all_eq_true.mpr hblank'), .placeless rfl⟩
  · cases h.symm.trans (parse_of_scan_eq_error hscan)
    exact ⟨e', parse_of_scan_eq_error hscan', hsame⟩

/-- Texts that differ only in blanks are accepted together, with the same tree. -/
theorem Formula.exists_tree_of_withoutBlanks_eq {f : Formula}
    (h : withoutBlanks other = withoutBlanks text) (hf : parse text = .ok f) :
    ∃ t : Tree, f = t.formula text ∧ parse other = .ok (t.formula other) := by
  obtain ⟨t, hscan, rfl⟩ := parse_eq_ok_iff.mp hf
  have hunblanked : unblanked other.toList = unblanked text.toList := by
    simpa using congrArg String.toList h
  rw [← scan_unblanked_eq_ok_iff 0, ← hunblanked, scan_unblanked_eq_ok_iff 0] at hscan
  exact ⟨t, rfl, parse_eq_ok_iff.mpr ⟨t, hscan, rfl⟩⟩

/-- Leaving out all blanks, it makes no difference to leave out those in front first. -/
theorem unblanked_dropWhile (cs : List Char) :
    unblanked (cs.dropWhile Text.isBlank) = unblanked cs := by
  induction cs with
  | nil => rfl
  | cons c cs ih =>
    by_cases hc : Text.isBlank c = true
    · rw [List.dropWhile_cons_of_pos hc, ih, unblanked_cons_of_blank hc]
    · rw [List.dropWhile_cons_of_neg hc]

/-- Blanks are left out of a text that is read backwards as well. -/
theorem unblanked_reverse (cs : List Char) : unblanked cs.reverse = (unblanked cs).reverse := by
  simp [unblanked]

/-- The blanks around a text are among its blanks. -/
theorem unblanked_strip (cs : List Char) : unblanked (Text.strip cs) = unblanked cs := by
  rw [Text.strip, Text.stripEnd, unblanked_reverse, unblanked_dropWhile, unblanked_reverse,
    List.reverse_reverse, unblanked_dropWhile]

/-- Blanks are left out once and for all. -/
theorem withoutBlanks_withoutBlanks (text : String) :
    withoutBlanks (withoutBlanks text) = withoutBlanks text := by
  simp [withoutBlanks, unblanked]

/-- A text and the same text without its blanks are both accepted, with the same tokens and the same
names, or both refused with the same complaint, up to the position of the character that it is
about. Equations made of texts that differ only in blanks have the same value for all bindings. -/
theorem Formula.blanks_do_not_matter (text : String) :
    ((∃ f, parse text = .ok f ∧
        parse (withoutBlanks text) = .ok { f with text := withoutBlanks text }) ∨
      ∃ e e', parse text = .error e ∧ parse (withoutBlanks text) = .error e' ∧
        SameComplaint text.toList e e') ∧
    ∀ (other : String) (id id' : Int) (e : Equation.Simple),
      withoutBlanks other = withoutBlanks text →
      Equation.Simple.make (some id) (some text) = .ok e →
      ∃ e', Equation.Simple.make (some id') (some other) = .ok e' ∧
        ∀ b, e'.value b = e.value b := by
  refine ⟨?_, ?_⟩
  · cases hparse : parse text with
    | ok f =>
      obtain ⟨t, rfl, hother⟩ :=
        exists_tree_of_withoutBlanks_eq (withoutBlanks_withoutBlanks text) hparse
      exact .inl ⟨_, rfl, hother⟩
    | error e =>
      obtain ⟨e', he', hsame⟩ := parse_withoutBlanks_of_error hparse
      exact .inr ⟨e, e', rfl, he', hsame⟩
  · intro other id id' e hblanks hmake
    obtain ⟨s, f, hs, hf, rfl⟩ := Equation.Simple.make_eq_ok_iff.mp hmake
    obtain rfl : text = s := Option.some.inj hs
    obtain ⟨t, rfl, hother⟩ := exists_tree_of_withoutBlanks_eq hblanks hf
    refine ⟨_, Equation.Simple.make_eq_ok_iff.mpr ⟨other, _, rfl, hother, rfl⟩, fun b => ?_⟩
    show (t.formula other).value b = (t.formula text).value b
    rw [Tree.formula_value, Tree.formula_value]

/-- A no-break space and an em space change nothing. -/
theorem Formula.blanks_do_not_matter_unicode :
    withoutBlanks "a\u00a0+\u2003b" = withoutBlanks "a+b" ∧
    ∃ e e', Equation.Simple.make (some 1) (some "a+b") = .ok e ∧
      Equation.Simple.make (some 2) (some "a\u00a0+\u2003b") = .ok e' ∧
      ∀ b, e'.value b = e.value b := by
  have hblanks : withoutBlanks "a\u00a0+\u2003b" = withoutBlanks "a+b" := by decide
  obtain ⟨e', he', hvalue⟩ := (blanks_do_not_matter "a+b").2 _ 1 2 _ hblanks rfl
  exact ⟨hblanks, _, e', rfl, he', hvalue⟩

example : Formula.parse " (a)\u2003)" = .error (.unmatchedClose 5) ∧
    Formula.parse "(a))" = .error (.unmatchedClose 3) := ⟨rfl, rfl⟩

end Parsing

end Formulary
