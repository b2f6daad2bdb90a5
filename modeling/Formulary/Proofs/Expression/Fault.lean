import Mathlib.Data.List.Induction
import Mathlib.Data.Nat.Find
import Formulary.Proofs.Expression.Accepted

/-!
# Characters at fault

A text scans exactly if none of its characters is at fault and all its brackets are closed. A
character is at fault if it means nothing, or if it closes a bracket where none is open; whether one
is open shows in the counts of brackets before it. The first character at fault stops the scanner.
-/

namespace Formulary

/-- Where something holds of some number, there is a first number that it holds of. -/
theorem exists_first {α : Type} {P : Nat → α → Prop} (h : ∃ i a, P i a) :
    ∃ i a, P i a ∧ ∀ j < i, ∀ b, ¬ P j b := by
  classical
  obtain ⟨a, ha⟩ := Nat.find_spec h
  exact ⟨Nat.find h, a, ha, fun j hj b hb => Nat.find_min h hj ⟨b, hb⟩⟩

/-- What may stand in the text of an expression. -/
def Legal (c : Char) : Prop :=
  Text.isBlank c = true ∨ isOperandChar c = true ∨ c ∈ ['(', ')', '^', '*', '/', '+', '-']

/-- What the scanner takes for nothing is what may not stand in an expression. -/
theorem Symbol.ofChar_eq_invalid_iff {c : Char} : ofChar c = .invalid ↔ ¬ Legal c := by
  constructor
  · rintro hc (hblank | hoperand | hsymbol)
    · cases hc.symm.trans (ofChar_eq_blank_iff.mpr hblank)
    · cases hc.symm.trans (ofChar_eq_operand_iff.mpr hoperand)
    · simp only [List.mem_cons, List.not_mem_nil, or_false] at hsymbol
      rcases hsymbol with rfl | rfl | rfl | rfl | rfl | rfl | rfl <;> exact absurd hc (by decide)
  · intro hc
    cases hsymbol : ofChar c with
    | blank => exact absurd (.inl (ofChar_eq_blank_iff.mp hsymbol)) hc
    | operand => exact absurd (.inr (.inl (ofChar_eq_operand_iff.mp hsymbol))) hc
    | openBracket =>
      rw [ofChar_eq_openBracket_iff.mp hsymbol] at hc
      exact absurd (.inr (.inr (by simp))) hc
    | closeBracket =>
      rw [ofChar_eq_closeBracket_iff.mp hsymbol] at hc
      exact absurd (.inr (.inr (by simp))) hc
    | operator o =>
      rw [ofChar_eq_operator_iff.mp hsymbol] at hc
      exact absurd (.inr (.inr (by cases o <;> simp [Operator.symbol]))) hc
    | invalid => rfl

section Faults

variable {cs ds : List Char} {i : Nat} {e : ParseError}

/-- The character at position `i` is at fault, and this is the complaint about it: it means nothing,
or it closes a bracket while the text before it has closed all that it opened. -/
inductive Fault (cs : List Char) (i : Nat) : ParseError → Prop
  | invalidCharacter {c : Char} :
      cs[i]? = some c → ¬ Legal c → Fault cs i (.invalidCharacter c i)
  | unmatchedClose :
      cs[i]? = some ')' → (cs.take i).count ')' = (cs.take i).count '(' →
      Fault cs i (.unmatchedClose i)

/-- The character at position `i` is at fault, and no earlier one is. -/
def FirstFault (cs : List Char) (i : Nat) (e : ParseError) : Prop :=
  Fault cs i e ∧ ∀ j < i, ∀ e', ¬ Fault cs j e'

/-- No character of a text is at fault. -/
def Faultless (cs : List Char) : Prop :=
  ∀ i e, ¬ Fault cs i e

/-- No character is at fault, and all brackets are closed. -/
def Balanced (cs : List Char) : Prop :=
  Faultless cs ∧ cs.count ')' = cs.count '('

/-- A fault is at a position of the text. -/
theorem Fault.lt_length (h : Fault cs i e) : i < cs.length := by
  cases h with
  | invalidCharacter hi => exact (List.getElem?_eq_some_iff.mp hi).1
  | unmatchedClose hi => exact (List.getElem?_eq_some_iff.mp hi).1

/-- Whether a character is at fault does not depend on what follows. -/
theorem Fault.append (h : Fault cs i e) (ds : List Char) : Fault (cs ++ ds) i e := by
  have hi := h.lt_length
  have hsame : (cs ++ ds)[i]? = cs[i]? := List.getElem?_append_left hi
  have htake : (cs ++ ds).take i = cs.take i := List.take_append_of_le_length (Nat.le_of_lt hi)
  cases h with
  | invalidCharacter hc hlegal => exact .invalidCharacter (hsame.trans hc) hlegal
  | unmatchedClose hc hcount => exact .unmatchedClose (hsame.trans hc) (by rw [htake, hcount])

/-- The front of a text without faults has none. -/
theorem Faultless.of_append (h : Faultless (cs ++ ds)) : Faultless cs :=
  fun i e hfault => h i e (hfault.append ds)

/-- If any character is at fault, one of them is the first. -/
theorem exists_firstFault (h : ¬ Faultless cs) : ∃ i e, FirstFault cs i e :=
  exists_first (by simpa [Faultless] using h)

end Faults

section Reading

variable {stack stack' : List Waiting} {cs : List Char} {out : List Token}

/-- A bracket that is opened waits, and one that is closed waits no longer. -/
theorem Waiting.Step.count_bracket {c : Char} (h : Step c stack out stack') :
    stack'.count .bracket + [c].count ')' = stack.count .bracket + [c].count '(' := by
  -- only brackets are counted
  have hplain : c ≠ '(' → c ≠ ')' → [c].count '(' = 0 ∧ [c].count ')' = 0 := by
    intro hopen hclose
    simp [hopen, hclose]
  cases h with
  | blank _ hc =>
    have := hplain (by rintro rfl; exact absurd hc (by decide))
      (by rintro rfl; exact absurd hc (by decide))
    omega
  | operand _ hc =>
    have := hplain (by rintro rfl; exact absurd hc (by decide))
      (by rintro rfl; exact absurd hc (by decide))
    omega
  | openBracket => simp
  | closeBracket ops => simp [List.count_append, count_bracket_map]
  | @operator o ops rest =>
    have := hplain (by cases o <;> decide) (by cases o <;> decide)
    rw [List.count_append, count_bracket_map, List.count_cons_of_ne (by simp)]
    omega

/-- As many brackets wait as were open before and in the text read. -/
theorem Reads.count_bracket (h : Reads stack cs out stack') :
    stack'.count .bracket + cs.count ')' = stack.count .bracket + cs.count '(' := by
  induction h with
  | nil => simp
  | @cons c cs _ _ _ _ _ hstep _ ih =>
    have hc := hstep.count_bracket
    rw [← List.singleton_append, List.count_append, List.count_append]
    omega

end Reading

section Scanning

variable {cs : List Char} {i : Nat} {e : ParseError}

/-- A text without a fault can be read to its end. -/
theorem Faultless.exists_reads (h : Faultless cs) : ∃ out stack, Reads [] cs out stack := by
  induction cs using List.reverseRecOn with
  | nil => exact ⟨[], [], .nil []⟩
  | append_singleton cs c ih =>
    obtain ⟨out, stack, hreads⟩ := ih h.of_append
    have hc : (cs ++ [c])[cs.length]? = some c := by simp
    have hstep : ∃ out' stack', Waiting.Step c stack out' stack' := by
      apply Waiting.exists_step
      · intro hinvalid
        exact h cs.length _ (.invalidCharacter hc (Symbol.ofChar_eq_invalid_iff.mp hinvalid))
      · rintro rfl
        rw [Waiting.isSome_closeGroup?_iff]
        by_contra hnone
        -- no bracket waits, so all that the text before has opened are closed
        have hcount := hreads.count_bracket
        rw [List.count_eq_zero.mpr hnone] at hcount
        exact h cs.length _ (.unmatchedClose hc (by simpa using hcount))
    obtain ⟨out', stack', hstep⟩ := hstep
    exact ⟨_, _, hreads.append (.single hstep)⟩

/-- The first character at fault stops the scanner. -/
theorem FirstFault.scan_eq_error (h : FirstFault cs i e) : scan 0 [] cs = .error e := by
  obtain ⟨hfault, hfirst⟩ := h
  have hle : i ≤ cs.length := Nat.le_of_lt hfault.lt_length
  have hbefore : Faultless (cs.take i) := by
    intro j e' hearlier
    have hj : j < i := Nat.lt_of_lt_of_le hearlier.lt_length (List.length_take_le i cs)
    have hsame := hearlier.append (cs.drop i)
    rw [List.take_append_drop] at hsame
    exact hfirst j hj e' hsame
  obtain ⟨out, stack, hreads⟩ := hbefore.exists_reads
  have hscan := hreads.scan_append 0 (cs.drop i)
  rw [List.take_append_drop, Nat.zero_add, List.length_take_of_le hle] at hscan
  rw [hscan]
  cases hfault with
  | invalidCharacter hc hlegal =>
    obtain ⟨hlt, rfl⟩ := List.getElem?_eq_some_iff.mp hc
    rw [List.drop_eq_getElem_cons hlt, scan, Symbol.ofChar_eq_invalid_iff.mpr hlegal]
    rfl
  | unmatchedClose hc hcount =>
    obtain ⟨hlt, hclose⟩ := List.getElem?_eq_some_iff.mp hc
    have hnone : Waiting.closeGroup? stack = none := by
      rw [← Option.not_isSome_iff_eq_none, Waiting.isSome_closeGroup?_iff, ← List.count_eq_zero]
      have hopen := hreads.count_bracket
      rw [List.count_nil] at hopen
      omega
    rw [List.drop_eq_getElem_cons hlt, hclose, scan, Symbol.ofChar_eq_closeBracket_iff.mpr rfl]
    simp only [hnone, error_map]

/-- At the end of a text without a fault, as many brackets wait as are left open. -/
theorem Faultless.exists_scan_eq (h : Faultless cs) :
    ∃ out stack, scan 0 [] cs = (scan cs.length stack []).map (out ++ ·) ∧
      stack.count .bracket + cs.count ')' = cs.count '(' := by
  obtain ⟨out, stack, hreads⟩ := h.exists_reads
  have hscan := hreads.scan_append 0 []
  have hcount := hreads.count_bracket
  rw [List.append_nil, Nat.zero_add] at hscan
  rw [List.count_nil, Nat.zero_add] at hcount
  exact ⟨out, stack, hscan, hcount⟩

/-- A text without faults closes no more brackets than it opens. -/
theorem Faultless.count_le (h : Faultless cs) : cs.count ')' ≤ cs.count '(' := by
  obtain ⟨out, stack, -, hcount⟩ := h.exists_scan_eq
  omega

/-- Without a fault, a bracket that is left open stops the scanner at the end. -/
theorem Faultless.scan_eq_unmatchedOpen (h : Faultless cs) (hopen : cs.count ')' < cs.count '(') :
    scan 0 [] cs = .error .unmatchedOpen := by
  obtain ⟨out, stack, hscan, hcount⟩ := h.exists_scan_eq
  have hwaits : .bracket ∈ stack := List.count_pos_iff.mp (by omega)
  rw [hscan, scan, Waiting.releaseAll?_eq_none_iff.mpr hwaits]
  rfl

/-- A text without faults whose brackets are all closed scans. -/
theorem Balanced.exists_scan (h : Balanced cs) : ∃ ts, scan 0 [] cs = .ok ts := by
  obtain ⟨hfaultless, hclosed⟩ := h
  obtain ⟨out, stack, hscan, hcount⟩ := hfaultless.exists_scan_eq
  have hnone : .bracket ∉ stack := List.count_eq_zero.mp (by omega)
  cases hrelease : Waiting.releaseAll? stack with
  | none => exact absurd (Waiting.releaseAll?_eq_none_iff.mp hrelease) hnone
  | some ops => exact ⟨out ++ operatorTokens ops, by rw [hscan, scan, hrelease]; rfl⟩

/-- A text scans exactly if no character is at fault and all brackets are closed. -/
theorem exists_scan_iff_balanced : (∃ ts, scan 0 [] cs = .ok ts) ↔ Balanced cs := by
  refine ⟨fun ⟨ts, h⟩ => ?_, Balanced.exists_scan⟩
  have hfaultless : Faultless cs := by
    by_contra hfault
    obtain ⟨i, e, hfirst⟩ := exists_firstFault hfault
    cases h.symm.trans hfirst.scan_eq_error
  refine ⟨hfaultless, ?_⟩
  by_contra hcount
  have hopen : cs.count ')' < cs.count '(' := Nat.lt_of_le_of_ne hfaultless.count_le hcount
  cases h.symm.trans (hfaultless.scan_eq_unmatchedOpen hopen)

end Scanning

section Emptiness

variable {cs : List Char}

/-- All characters of a text without faults may stand in an expression. -/
theorem Faultless.legal (h : Faultless cs) {c : Char} (hc : c ∈ cs) : Legal c := by
  by_contra hlegal
  obtain ⟨i, hi⟩ := List.mem_iff_getElem?.mp hc
  exact h i _ (.invalidCharacter hi hlegal)

/-- A blank or a bracket, which gives no token. -/
def Tokenless (c : Char) : Prop :=
  Text.isBlank c = true ∨ c = '(' ∨ c = ')'

/-- Of the characters that may stand in an expression, blanks and brackets have no token. -/
theorem tokenOf?_eq_none_iff {c : Char} (hc : Legal c) : tokenOf? c = none ↔ Tokenless c := by
  have hvalid : Symbol.ofChar c ≠ .invalid := fun h => Symbol.ofChar_eq_invalid_iff.mp h hc
  rw [Tokenless, ← Symbol.ofChar_eq_blank_iff, ← Symbol.ofChar_eq_openBracket_iff,
    ← Symbol.ofChar_eq_closeBracket_iff, tokenOf?]
  cases h : Symbol.ofChar c <;> simp_all

/-- A text that scans to no tokens holds nothing but blanks and brackets. -/
theorem Faultless.scan_eq_nil_iff (h : Faultless cs) {ts : List Token}
    (hscan : scan 0 [] cs = .ok ts) : ts = [] ↔ ∀ c ∈ cs, Tokenless c := by
  have hperm := scan_perm hscan
  have htokens : ts = [] ↔ textTokens cs = [] :=
    ⟨fun hts => (hts ▸ hperm).nil_eq.symm, fun htext => (htext ▸ hperm).eq_nil⟩
  rw [htokens, textTokens, List.filterMap_eq_nil_iff]
  exact forall₂_congr fun c hc => tokenOf?_eq_none_iff (h.legal hc)

end Emptiness

end Formulary
