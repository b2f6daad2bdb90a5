import Formulary.Expression.Infix
import Formulary.Proofs.Result

/-!
# Reading a text character by character

What the scanner does with one character, and with a stretch of text: which tokens it puts out and
what waits afterwards. A text is scanned by reading it from an empty stack and then releasing the
operators that still wait.

## Design notes

The relations leave positions out, since only failures mention them.
-/

namespace Formulary

/-- A list is what comes before one of its entries, the entry, and what comes after it. -/
theorem eq_take_append_cons_drop {α : Type} {xs : List α} {i : Nat} {x : α}
    (h : xs[i]? = some x) : xs = xs.take i ++ x :: xs.drop (i + 1) := by
  obtain ⟨hi, rfl⟩ := List.getElem?_eq_some_iff.mp h
  rw [← List.drop_eq_getElem_cons hi, List.take_append_drop]

section Characters

/-- No visible character of ASCII is blank. -/
theorem isBlank_eq_false_of_visible {c : Char} (hlow : 33 ≤ c.toNat) (hhigh : c.toNat ≤ 126) :
    Text.isBlank c = false := by
  simp [Text.isBlank, Text.blankRanges]
  omega

/-- No operand is blank. -/
theorem isBlank_eq_false_of_isOperandChar {c : Char} (h : isOperandChar c = true) :
    Text.isBlank c = false := by
  simp only [isOperandChar, Bool.or_eq_true, Bool.and_eq_true, decide_eq_true_eq, Char.le_def,
    UInt32.le_iff_toNat_le] at h
  have hlow : 48 ≤ c.toNat := by
    rcases h with (⟨h, _⟩ | ⟨h, _⟩) | ⟨h, _⟩ <;> exact Nat.le_trans (by decide) h
  have hhigh : c.toNat ≤ 122 := by
    rcases h with (⟨_, h⟩ | ⟨_, h⟩) | ⟨_, h⟩ <;> exact Nat.le_trans h (by decide)
  exact isBlank_eq_false_of_visible (by omega) (by omega)

theorem isBlank_symbol (o : Operator) : Text.isBlank o.symbol = false := by
  cases o <;> decide

theorem isOperandChar_symbol (o : Operator) : isOperandChar o.symbol = false := by
  cases o <;> decide

/-- The characters that the scanner skips are the blanks. -/
theorem Symbol.ofChar_eq_blank_iff {c : Char} : ofChar c = .blank ↔ Text.isBlank c = true := by
  unfold ofChar
  grind

/-- The characters that the scanner takes for operands are the operands. -/
theorem Symbol.ofChar_eq_operand_iff {c : Char} :
    ofChar c = .operand ↔ isOperandChar c = true := by
  have := @isBlank_eq_false_of_isOperandChar c
  unfold ofChar
  grind

/-- One character opens a bracket. -/
theorem Symbol.ofChar_eq_openBracket_iff {c : Char} : ofChar c = .openBracket ↔ c = '(' := by
  have h : ofChar '(' = .openBracket := by decide
  refine ⟨fun hc => ?_, fun hc => hc ▸ h⟩
  unfold ofChar at hc
  grind

/-- One character closes a bracket. -/
theorem Symbol.ofChar_eq_closeBracket_iff {c : Char} : ofChar c = .closeBracket ↔ c = ')' := by
  have h : ofChar ')' = .closeBracket := by decide
  refine ⟨fun hc => ?_, fun hc => hc ▸ h⟩
  unfold ofChar at hc
  grind

/-- The scanner takes the symbol of an operator, and nothing else, for this operator. -/
theorem Symbol.ofChar_eq_operator_iff {c : Char} {o : Operator} :
    ofChar c = .operator o ↔ c = o.symbol := by
  constructor
  · intro h
    unfold ofChar at h
    grind [Operator.ofSymbol?_eq_some_iff]
  · rintro rfl
    cases o <;> decide

end Characters

theorem count_bracket_map (ops : List Operator) :
    (ops.map Waiting.operator).count .bracket = 0 := by
  simp [List.count_eq_zero]

namespace Waiting

/-- The top of the stack is no operator that something of looseness `n` would release. -/
def Holds (n : Nat) : List Waiting → Prop
  | .operator t :: _ => n ≤ t.looseness
  | _ => True

/-- `Step c stack out stack'`: reading `c` while `stack` waits puts out `out`, and `stack'` waits
afterwards. -/
inductive Step : Char → List Waiting → List Token → List Waiting → Prop
  | blank {c : Char} (stack : List Waiting) : Text.isBlank c = true → Step c stack [] stack
  | operand {c : Char} (stack : List Waiting) :
      isOperandChar c = true → Step c stack [operandToken c] stack
  | openBracket (stack : List Waiting) : Step '(' stack [] (.bracket :: stack)
  /-- A closing bracket releases the operators of its group. -/
  | closeBracket (ops : List Operator) (rest : List Waiting) :
      Step ')' (ops.map .operator ++ .bracket :: rest) (operatorTokens ops) rest
  /-- An operator releases the tighter ones on top of the stack. -/
  | operator {o : Operator} {ops : List Operator} {rest : List Waiting} :
      (∀ t ∈ ops, t.looseness < o.looseness) → Holds o.looseness rest →
      Step o.symbol (ops.map .operator ++ rest) (operatorTokens ops) (.operator o :: rest)

/-- Closing a bracket puts out the operators above it and removes it. -/
theorem closeGroup?_eq_some_iff {stack rest : List Waiting} {ops : List Operator} :
    closeGroup? stack = some (ops, rest) ↔ stack = ops.map .operator ++ .bracket :: rest := by
  induction stack generalizing ops with
  | nil => cases ops <;> simp [closeGroup?]
  | cons w stack ih =>
    cases w with
    | bracket => cases ops <;> simp [closeGroup?, eq_comm]
    | operator o =>
      cases ops with
      | nil => simp [closeGroup?]
      | cons p ops => simp [closeGroup?, ← ih]; grind

/-- At the end of a text, all that waits is put out, if these are operators. -/
theorem releaseAll?_eq_some_iff {stack : List Waiting} {ops : List Operator} :
    releaseAll? stack = some ops ↔ stack = ops.map .operator := by
  induction stack generalizing ops with
  | nil => cases ops <;> simp [releaseAll?]
  | cons w stack ih =>
    cases w with
    | bracket => cases ops <;> simp [releaseAll?]
    | operator o =>
      cases ops with
      | nil => simp [releaseAll?]
      | cons p ops => simp [releaseAll?, ← ih]; grind

/-- A bracket can be closed exactly if one is open. -/
theorem isSome_closeGroup?_iff {stack : List Waiting} :
    (closeGroup? stack).isSome ↔ .bracket ∈ stack := by
  induction stack with
  | nil => simp [closeGroup?]
  | cons w stack ih => cases w <;> simp [closeGroup?, ih]

/-- A text cannot end exactly while a bracket is open. -/
theorem releaseAll?_eq_none_iff {stack : List Waiting} :
    releaseAll? stack = none ↔ .bracket ∈ stack := by
  induction stack with
  | nil => simp [releaseAll?]
  | cons w stack ih => cases w <;> simp [releaseAll?, ih]

/-- An operator puts out those that bind tighter, down to the first that does not. -/
theorem releaseTighter_append {o : Operator} {ops : List Operator} {rest : List Waiting}
    (hops : ∀ t ∈ ops, t.looseness < o.looseness) (hrest : Holds o.looseness rest) :
    releaseTighter o (ops.map .operator ++ rest) = (ops, rest) := by
  induction ops with
  | nil =>
    match rest, hrest with
    | [], _ => rfl
    | .bracket :: _, _ => rfl
    | .operator t :: _, h => simp [releaseTighter, Nat.not_lt.mpr h]
  | cons t ops ih =>
    obtain ⟨ht, hops⟩ := List.forall_mem_cons.mp hops
    simp [releaseTighter, ht, ih hops]

/-- Every stack falls into the operators that `o` releases and what holds against it. -/
theorem exists_released (o : Operator) (stack : List Waiting) :
    ∃ (ops : List Operator) (rest : List Waiting), stack = ops.map .operator ++ rest ∧
      (∀ t ∈ ops, t.looseness < o.looseness) ∧ Holds o.looseness rest := by
  induction stack with
  | nil => exact ⟨[], [], rfl, by simp, trivial⟩
  | cons w stack ih =>
    cases w with
    | bracket => exact ⟨[], .bracket :: stack, rfl, by simp, trivial⟩
    | operator t =>
      by_cases ht : t.looseness < o.looseness
      · obtain ⟨ops, rest, rfl, hops, hrest⟩ := ih
        exact ⟨t :: ops, rest, rfl, List.forall_mem_cons.mpr ⟨ht, hops⟩, hrest⟩
      · exact ⟨[], .operator t :: stack, rfl, by simp, Nat.le_of_not_lt ht⟩

/-- The scanner takes the step of a character and goes on with the rest. -/
theorem Step.scan_cons {c : Char} {stack stack' : List Waiting} {out : List Token}
    (h : Step c stack out stack') (i : Nat) (cs : List Char) :
    scan i stack (c :: cs) = (scan (i + 1) stack' cs).map (out ++ ·) := by
  rw [scan]
  cases h with
  | blank _ hc =>
    rw [Symbol.ofChar_eq_blank_iff.mpr hc]
    cases scan (i + 1) stack cs <;> rfl
  | operand _ hc =>
    rw [Symbol.ofChar_eq_operand_iff.mpr hc]
    rfl
  | openBracket =>
    rw [Symbol.ofChar_eq_openBracket_iff.mpr rfl]
    cases scan (i + 1) (.bracket :: stack) cs <;> rfl
  | closeBracket ops =>
    rw [Symbol.ofChar_eq_closeBracket_iff.mpr rfl]
    simp only [closeGroup?_eq_some_iff.mpr rfl]
  | operator hops hrest =>
    rw [Symbol.ofChar_eq_operator_iff.mpr rfl]
    simp only [releaseTighter_append hops hrest]

/-- Every character that means something can be read, a closing bracket where one is open. -/
theorem exists_step {c : Char} {stack : List Waiting} (hc : Symbol.ofChar c ≠ .invalid)
    (hclose : c = ')' → (closeGroup? stack).isSome) : ∃ out stack', Step c stack out stack' := by
  cases hsymbol : Symbol.ofChar c with
  | blank => exact ⟨_, _, .blank stack (Symbol.ofChar_eq_blank_iff.mp hsymbol)⟩
  | operand => exact ⟨_, _, .operand stack (Symbol.ofChar_eq_operand_iff.mp hsymbol)⟩
  | openBracket =>
    obtain rfl := Symbol.ofChar_eq_openBracket_iff.mp hsymbol
    exact ⟨_, _, .openBracket stack⟩
  | closeBracket =>
    obtain rfl := Symbol.ofChar_eq_closeBracket_iff.mp hsymbol
    obtain ⟨⟨ops, rest⟩, hgroup⟩ := Option.isSome_iff_exists.mp (hclose rfl)
    obtain rfl := closeGroup?_eq_some_iff.mp hgroup
    exact ⟨_, _, .closeBracket ops rest⟩
  | operator o =>
    obtain rfl := Symbol.ofChar_eq_operator_iff.mp hsymbol
    obtain ⟨ops, rest, rfl, hops, hrest⟩ := exists_released o stack
    exact ⟨_, _, .operator hops hrest⟩
  | invalid => exact absurd hsymbol hc

/-- A character that cannot be read stops the scanner, whatever follows: it means nothing, or it
closes a bracket where none is open. -/
theorem scan_of_not_exists_step {c : Char} {stack : List Waiting}
    (h : ¬ ∃ out stack', Step c stack out stack') :
    (∀ i cs, scan i stack (c :: cs) = .error (.invalidCharacter c i)) ∨
      c = ')' ∧ ∀ i cs, scan i stack (c :: cs) = .error (.unmatchedClose i) := by
  by_cases hc : Symbol.ofChar c = .invalid
  · left
    intro i cs
    rw [scan, hc]
  · right
    have hclose : ¬ (c = ')' → (closeGroup? stack).isSome) := fun hclose =>
      h (exists_step hc hclose)
    obtain ⟨rfl, hnone⟩ := Classical.not_imp.mp hclose
    refine ⟨rfl, fun i cs => ?_⟩
    rw [scan, Symbol.ofChar_eq_closeBracket_iff.mpr rfl]
    simp only [Option.not_isSome_iff_eq_none.mp hnone]

/-- If a text scans, the scanner has taken a step for its first character. -/
theorem exists_step_of_scan {c : Char} {i : Nat} {stack : List Waiting} {cs : List Char}
    {ts : List Token} (h : scan i stack (c :: cs) = .ok ts) :
    ∃ out stack' rest, Step c stack out stack' ∧ scan (i + 1) stack' cs = .ok rest ∧
      ts = out ++ rest := by
  have hstep : ∃ out stack', Step c stack out stack' := by
    apply Classical.byContradiction
    intro hnone
    rcases scan_of_not_exists_step hnone with hstop | ⟨-, hstop⟩
    · cases (hstop i cs).symm.trans h
    · cases (hstop i cs).symm.trans h
  obtain ⟨out, stack', hstep⟩ := hstep
  rw [hstep.scan_cons, map_eq_ok_iff] at h
  obtain ⟨rest, hscan, hts⟩ := h
  exact ⟨out, stack', rest, hstep, hscan, hts.symm⟩

/-- An operand is put out at once and leaves the stack as it is. -/
theorem Step.of_isOperandChar {c : Char} {stack stack' : List Waiting} {out : List Token}
    (h : Step c stack out stack') (hc : isOperandChar c = true) :
    out = [operandToken c] ∧ stack' = stack := by
  cases h with
  | blank _ hblank => simp [isBlank_eq_false_of_isOperandChar hc] at hblank
  | operand => exact ⟨rfl, rfl⟩
  | openBracket => exact absurd hc (by decide)
  | closeBracket => exact absurd hc (by decide)
  | operator => simp [isOperandChar_symbol] at hc

/-- What waits below an open bracket does not matter to a step, and does not change. -/
theorem Step.below_bracket {c : Char} {stack stack' : List Waiting} {out : List Token}
    (h : Step c stack out stack') (below : List Waiting) :
    Step c (stack ++ .bracket :: below) out (stack' ++ .bracket :: below) := by
  cases h with
  | blank _ hc => exact .blank _ hc
  | operand _ hc => exact .operand _ hc
  | openBracket => exact .openBracket _
  | closeBracket ops rest =>
    rw [List.append_assoc]
    exact .closeBracket ops _
  | @operator o ops rest hops hrest =>
    rw [List.append_assoc]
    refine .operator hops ?_
    match rest, hrest with
    | [], _ => trivial
    | .bracket :: _, _ => trivial
    | .operator _ :: _, h => exact h

end Waiting

/-- `Reads stack cs out stack'`: reading `cs` while `stack` waits puts out `out`, and `stack'`
waits afterwards. -/
inductive Reads : List Waiting → List Char → List Token → List Waiting → Prop
  | nil (stack : List Waiting) : Reads stack [] [] stack
  | cons {c : Char} {cs : List Char} {out rest : List Token} {stack mid stack' : List Waiting} :
      Waiting.Step c stack out mid → Reads mid cs rest stack' →
      Reads stack (c :: cs) (out ++ rest) stack'

/-- A text without its blanks. -/
def unblanked (cs : List Char) : List Char :=
  cs.filter fun c => !Text.isBlank c

section Unblanked

variable {c : Char}

@[simp]
theorem unblanked_nil : unblanked [] = [] := rfl

@[simp]
theorem unblanked_append (cs ds : List Char) :
    unblanked (cs ++ ds) = unblanked cs ++ unblanked ds :=
  List.filter_append ..

theorem unblanked_cons_of_blank (hc : Text.isBlank c = true) (cs : List Char) :
    unblanked (c :: cs) = unblanked cs := by
  simp [unblanked, hc]

theorem unblanked_cons_of_visible (hc : Text.isBlank c = false) (cs : List Char) :
    unblanked (c :: cs) = c :: unblanked cs := by
  simp [unblanked, hc]

/-- What is kept are the characters that are not blank. -/
theorem mem_unblanked_iff {cs : List Char} :
    c ∈ unblanked cs ↔ c ∈ cs ∧ Text.isBlank c = false := by
  simp [unblanked, List.mem_filter]

end Unblanked

namespace Reads

variable {stack mid stack' : List Waiting} {cs ds : List Char} {out rest : List Token}

/-- A text of one character is read in one step. -/
theorem single {c : Char} (h : Waiting.Step c stack out stack') : Reads stack [c] out stack' := by
  simpa using cons h (nil stack')

/-- Two texts are read one after the other. -/
theorem append (hcs : Reads stack cs out mid) (hds : Reads mid ds rest stack') :
    Reads stack (cs ++ ds) (out ++ rest) stack' := by
  induction hcs with
  | nil => exact hds
  | cons hc _ ih =>
    rw [List.append_assoc]
    exact cons hc (ih hds)

/-- A text is read by reading its front and then the rest. -/
theorem exists_of_append (h : Reads stack (cs ++ ds) out stack') :
    ∃ first mid second, Reads stack cs first mid ∧ Reads mid ds second stack' ∧
      out = first ++ second := by
  induction cs generalizing stack out with
  | nil => exact ⟨[], stack, out, .nil stack, h, rfl⟩
  | cons c cs ih =>
    cases h with
    | cons hc htail =>
      obtain ⟨first, mid, second, hcs, hds, rfl⟩ := ih htail
      exact ⟨_, mid, second, cons hc hcs, hds, (List.append_assoc ..).symm⟩

/-- What waits below an open bracket does not matter to what is read, and does not change. -/
theorem below_bracket (h : Reads stack cs out stack') (below : List Waiting) :
    Reads (stack ++ .bracket :: below) cs out (stack' ++ .bracket :: below) := by
  induction h with
  | nil => exact nil _
  | cons hc _ ih => exact cons (hc.below_bracket below) ih

/-- A text that scans by itself puts out the same tokens inside brackets, whatever waits there. -/
theorem bracketed {ops : List Operator} (h : Reads [] cs out (ops.map .operator))
    (stack : List Waiting) :
    Reads stack ('(' :: cs ++ [')']) (out ++ operatorTokens ops) stack := by
  have hopen : Reads stack ['('] [] (.bracket :: stack) := .single (.openBracket stack)
  have hinner : Reads (.bracket :: stack) cs out (ops.map .operator ++ .bracket :: stack) :=
    h.below_bracket stack
  have hclose := Reads.single (Waiting.Step.closeBracket ops stack)
  exact (hopen.append hinner).append hclose

/-- Blanks can be put into a text that is read. -/
theorem of_unblanked (h : Reads stack (unblanked cs) out stack') : Reads stack cs out stack' := by
  induction cs generalizing stack out with
  | nil => exact h
  | cons c cs ih =>
    by_cases hc : Text.isBlank c = true
    · -- reading a blank changes nothing
      rw [unblanked_cons_of_blank hc] at h
      exact cons (.blank stack hc) (ih h)
    · rw [unblanked_cons_of_visible (by simpa using hc)] at h
      cases h with
      | cons hstep htail => exact cons hstep (ih htail)

/-- Blanks can be left out of a text that is read. -/
theorem unblanked (h : Reads stack cs out stack') :
    Reads stack (Formulary.unblanked cs) out stack' := by
  induction h with
  | nil => exact nil _
  | @cons c cs out rest stack mid stack' hstep _ ih =>
    by_cases hc : Text.isBlank c = true
    · -- only one kind of step reads a blank
      have hskip : out = [] ∧ mid = stack := by
        cases hstep with
        | blank => exact ⟨rfl, rfl⟩
        | operand _ h => simp [isBlank_eq_false_of_isOperandChar h] at hc
        | openBracket => exact absurd hc (by decide)
        | closeBracket => exact absurd hc (by decide)
        | operator => simp [isBlank_symbol] at hc
      obtain ⟨rfl, rfl⟩ := hskip
      rw [unblanked_cons_of_blank hc]
      exact ih
    · rw [unblanked_cons_of_visible (by simpa using hc)]
      exact cons hstep ih

/-- The scanner reads the front of a text and goes on with the rest. -/
theorem scan_append (h : Reads stack cs out stack') (i : Nat) (ds : List Char) :
    scan i stack (cs ++ ds) = (scan (i + cs.length) stack' ds).map (out ++ ·) := by
  induction h generalizing i with
  | nil => cases hs : scan i _ ds <;> simp [hs]
  | @cons c cs out rest stack mid stack' hstep _ ih =>
    rw [List.cons_append, hstep.scan_cons, ih, List.length_cons,
      show i + 1 + cs.length = i + (cs.length + 1) by omega]
    cases scan (i + (cs.length + 1)) stack' ds <;> simp

end Reads

/-- Scanning to the end is reading all of the text with only operators left to release. -/
theorem scan_eq_ok_iff {i : Nat} {stack : List Waiting} {cs : List Char} {ts : List Token} :
    scan i stack cs = .ok ts ↔
      ∃ out ops, Reads stack cs out (ops.map .operator) ∧ ts = out ++ operatorTokens ops := by
  constructor
  · intro h
    -- every character leaves another stack for the rest of the text
    induction cs generalizing i stack ts with
    | nil =>
      rw [scan] at h
      split at h
      · next ops hops =>
        rw [Waiting.releaseAll?_eq_some_iff.mp hops]
        exact ⟨[], ops, .nil _, (Except.ok.inj h).symm⟩
      · cases h
    | cons c cs ih =>
      obtain ⟨out, mid, rest, hstep, hscan, rfl⟩ := Waiting.exists_step_of_scan h
      obtain ⟨out', ops, hreads, rfl⟩ := ih hscan
      exact ⟨out ++ out', ops, .cons hstep hreads, (List.append_assoc ..).symm⟩
  · rintro ⟨out, ops, hreads, rfl⟩
    have hscan := hreads.scan_append i []
    have hend : scan (i + cs.length) (ops.map .operator) [] = .ok (operatorTokens ops) := by
      rw [scan, Waiting.releaseAll?_eq_some_iff.mpr rfl]
    rw [List.append_nil] at hscan
    rw [hscan, hend]
    rfl

/-- Without its blanks a text scans to the same tokens, wherever it starts. -/
theorem scan_unblanked_eq_ok_iff (i : Nat) {j : Nat} {stack : List Waiting} {cs : List Char}
    {ts : List Token} : scan i stack (unblanked cs) = .ok ts ↔ scan j stack cs = .ok ts := by
  rw [scan_eq_ok_iff, scan_eq_ok_iff]
  constructor
  · rintro ⟨out, ops, hreads, hts⟩
    exact ⟨out, ops, hreads.of_unblanked, hts⟩
  · rintro ⟨out, ops, hreads, hts⟩
    exact ⟨out, ops, hreads.unblanked, hts⟩

end Formulary
