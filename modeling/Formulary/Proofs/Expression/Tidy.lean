import Mathlib.Data.List.Chain
import Formulary.Expression.Grammar
import Formulary.Proofs.Expression.Accepted

/-!
# Tidy expressions

Every text of the grammar is accepted, with the tree of its derivation. The converse fails, since
only the tokens put out are checked: `ab+` is accepted as well. An accepted text belongs to the
grammar exactly if no two operands or groups stand side by side in it.
-/

namespace Formulary

/-- What something looser would not release, something tighter does not either. -/
theorem Waiting.Holds.mono {m n : Nat} {stack : List Waiting} (h : Holds n stack) (hmn : m ≤ n) :
    Holds m stack := by
  match stack, h with
  | [], _ => trivial
  | .bracket :: _, _ => trivial
  | .operator _ :: _, h => exact Nat.le_trans hmn h

/-- While an expression of level `n` is read, operators of that level wait on top of a stack that
none of them releases. They are what its postorder still lacks at the end. -/
theorem Derives.reads {n : Nat} {cs : List Char} {t : Tree} (h : Derives n cs t)
    (stack : List Waiting) (hstack : Waiting.Holds (n - 1) stack) :
    ∃ (out : List Token) (ops : List Operator), Reads stack cs out (ops.map .operator ++ stack) ∧
      (∀ o ∈ ops, o.looseness < n) ∧ out ++ operatorTokens ops = t.tokens := by
  induction h generalizing stack with
  | @operand c hc => exact ⟨[operandToken c], [], .single (.operand _ hc), by simp, rfl⟩
  | @group cs t _ ih =>
    -- the group scans by itself, so it puts out all of its tokens wherever it stands
    obtain ⟨out, ops, hreads, -, htokens⟩ := ih [] trivial
    rw [List.append_nil] at hreads
    refine ⟨t.tokens, [], ?_, by simp, List.append_nil _⟩
    rw [← htokens]
    exact hreads.bracketed stack
  | tighter _ ih =>
    obtain ⟨out, ops, hreads, hops, htokens⟩ := ih stack (hstack.mono (by omega))
    exact ⟨out, ops, hreads, fun o ho => Nat.lt_succ_of_lt (hops o ho), htokens⟩
  | @join n xs ys left right o ho _ _ ihl ihr =>
    obtain ⟨out, ops, hreads, hops, htokens⟩ := ihl stack (hstack.mono (by omega))
    have hoperator : Reads (ops.map .operator ++ stack) [o.symbol] (operatorTokens ops)
        (.operator o :: stack) :=
      .single (.operator (fun t ht => ho ▸ hops t ht) (ho ▸ hstack))
    -- an operator never releases one of its own level, so `o` waits below those of the right part
    obtain ⟨out', ops', hreads', hops', htokens'⟩ :=
      ihr (.operator o :: stack) (Nat.le_of_eq ho.symm)
    refine ⟨out ++ (operatorTokens ops ++ out'), ops' ++ [o], ?_, ?_, ?_⟩
    · rw [List.map_append, List.append_assoc]
      exact hreads.append (hoperator.append hreads')
    · intro p hp
      rcases List.mem_append.mp hp with hp | hp
      · exact hops' p hp
      · rw [List.mem_singleton.mp hp, ho]
        exact Nat.lt_succ_self n
    · rw [Tree.tokens, ← htokens, ← htokens']
      simp [operatorTokens]

/-- An expression of some strength may stand where a looser one may. -/
theorem Derives.mono {m n : Nat} {cs : List Char} {t : Tree} (h : Derives m cs t) (hmn : m ≤ n) :
    Derives n cs t := by
  induction hmn with
  | refl => exact h
  | step _ ih => exact ih.tighter

/-- A text of the grammar scans to the postorder of its tree. -/
theorem scan_of_written {text : String} {t : Tree} (h : Written text t) :
    scan 0 [] text.toList = .ok t.tokens := by
  obtain ⟨out, ops, hreads, -, htokens⟩ := Derives.reads h [] trivial
  rw [List.append_nil] at hreads
  exact (scan_unblanked_eq_ok_iff 0).mp (scan_eq_ok_iff.mpr ⟨out, ops, hreads, htokens.symm⟩)

/-- Every text of the grammar is accepted, with blanks anywhere. Its tokens are the postorder of
the derivation's tree and its names are the leaves from left to right. -/
theorem parse_of_written {text : String} {t : Tree} (h : Written text t) :
    Formula.parse text = .ok { text, tokens := t.tokens, names := t.names } :=
  Formula.parse_eq_ok_iff.mpr ⟨t, scan_of_written h, rfl⟩

/-- All five operators in one text, with a group and with blanks. -/
theorem parse_of_written_mixed :
    Written " a-(b+c )^d*e\t- f" (.node .minus (.leaf "a") (.node .minus (.node .times
      (.node .power (.node .plus (.leaf "b") (.leaf "c")) (.leaf "d")) (.leaf "e")) (.leaf "f"))) ∧
    Formula.parse " a-(b+c )^d*e\t- f" = .ok
      { text := " a-(b+c )^d*e\t- f"
        tokens := [.operand "a", .operand "b", .operand "c", .operator .plus, .operand "d",
          .operator .power, .operand "e", .operator .times, .operand "f", .operator .minus,
          .operator .minus]
        names := ["a", "b", "c", "d", "e", "f"] } := by
  have leaf (n : Nat) (c : Char) (hc : isOperandChar c = true) :
      Derives n [c] (.leaf (String.singleton c)) := (Derives.operand hc).mono (Nat.zero_le n)
  have hsum := Derives.join (n := 2) (o := .plus) rfl (leaf _ 'b' rfl) (leaf _ 'c' rfl)
  have hpower := Derives.join (n := 0) (o := .power) rfl hsum.group (leaf _ 'd' rfl)
  have hproduct := Derives.join (n := 1) (o := .times) rfl hpower (leaf _ 'e' rfl)
  have hwritten : Written " a-(b+c )^d*e\t- f" _ :=
    .join (o := .minus) rfl (leaf 2 'a' rfl) (.join (o := .minus) rfl hproduct (leaf 3 'f' rfl))
  exact ⟨hwritten, parse_of_written hwritten⟩

/-- An operand or a group and an operator may stand before any expression that is loose enough. -/
theorem Derives.prepend {n : Nat} {xs ys : List Char} {left right : Tree} {o : Operator}
    (hxs : Derives 0 xs left) (hys : Derives n ys right) (ho : o.looseness < n) :
    ∃ t, Derives n (xs ++ o.symbol :: ys) t := by
  induction hys with
  | operand => omega
  | group => omega
  | @tighter m ys right hys ih =>
    by_cases hlt : o.looseness < m
    · obtain ⟨t, ht⟩ := ih hlt
      exact ⟨t, ht.tighter⟩
    · have heq : o.looseness = m := by omega
      exact ⟨_, .join heq (hxs.mono (Nat.zero_le m)) hys.tighter⟩
  | @join m ys zs _ _ p hp hys hzs ihys _ =>
    by_cases hlt : o.looseness < m
    · -- `o` binds tighter than `p`, so it belongs to the left operand of `p`
      obtain ⟨t, ht⟩ := ihys hlt
      rw [← List.cons_append, ← List.append_assoc]
      exact ⟨_, .join hp ht hzs⟩
    · have heq : o.looseness = m := by omega
      exact ⟨_, .join heq (hxs.mono (Nat.zero_le m)) (.join hp hys hzs)⟩

/-- A character at the right end of an operand or a group. -/
def endsOperand (c : Char) : Bool :=
  isOperandChar c || c == ')'

/-- A character at the left end of an operand or a group. -/
def startsOperand (c : Char) : Bool :=
  isOperandChar c || c == '('

/-- No two operands or groups stand side by side. -/
def Separated (cs : List Char) : Prop :=
  cs.IsChain fun c d => ¬ (endsOperand c = true ∧ startsOperand d = true)

/-- Operands or groups and operators take turns: behind an operand or a group comes an operator or
the end of the group, and an operand or a group comes behind everything else and at the ends. -/
def Alternating (cs : List Char) : Prop :=
  (cs.IsChain fun c d => startsOperand d = !endsOperand c) ∧
    (∀ c ∈ cs.head?, startsOperand c = true) ∧ ∀ c ∈ cs.getLast?, endsOperand c = true

mutual

/-- What ends an expression inside `k` brackets, up to the end of the text. -/
inductive Closes : Nat → List Char → Prop
  | nil : Closes 0 []
  | bracket {k : Nat} {rest : List Char} : Finishes k rest → Closes (k + 1) (')' :: rest)

/-- What may follow an operand or a group inside `k` brackets, up to the end of the text. -/
inductive Finishes : Nat → List Char → Prop
  | closes {k : Nat} {rest : List Char} : Closes k rest → Finishes k rest
  | operator {k : Nat} {o : Operator} {cs rest : List Char} {t : Tree} :
      Derives 3 cs t → Closes k rest → Finishes k (o.symbol :: (cs ++ rest))

end

/-- What may follow an open bracket or an operator inside `k` brackets, up to the end of the
text. -/
def Begins (k : Nat) (text : List Char) : Prop :=
  ∃ cs rest t, text = cs ++ rest ∧ Derives 3 cs t ∧ Closes k rest

/-- No operator binds looser than a whole expression. -/
theorem Operator.looseness_lt (o : Operator) : o.looseness < 3 := by
  cases o <;> decide

/-- An operand or a group, with something behind it that may follow one, may stand where an
expression begins. -/
theorem Begins.of_finishes {k : Nat} {xs rest : List Char} {t : Tree} (hxs : Derives 0 xs t)
    (hrest : Finishes k rest) : Begins k (xs ++ rest) := by
  cases hrest with
  | closes hrest => exact ⟨xs, rest, t, rfl, hxs.mono (by omega), hrest⟩
  | @operator _ o cs rest _ hcs hrest =>
    obtain ⟨t', ht'⟩ := hxs.prepend hcs o.looseness_lt
    exact ⟨xs ++ o.symbol :: cs, rest, t', by simp, ht', hrest⟩

/-- A group may begin where its inside may. -/
theorem Begins.bracket {k : Nat} {cs : List Char} (h : Begins (k + 1) cs) :
    Begins k ('(' :: cs) := by
  obtain ⟨cs, rest, t, rfl, hcs, hrest⟩ := h
  cases hrest with
  | @bracket _ rest hrest =>
    have hgroup := Begins.of_finishes hcs.group hrest
    simpa using hgroup

/-- An operator may follow an operand if an expression may begin behind it. -/
theorem Begins.operator {k : Nat} {cs : List Char} (o : Operator) (h : Begins k cs) :
    Finishes k (o.symbol :: cs) := by
  obtain ⟨cs, rest, t, rfl, hcs, hrest⟩ := h
  exact .operator hcs hrest

section Counting

variable {c : Char} {cs : List Char}

/-- The operands of a text are that of its first character, if any, and those of the rest. -/
theorem operands_cons (c : Char) (cs : List Char) :
    operands (c :: cs) = operands [c] ++ operands cs := by
  simp [operands, ← List.map_append, ← List.filter_append]

/-- The tokens of a text are that of its first character, if any, and those of the rest. -/
theorem textTokens_cons (c : Char) (cs : List Char) :
    textTokens (c :: cs) = textTokens [c] ++ textTokens cs :=
  List.filterMap_append (l := [c])

/-- What is left of a text without blanks and without neighbouring operands has at most one operand
more than operators, and none more behind an operand. With as many as that it is tidy: a misplaced
operator or bracket costs an operand that nothing can make up for. -/
theorem Reads.tidy {stack stack' : List Waiting} {out : List Token} (h : Reads stack cs out stack')
    (hend : stack'.count .bracket = 0) (hblank : ∀ c ∈ cs, Text.isBlank c = false)
    (hsep : Separated cs) :
    (2 * (operands cs).length ≤ (textTokens cs).length + 1 ∧
      (2 * (operands cs).length = (textTokens cs).length + 1 →
        Begins (stack.count .bracket) cs)) ∧
    ((∀ c ∈ cs.head?, startsOperand c = false) →
      2 * (operands cs).length ≤ (textTokens cs).length ∧
      (2 * (operands cs).length = (textTokens cs).length →
        Finishes (stack.count .bracket) cs)) := by
  induction h with
  | nil stack =>
    refine ⟨⟨by simp [operands], by simp [operands, textTokens]⟩, fun _ => ⟨by simp [operands], ?_⟩⟩
    intro _
    rw [hend]
    exact .closes .nil
  | @cons c cs out rest stack mid stack' hstep _ ih =>
    have hsep' : Separated cs := List.IsChain.tail hsep
    obtain ⟨⟨hbegin, htidy⟩, hbehind⟩ :=
      ih hend (fun d hd => hblank d (List.mem_cons_of_mem _ hd)) hsep'
    have hnext : endsOperand c = true → ∀ d ∈ cs.head?, startsOperand d = false := by
      intro hc d hd
      have hapart := hsep.rel_head? hd
      simpa [hc] using hapart
    rw [operands_cons, textTokens_cons, List.length_append, List.length_append]
    cases hstep with
    | blank _ hc => simp [hblank c List.mem_cons_self] at hc
    | operand _ hc =>
      -- behind an operand comes no other, so the rest has none to spare
      obtain ⟨hle, hfin⟩ := hbehind (hnext (by simp [endsOperand, hc]))
      have hone : (operands [c]).length = 1 := by simp [operands, hc]
      have hone' : (textTokens [c]).length = 1 := by
        simp [textTokens, tokenOf?, Symbol.ofChar_eq_operand_iff.mpr hc]
      refine ⟨⟨by omega, fun heq => ?_⟩, fun hhead => ?_⟩
      · exact Begins.of_finishes (.operand hc) (hfin (by omega))
      · simp [startsOperand, hc] at hhead
    | openBracket =>
      have hnone : (operands ['(']).length = 0 := by decide
      have hnone' : (textTokens ['(']).length = 0 := by decide
      refine ⟨⟨by omega, fun heq => ?_⟩, fun hhead => ?_⟩
      · have hinner := htidy (by omega)
        rw [List.count_cons_self] at hinner
        exact hinner.bracket
      · simp [startsOperand] at hhead
    | closeBracket ops =>
      have hnone : (operands [')']).length = 0 := by decide
      have hnone' : (textTokens [')']).length = 0 := by decide
      obtain ⟨hle, hfin⟩ := hbehind (hnext (by decide))
      refine ⟨⟨by omega, by omega⟩, fun _ => ⟨by omega, fun heq => ?_⟩⟩
      rw [List.count_append, count_bracket_map, List.count_cons_self, Nat.zero_add]
      exact .closes (.bracket (hfin (by omega)))
    | @operator o ops mid =>
      have hnone : (operands [o.symbol]).length = 0 := by simp [operands, isOperandChar_symbol]
      have hone : (textTokens [o.symbol]).length = 1 := by
        simp [textTokens, tokenOf?, Symbol.ofChar_eq_operator_iff.mpr rfl]
      -- an operator uses up the operand that the rest may have to spare
      refine ⟨⟨by omega, by omega⟩, fun _ => ⟨by omega, fun heq => ?_⟩⟩
      have hbegins := htidy (by omega)
      rw [List.count_cons_of_ne (by simp)] at hbegins
      rw [List.count_append, count_bracket_map, Nat.zero_add]
      exact hbegins.operator o

end Counting

/-- No expression is empty. -/
theorem Derives.ne_nil {n : Nat} {cs : List Char} {t : Tree} (h : Derives n cs t) : cs ≠ [] := by
  induction h with
  | tighter _ ih => exact ih
  | _ => simp

/-- In a tidy text, operands or groups and operators take turns. -/
theorem Derives.alternating {n : Nat} {cs : List Char} {t : Tree} (h : Derives n cs t) :
    Alternating cs := by
  induction h with
  | operand hc =>
    refine ⟨List.isChain_singleton _, ?_, ?_⟩
    · simp [startsOperand, hc]
    · simp [endsOperand, hc]
  | @group cs _ h ih =>
    obtain ⟨hchain, hstart, hend⟩ := ih
    have hhead : (cs ++ [')']).head? = cs.head? := List.head?_append_of_ne_nil cs h.ne_nil
    refine ⟨?_, by simp [startsOperand], ?_⟩
    · rw [List.cons_append, List.isChain_cons, hhead, List.isChain_append]
      refine ⟨hstart, hchain, List.isChain_singleton _, ?_⟩
      intro c hc d hd
      obtain rfl : ')' = d := by simpa using hd
      rw [hend c hc]
      decide
    · rw [List.getLast?_concat]
      simp [endsOperand]
  | tighter _ ih => exact ih
  | @join n xs ys _ _ o _ hxs hys ihx ihy =>
    obtain ⟨hchain, hstart, hend⟩ := ihx
    obtain ⟨hchain', hstart', hend'⟩ := ihy
    have hsymbol : startsOperand o.symbol = false ∧ endsOperand o.symbol = false := by
      cases o <;> decide
    refine ⟨?_, ?_, ?_⟩
    · rw [List.isChain_append, List.isChain_cons]
      refine ⟨hchain, ⟨?_, hchain'⟩, ?_⟩
      · intro d hd
        rw [hstart' d hd, hsymbol.2]
        rfl
      · intro c hc d hd
        obtain rfl : o.symbol = d := by simpa using hd
        rw [hend c hc, hsymbol.1]
        rfl
    · rw [List.head?_append_of_ne_nil xs hxs.ne_nil]
      exact hstart
    · rw [List.getLast?_append_cons, List.getLast?_cons_of_ne_nil hys.ne_nil]
      exact hend'

/-- Where they take turns, no two operands or groups stand side by side. -/
theorem Alternating.separated {cs : List Char} (h : Alternating cs) : Separated cs := by
  refine h.1.imp ?_
  rintro c d heq ⟨hc, hd⟩
  simp [hc, hd] at heq

/-- An accepted text without two operands or groups side by side belongs to the grammar, since it
has one operand more than it has operators. -/
theorem exists_written_of_separated {text : String} {f : Formula}
    (h : Formula.parse text = .ok f) (hsep : Separated (unblanked text.toList)) :
    ∃ t, Written text t := by
  obtain ⟨t, hscan, -⟩ := Formula.parse_eq_ok_iff.mp h
  rw [← scan_unblanked_eq_ok_iff 0] at hscan
  obtain ⟨out, ops, hreads, -⟩ := scan_eq_ok_iff.mp hscan
  have hblank : ∀ c ∈ unblanked text.toList, Text.isBlank c = false := by
    intro c hc
    exact (mem_unblanked_iff.mp hc).2
  -- its tokens are those of a tree, which has one operand more than operators
  obtain ⟨⟨-, htidy⟩, -⟩ := hreads.tidy (count_bracket_map ops) hblank hsep
  have hcount : 2 * (operands (unblanked text.toList)).length =
      (textTokens (unblanked text.toList)).length + 1 := by
    rw [← (scan_perm hscan).length_eq, ← names_of_scan hscan, Tree.names_tokens,
      Tree.length_tokens]
  obtain ⟨cs, rest, t', htext, hcs, hrest⟩ := htidy hcount
  cases hrest with
  | nil =>
    rw [List.append_nil] at htext
    refine ⟨t', ?_⟩
    show Derives 3 (unblanked text.toList) t'
    rw [htext]
    exact hcs

/-- Of the accepted texts exactly those belong to the grammar in which no two operands or groups
stand side by side. The tokens of all others are still the postorder of a tree. -/
theorem parse_tidy_iff_separated {text : String} {f : Formula} (h : Formula.parse text = .ok f) :
    ∃ t : Tree, f = { text, tokens := t.tokens, names := t.names } ∧
      (Separated (unblanked text.toList) →
        Written text t ∧ Alternating (unblanked text.toList)) ∧
      (¬ Separated (unblanked text.toList) → ¬ ∃ t', Written text t') := by
  by_cases hsep : Separated (unblanked text.toList)
  · obtain ⟨t, ht⟩ := exists_written_of_separated h hsep
    have hf := Formula.parse_eq_ok_iff.mpr ⟨t, scan_of_written ht, rfl⟩
    refine ⟨t, Except.ok.inj (h.symm.trans hf), fun _ => ⟨ht, Derives.alternating ht⟩, ?_⟩
    intro hnot
    exact absurd hsep hnot
  · obtain ⟨t, -, rfl⟩ := Formula.parse_eq_ok_iff.mp h
    refine ⟨t, rfl, fun h => absurd h hsep, fun _ => ?_⟩
    rintro ⟨t', ht'⟩
    exact hsep (Derives.alternating ht').separated

/-- An accepted text whose only operator stands in the wrong place. -/
theorem parse_tidy_iff_separated_misplaced :
    Formula.parse "a(+b)" = .ok
      { text := "a(+b)"
        tokens := [.operand "a", .operand "b", .operator .plus], names := ["a", "b"] } ∧
    (∃ t : Tree, [.operand "a", .operand "b", .operator .plus] = t.tokens) ∧
    ¬ ∃ t, Written "a(+b)" t := by
  have hparse : Formula.parse "a(+b)" = .ok
      { text := "a(+b)"
        tokens := [.operand "a", .operand "b", .operator .plus], names := ["a", "b"] } := by rfl
  have hnear : ¬ Separated (unblanked "a(+b)".toList) := by
    unfold Separated
    decide
  obtain ⟨t, hf, -, huntidy⟩ := parse_tidy_iff_separated hparse
  exact ⟨hparse, ⟨t, congrArg Formula.tokens hf⟩, huntidy hnear⟩

/-- A text may be accepted without belonging to the grammar. -/
theorem parse_operands_first :
    (∃ f, Formula.parse "ab+" = .ok f) ∧ ¬ ∃ t, Written "ab+" t := by
  refine ⟨⟨_, rfl⟩, ?_⟩
  rintro ⟨t, ht⟩
  have hsep : Separated (unblanked "ab+".toList) := (Derives.alternating ht).separated
  unfold Separated at hsep
  exact absurd hsep (by decide)

end Formulary
