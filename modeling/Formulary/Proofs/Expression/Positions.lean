import Mathlib.Data.List.Chain
import Formulary.Proofs.Expression.Fault

/-!
# What the scanner puts out and when

The scanner is followed here on positions instead of tokens: a list of the positions whose tokens
are out, and a stack of the positions that wait. An operator is put out when its bracket group is
closed or when a looser operator of its own group is read, and not earlier. The scanner only ever
pops from the top of its stack. That this is enough is due to an order that it keeps there.

## Main definitions

* `between`, `SameGroup` — the text between two positions, and positions of one bracket group
* `ReleasedAt`, `OutBy` — what puts out an operator, and what is out at a time
* `Waiting.Tightening` — between brackets, what waits gets no looser towards the top of the stack
* `Places` — the positions that are out and the positions that wait
-/

namespace Formulary

/-! ## Bracket groups -/

section Groups

variable (cs : List Char)

/-- The token at a position of a text, if there is an operand or an operator. -/
def tokenAt? (i : Nat) : Option Token :=
  cs[i]?.bind tokenOf?

/-- The text strictly between two positions. -/
def between (i j : Nat) : List Char :=
  (cs.take j).drop (i + 1)

/-- The later position `j` lies directly in the innermost bracket group of `i`, or closes it: the
text between the two closes the brackets that it opens and no others. -/
def SameGroup (i j : Nat) : Prop :=
  i < j ∧ Balanced (between cs i j)

/-- The innermost bracket group of `i` is closed at `j`. -/
def ClosedAt (i j : Nat) : Prop :=
  SameGroup cs i j ∧ cs[j]? = some ')'

/-- At `j` stands an operator of the same group that is looser than the operator at `i`. -/
def LooserAt (i j : Nat) : Prop :=
  SameGroup cs i j ∧ ∃ o p : Operator, cs[i]? = some o.symbol ∧ cs[j]? = some p.symbol ∧
    o.looseness < p.looseness

/-- What puts out an operator at `i` is read at `j`. -/
def ReleasedAt (i j : Nat) : Prop :=
  ClosedAt cs i j ∨ LooserAt cs i j

/-- There is an operand at `i`, or what puts out the operator there is among the first `n`
characters. -/
def OutBy (i n : Nat) : Prop :=
  (∃ c, cs[i]? = some c ∧ isOperandChar c = true) ∨ ∃ j < n, ReleasedAt cs i j

end Groups

section Characters

variable {cs : List Char} {n i : Nat} {c : Char}

/-- One more character on the right comes to the end of what is between. -/
theorem between_succ (hi : i < n) (hc : cs[n]? = some c) :
    between cs i (n + 1) = between cs i n ++ [c] := by
  have hn : n < cs.length := (List.getElem?_eq_some_iff.mp hc).1
  rw [between, List.take_add_one, hc, Option.toList_some, List.drop_append_of_le_length, between]
  rw [List.length_take_of_le (by omega)]
  omega

theorem between_self_succ (cs : List Char) (n : Nat) : between cs n (n + 1) = [] :=
  List.drop_eq_nil_of_le (List.length_take_le _ _)

theorem tokenAt?_of_operand (hc : cs[i]? = some c) (hoperand : isOperandChar c = true) :
    tokenAt? cs i = some (operandToken c) := by
  rw [tokenAt?, hc, Option.bind_some, tokenOf?, Symbol.ofChar_eq_operand_iff.mpr hoperand]

theorem tokenAt?_of_operator {o : Operator} (hc : cs[i]? = some o.symbol) :
    tokenAt? cs i = some (.operator o) := by
  rw [tokenAt?, hc, Option.bind_some, tokenOf?, Symbol.ofChar_eq_operator_iff.mpr rfl]

end Characters

section Released

variable {cs : List Char} {i j : Nat} {c : Char}

/-- An operator is put out by a character of its own group. -/
theorem ReleasedAt.sameGroup (h : ReleasedAt cs i j) : SameGroup cs i j :=
  h.elim And.left And.left

/-- An operator is put out by a later character. -/
theorem not_releasedAt_of_le (h : j ≤ i) : ¬ ReleasedAt cs i j := by
  intro hreleased
  have hlt : i < j := hreleased.sameGroup.1
  omega

/-- Only closing brackets and operators put anything out. -/
theorem not_releasedAt_of_inert (hc : cs[j]? = some c) (hclose : c ≠ ')')
    (hoperator : ∀ o : Operator, c ≠ o.symbol) : ¬ ReleasedAt cs i j := by
  rintro (⟨-, hj⟩ | ⟨-, -, o, -, hj, -⟩)
  · exact hclose (Option.some.inj (hc.symm.trans hj))
  · exact hoperator o (Option.some.inj (hc.symm.trans hj))

/-- What is out stays out. -/
theorem OutBy.succ {n : Nat} (h : OutBy cs i n) : OutBy cs i (n + 1) :=
  h.imp_right fun ⟨j, hj, hreleased⟩ => ⟨j, Nat.lt_succ_of_lt hj, hreleased⟩

end Released

/-! ## The order on the stack -/

namespace Waiting

/-- From the bottom of the stack to its top, what waits between brackets gets no looser. -/
def Tightening (stack : List Waiting) : Prop :=
  stack.IsChain fun top below =>
    ∀ t u, top = .operator t → below = .operator u → t.looseness ≤ u.looseness

/-- A step keeps the order on the stack: before an operator waits, all that bind tighter are gone.
-/
theorem Step.tightening {c : Char} {stack stack' : List Waiting} {out : List Token}
    (h : Step c stack out stack') (hstack : Tightening stack) : Tightening stack' := by
  cases h with
  | blank | operand => exact hstack
  | openBracket =>
    rw [Tightening, List.isChain_cons]
    refine ⟨fun below _ t u htop => ?_, hstack⟩
    cases htop
  | closeBracket ops rest =>
    exact (List.IsChain.right_of_append hstack).tail
  | @operator o ops rest hops hrest =>
    rw [Tightening, List.isChain_cons]
    refine ⟨fun below hbelow t u htop hu => ?_, List.IsChain.right_of_append hstack⟩
    -- the operator was held by what is now below it
    cases htop
    subst hu
    cases rest with
    | nil => cases hbelow
    | cons w rest =>
      obtain rfl : w = .operator u := Option.some.inj hbelow
      exact hrest

/-- Whether the top of a stack is released depends on the upper part of the stack only. -/
theorem Holds.of_append {n : Nat} {above below : List Waiting} (h : Holds n (above ++ below)) :
    Holds n above := by
  cases above with
  | nil => trivial
  | cons w above => cases w <;> exact h

/-- An operator that is held by the top of the stack is held by all operators of the group. -/
theorem Tightening.le_of_holds {n : Nat} {ops : List Operator} {o : Operator}
    {rest : List Waiting} (h : Tightening (ops.map .operator ++ .operator o :: rest))
    (hholds : Holds n (ops.map .operator ++ .operator o :: rest)) : n ≤ o.looseness := by
  induction ops with
  | nil => exact hholds
  | cons t ops ih =>
    obtain ⟨hnext, htail⟩ := List.isChain_cons.mp h
    refine ih htail ?_
    have ht : n ≤ t.looseness := hholds
    cases ops with
    | nil => exact Nat.le_trans ht (hnext _ rfl t o rfl rfl)
    | cons u ops => exact Nat.le_trans ht (hnext _ rfl t u rfl rfl)

end Waiting

/-- Reading a text keeps the order on the stack. -/
theorem Reads.tightening {stack stack' : List Waiting} {cs : List Char} {out : List Token}
    (h : Reads stack cs out stack') (hstack : Waiting.Tightening stack) :
    Waiting.Tightening stack' := by
  induction h with
  | nil => exact hstack
  | cons hstep _ ih => exact ih (hstep.tightening hstack)

/-- A text closes all brackets that it opens exactly if none is left on the stack. -/
theorem Reads.balanced_iff {stack : List Waiting} {cs : List Char} {out : List Token}
    (h : Reads [] cs out stack) : Balanced cs ↔ .bracket ∉ stack := by
  have hscan := h.scan_append 0 []
  rw [List.append_nil] at hscan
  rw [← exists_scan_iff_balanced, hscan, scan]
  cases hrelease : Waiting.releaseAll? stack with
  | none => simp [Waiting.releaseAll?_eq_none_iff.mp hrelease]
  | some ops =>
    have hnone : .bracket ∉ stack := by
      rw [← Waiting.releaseAll?_eq_none_iff, hrelease]
      exact Option.some_ne_none ops
    simp [hnone]

/-! ## The scanner on positions -/

/-- What waits at a position of a text: the operator there, or else a bracket. -/
def waitingAt (cs : List Char) (p : Nat) : Waiting :=
  match cs[p]?.bind Operator.ofSymbol? with
  | some o => .operator o
  | none => .bracket

section Waits

variable {cs : List Char} {p : Nat}

/-- What waits at a position is the operator whose symbol stands there. -/
theorem waitingAt_eq_operator_iff {o : Operator} :
    waitingAt cs p = .operator o ↔ cs[p]? = some o.symbol := by
  unfold waitingAt
  cases hc : cs[p]? with
  | none => simp
  | some c =>
    rw [Option.bind_some, Option.some_inj, ← Operator.ofSymbol?_eq_some_iff]
    cases Operator.ofSymbol? c <;> simp

/-- What waits is an operator if it is no bracket. -/
theorem exists_operator_of_ne_bracket (h : waitingAt cs p ≠ .bracket) :
    ∃ o : Operator, cs[p]? = some o.symbol := by
  cases hp : waitingAt cs p with
  | bracket => exact absurd hp h
  | operator o => exact ⟨o, waitingAt_eq_operator_iff.mp hp⟩

/-- Where a bracket is opened, a bracket waits. -/
theorem waitingAt_of_openBracket (h : cs[p]? = some '(') : waitingAt cs p = .bracket := by
  rw [waitingAt, h]
  rfl

/-- Positions at which no bracket waits are those of some operators, with their tokens. -/
theorem exists_map_operator {ps : List Nat} (h : ∀ p ∈ ps, waitingAt cs p ≠ .bracket) :
    ∃ ops : List Operator, ps.map (waitingAt cs) = ops.map .operator ∧
      ps.map (tokenAt? cs) = (operatorTokens ops).map some := by
  induction ps with
  | nil => exact ⟨[], rfl, rfl⟩
  | cons p ps ih =>
    obtain ⟨hp, hps⟩ := List.forall_mem_cons.mp h
    obtain ⟨ops, hops, htokens⟩ := ih hps
    obtain ⟨o, ho⟩ := exists_operator_of_ne_bracket hp
    refine ⟨o :: ops, ?_, ?_⟩
    · rw [List.map_cons, waitingAt_eq_operator_iff.mpr ho, hops, List.map_cons]
    · rw [List.map_cons, tokenAt?_of_operator ho, htokens]
      rfl

/-- Positions at which only operators tighter than some looseness wait are those of such operators,
with their tokens. -/
theorem exists_map_tighter {ps : List Nat} {k : Nat}
    (h : ∀ p ∈ ps, ∃ t, waitingAt cs p = .operator t ∧ t.looseness < k) :
    ∃ ops : List Operator, ps.map (waitingAt cs) = ops.map .operator ∧
      (∀ t ∈ ops, t.looseness < k) ∧
      ps.map (tokenAt? cs) = (operatorTokens ops).map some := by
  have hoperator : ∀ p ∈ ps, waitingAt cs p ≠ .bracket := by
    intro p hp hbracket
    obtain ⟨t, ht, -⟩ := h p hp
    cases ht.symm.trans hbracket
  obtain ⟨ops, hops, htokens⟩ := exists_map_operator hoperator
  refine ⟨ops, hops, fun t ht => ?_, htokens⟩
  have hmem : Waiting.operator t ∈ ps.map (waitingAt cs) := hops ▸ List.mem_map_of_mem ht
  obtain ⟨p, hp, hpt⟩ := List.mem_map.mp hmem
  obtain ⟨u, hu, hlt⟩ := h p hp
  cases hpt.symm.trans hu
  exact hlt

/-- What the top of the stack holds is held by all operators of the group at the top. -/
theorem le_looseness_of_holds {above below : List Nat} {k : Nat} {o : Operator}
    (htight : Waiting.Tightening ((above ++ p :: below).map (waitingAt cs)))
    (hp : cs[p]? = some o.symbol) (habove : ∀ q ∈ above, waitingAt cs q ≠ .bracket)
    (hholds : Waiting.Holds k ((above ++ p :: below).map (waitingAt cs))) : k ≤ o.looseness := by
  obtain ⟨os, hos, -⟩ := exists_map_operator habove
  rw [List.map_append, hos, List.map_cons, waitingAt_eq_operator_iff.mpr hp] at htight hholds
  exact htight.le_of_holds hholds

end Waits

/-- `Places cs n out stack`: once `n` characters are read, the tokens at the positions `out` are put
out, in this order, and the operators and brackets at the positions `stack` wait. -/
inductive Places (cs : List Char) : (n : Nat) → (out stack : List Nat) → Prop
  | start : Places cs 0 [] []
  | blank {n : Nat} {c : Char} {out stack : List Nat} : Places cs n out stack →
      cs[n]? = some c → Text.isBlank c = true → Places cs (n + 1) out stack
  | operand {n : Nat} {c : Char} {out stack : List Nat} : Places cs n out stack →
      cs[n]? = some c → isOperandChar c = true → Places cs (n + 1) (out ++ [n]) stack
  | openBracket {n : Nat} {out stack : List Nat} : Places cs n out stack →
      cs[n]? = some '(' → Places cs (n + 1) out (n :: stack)
  | closeBracket {n b : Nat} {out ops rest : List Nat} : Places cs n out (ops ++ b :: rest) →
      cs[n]? = some ')' → (∀ p ∈ ops, waitingAt cs p ≠ .bracket) → waitingAt cs b = .bracket →
      Places cs (n + 1) (out ++ ops) rest
  | operator {n : Nat} {o : Operator} {out ops rest : List Nat} : Places cs n out (ops ++ rest) →
      cs[n]? = some o.symbol →
      (∀ p ∈ ops, ∃ t, waitingAt cs p = .operator t ∧ t.looseness < o.looseness) →
      Waiting.Holds o.looseness (rest.map (waitingAt cs)) →
      Places cs (n + 1) (out ++ ops) (n :: rest)

/-- The first `n + 1` characters are the first `n` and the next one. -/
theorem take_add_one_eq {cs : List Char} {n : Nat} {c : Char} (hc : cs[n]? = some c) :
    cs.take (n + 1) = cs.take n ++ [c] := by
  rw [List.take_add_one, hc, Option.toList_some]

namespace Places

variable {cs : List Char} {n p : Nat} {out stack above rest : List Nat} {o : Operator}

/-- All positions that are out or wait have been read. -/
theorem lt_of_mem (h : Places cs n out stack) (hp : p ∈ out ∨ p ∈ stack) : p < n := by
  induction h with
  | start => simp at hp
  | blank | operand | openBracket | closeBracket | operator => grind

/-- The scanner takes these steps. -/
theorem reads (h : Places cs n out stack) :
    ∃ ts, Reads [] (cs.take n) ts (stack.map (waitingAt cs)) ∧
      out.map (tokenAt? cs) = ts.map some := by
  induction h with
  | start => exact ⟨[], .nil [], rfl⟩
  | blank _ hc hblank ih =>
    obtain ⟨ts, hreads, hts⟩ := ih
    rw [take_add_one_eq hc]
    exact ⟨ts ++ [], hreads.append (.single (.blank _ hblank)), by rw [List.append_nil, hts]⟩
  | operand _ hc hoperand ih =>
    obtain ⟨ts, hreads, hts⟩ := ih
    rw [take_add_one_eq hc]
    refine ⟨_, hreads.append (.single (.operand _ hoperand)), ?_⟩
    rw [List.map_append, List.map_append, hts, List.map_singleton, tokenAt?_of_operand hc hoperand,
      List.map_singleton]
  | openBracket _ hc ih =>
    obtain ⟨ts, hreads, hts⟩ := ih
    rw [take_add_one_eq hc, List.map_cons, waitingAt_of_openBracket hc]
    exact ⟨ts ++ [], hreads.append (.single (.openBracket _)), by rw [List.append_nil, hts]⟩
  | @closeBracket n b out ops rest _ hc hops hb ih =>
    obtain ⟨ts, hreads, hts⟩ := ih
    obtain ⟨os, hos, htokens⟩ := exists_map_operator hops
    rw [List.map_append, List.map_cons, hos, hb] at hreads
    rw [take_add_one_eq hc]
    refine ⟨_, hreads.append (.single (.closeBracket os _)), ?_⟩
    rw [List.map_append, List.map_append, hts, htokens]
  | @operator n o out ops rest _ hc hops hrest ih =>
    obtain ⟨ts, hreads, hts⟩ := ih
    obtain ⟨os, hos, hlooser, htokens⟩ := exists_map_tighter hops
    rw [List.map_append, hos] at hreads
    rw [take_add_one_eq hc, List.map_cons, waitingAt_eq_operator_iff.mpr hc]
    refine ⟨_, hreads.append (.single (.operator hlooser hrest)), ?_⟩
    rw [List.map_append, List.map_append, hts, htokens]

end Places

/-- The scanner takes no other steps. -/
theorem Reads.exists_places {cs : List Char} {n : Nat} {ts : List Token} {st : List Waiting}
    (hn : n ≤ cs.length) (h : Reads [] (cs.take n) ts st) :
    ∃ out stack, Places cs n out stack ∧ stack.map (waitingAt cs) = st := by
  induction n generalizing ts st with
  | zero =>
    cases h
    exact ⟨[], [], .start, rfl⟩
  | succ n ih =>
    have hc : cs[n]? = some cs[n] := List.getElem?_eq_getElem hn
    rw [take_add_one_eq hc] at h
    obtain ⟨first, mid, second, hbefore, hlast, -⟩ := h.exists_of_append
    obtain ⟨out, stack, hplaces, rfl⟩ := ih (Nat.le_of_succ_le hn) hbefore
    generalize cs[n] = c at hc hlast
    cases hlast with
    | cons hstep htail =>
      cases htail
      generalize hmid : stack.map (waitingAt cs) = mid at hstep
      cases hstep with
      | blank _ hblank => exact ⟨out, stack, .blank hplaces hc hblank, hmid⟩
      | operand _ hoperand => exact ⟨_, stack, .operand hplaces hc hoperand, hmid⟩
      | openBracket =>
        refine ⟨out, n :: stack, .openBracket hplaces hc, ?_⟩
        rw [List.map_cons, waitingAt_of_openBracket hc, hmid]
      | closeBracket ops rest =>
        obtain ⟨ps, qs, rfl, hps, hqs⟩ := List.map_eq_append_iff.mp hmid
        obtain ⟨b, qs, rfl, hb, rfl⟩ := List.map_eq_cons_iff.mp hqs
        refine ⟨_, qs, .closeBracket hplaces hc (fun p hp hbracket => ?_) hb, rfl⟩
        have hmem : Waiting.bracket ∈ ops.map .operator := by
          rw [← hps, ← hbracket]
          exact List.mem_map_of_mem hp
        simp at hmem
      | @operator o ops rest hops hrest =>
        obtain ⟨ps, qs, rfl, hps, rfl⟩ := List.map_eq_append_iff.mp hmid
        refine ⟨_, n :: qs, .operator hplaces hc (fun p hp => ?_) hrest, ?_⟩
        · have hmem : waitingAt cs p ∈ ops.map .operator := hps ▸ List.mem_map_of_mem hp
          obtain ⟨t, ht, hpt⟩ := List.mem_map.mp hmem
          exact ⟨t, hpt.symm, hops t ht⟩
        · rw [List.map_cons, waitingAt_eq_operator_iff.mpr hc]

namespace Places

variable {cs : List Char} {n p : Nat} {out stack above rest : List Nat} {o : Operator}

/-- What is stacked above an operator is what reading the text behind it leaves. -/
theorem reads_between (h : Places cs n out stack) (hstack : stack = above ++ p :: rest)
    (hp : cs[p]? = some o.symbol) :
    ∃ ts, Reads [] (between cs p n) ts (above.map (waitingAt cs)) := by
  induction h generalizing above rest with
  | start => simp at hstack
  | @blank n c out stack hbefore hc hblank ih =>
    obtain ⟨ts, hreads⟩ := ih hstack
    rw [between_succ (hbefore.lt_of_mem (.inr (by simp [hstack]))) hc]
    exact ⟨_, hreads.append (.single (.blank _ hblank))⟩
  | @operand n c out stack hbefore hc hoperand ih =>
    obtain ⟨ts, hreads⟩ := ih hstack
    rw [between_succ (hbefore.lt_of_mem (.inr (by simp [hstack]))) hc]
    exact ⟨_, hreads.append (.single (.operand _ hoperand))⟩
  | @openBracket n out stack hbefore hc ih =>
    cases above with
    | nil =>
      obtain ⟨rfl, -⟩ := List.cons.inj hstack
      rw [hc] at hp
      cases o <;> cases hp
    | cons q above =>
      obtain ⟨rfl, htail⟩ := List.cons.inj hstack
      obtain ⟨ts, hreads⟩ := ih htail
      rw [between_succ (hbefore.lt_of_mem (.inr (by simp [htail]))) hc, List.map_cons,
        waitingAt_of_openBracket hc]
      exact ⟨_, hreads.append (.single (.openBracket _))⟩
  | @closeBracket n b out ops rest' hbefore hc hops hb ih =>
    have hbelow : ops ++ b :: rest' = (ops ++ b :: above) ++ p :: rest := by simp [hstack]
    obtain ⟨ts, hreads⟩ := ih hbelow
    obtain ⟨os, hos, -⟩ := exists_map_operator hops
    rw [List.map_append, List.map_cons, hos, hb] at hreads
    rw [between_succ (hbefore.lt_of_mem (.inr (by simp [hstack]))) hc]
    exact ⟨_, hreads.append (.single (.closeBracket os _))⟩
  | @operator n q out ops rest' hbefore hc hops hholds ih =>
    cases above with
    | nil =>
      obtain ⟨rfl, -⟩ := List.cons.inj hstack
      rw [between_self_succ]
      exact ⟨[], .nil []⟩
    | cons m above =>
      obtain ⟨rfl, hrest⟩ := List.cons.inj hstack
      obtain rfl : rest' = above ++ p :: rest := hrest
      obtain ⟨ts, hreads⟩ := ih (List.append_assoc ops above (p :: rest)).symm
      obtain ⟨os, hos, hlooser, -⟩ := exists_map_tighter hops
      rw [List.map_append] at hholds hreads
      rw [hos] at hreads
      rw [between_succ (hbefore.lt_of_mem (.inr (by simp))) hc, List.map_cons,
        waitingAt_eq_operator_iff.mpr hc]
      exact ⟨_, hreads.append (.single (.operator hlooser hholds.of_append))⟩

/-- The stacked operators whose group a position belongs to are those above which no bracket
waits. -/
theorem sameGroup_iff (h : Places cs n out (above ++ p :: rest)) (hp : cs[p]? = some o.symbol) :
    SameGroup cs p n ↔ ∀ q ∈ above, waitingAt cs q ≠ .bracket := by
  obtain ⟨ts, hreads⟩ := h.reads_between rfl hp
  have hlt : p < n := h.lt_of_mem (.inr (by simp))
  rw [SameGroup, and_iff_right hlt, hreads.balanced_iff]
  simp [List.mem_map]

/-- An operator is put out when its group is closed or a looser operator of its group is read. -/
theorem outBy_of_mem_out (h : Places cs n out stack) (hp : p ∈ out) : OutBy cs p n := by
  induction h with
  | start => cases hp
  | blank _ _ _ ih => exact (ih hp).succ
  | openBracket _ _ ih => exact (ih hp).succ
  | @operand n c out stack _ hc hoperand ih =>
    rcases List.mem_append.mp hp with hp | hp
    · exact (ih hp).succ
    · obtain rfl : p = n := List.mem_singleton.mp hp
      exact .inl ⟨c, hc, hoperand⟩
  | @closeBracket n b out ops rest hbefore hc hops hb ih =>
    rcases List.mem_append.mp hp with hp | hp
    · exact (ih hp).succ
    · obtain ⟨o, ho⟩ := exists_operator_of_ne_bracket (hops p hp)
      obtain ⟨above, below, rfl⟩ := List.append_of_mem hp
      rw [List.append_assoc, List.cons_append] at hbefore
      have hsame : SameGroup cs p n := (hbefore.sameGroup_iff ho).mpr fun q hq =>
        hops q (List.mem_append_left _ hq)
      exact .inr ⟨n, Nat.lt_succ_self n, .inl ⟨hsame, hc⟩⟩
  | @operator n o out ops rest hbefore hc hops hrest ih =>
    rcases List.mem_append.mp hp with hp | hp
    · exact (ih hp).succ
    · obtain ⟨t, ht, hlt⟩ := hops p hp
      rw [waitingAt_eq_operator_iff] at ht
      obtain ⟨above, below, rfl⟩ := List.append_of_mem hp
      rw [List.append_assoc, List.cons_append] at hbefore
      have hsame : SameGroup cs p n := (hbefore.sameGroup_iff ht).mpr fun q hq hbracket => by
        obtain ⟨u, hu, -⟩ := hops q (List.mem_append_left _ hq)
        cases hu.symm.trans hbracket
      exact .inr ⟨n, Nat.lt_succ_self n, .inr ⟨hsame, t, o, ht, hc, hlt⟩⟩

/-- What waits is in the order that reading keeps. -/
theorem tightening (h : Places cs n out stack) :
    Waiting.Tightening (stack.map (waitingAt cs)) := by
  obtain ⟨ts, hreads, -⟩ := h.reads
  exact hreads.tightening List.isChain_nil

/-- No operator waits longer than that. -/
theorem not_released_of_mem_stack (h : Places cs n out stack) (hp : p ∈ stack)
    (ho : cs[p]? = some o.symbol) {j : Nat} (hj : j < n) : ¬ ReleasedAt cs p j := by
  -- the character read last makes the difference
  have hstep {m : Nat} (hbefore : j < m → ¬ ReleasedAt cs p j) (hlast : ¬ ReleasedAt cs p m)
      (hj : j < m + 1) : ¬ ReleasedAt cs p j := by
    by_cases hjm : j = m
    · exact hjm ▸ hlast
    · exact hbefore (by omega)
  induction h with
  | start => cases hp
  | @blank n c out stack _ hc hblank ih =>
    refine hstep (ih hp) (not_releasedAt_of_inert hc ?_ fun o => ?_) hj
    · rintro rfl
      exact absurd hblank (by decide)
    · rintro rfl
      simp [isBlank_symbol] at hblank
  | @operand n c out stack _ hc hoperand ih =>
    refine hstep (ih hp) (not_releasedAt_of_inert hc ?_ fun o => ?_) hj
    · rintro rfl
      exact absurd hoperand (by decide)
    · rintro rfl
      simp [isOperandChar_symbol] at hoperand
  | @openBracket n out stack _ hc ih =>
    rcases List.mem_cons.mp hp with rfl | hp
    · exact not_releasedAt_of_le (Nat.le_of_lt_succ hj)
    · refine hstep (ih hp) (not_releasedAt_of_inert hc (by decide) fun o => ?_) hj
      cases o <;> decide
  | @closeBracket n b out ops rest hbefore hc hops hb ih =>
    refine hstep (ih (by simp [hp])) (fun hreleased => ?_) hj
    -- the bracket that is closed waits above it
    obtain ⟨above, below, rfl⟩ := List.append_of_mem hp
    rw [← List.cons_append, ← List.append_assoc] at hbefore
    exact (hbefore.sameGroup_iff ho).mp hreleased.sameGroup b (by simp) hb
  | @operator n q out ops rest hbefore hc hops hholds ih =>
    rcases List.mem_cons.mp hp with rfl | hp
    · exact not_releasedAt_of_le (Nat.le_of_lt_succ hj)
    · refine hstep (ih (by simp [hp])) (fun hreleased => ?_) hj
      obtain ⟨above, below, rfl⟩ := List.append_of_mem hp
      have htight := hbefore.tightening
      rw [List.map_append] at htight
      rw [← List.append_assoc] at hbefore
      have hgroup := (hbefore.sameGroup_iff ho).mp hreleased.sameGroup
      -- the operator that is read is held by the whole group below
      have hle : q.looseness ≤ o.looseness :=
        le_looseness_of_holds (List.IsChain.right_of_append htight) ho
          (fun r hr => hgroup r (List.mem_append_right _ hr)) hholds
      rcases hreleased with ⟨-, hclose⟩ | ⟨-, o', q', ho', hq', hlt⟩
      · rw [hc] at hclose
        cases q <;> cases hclose
      · obtain rfl : o' = o := Operator.symbol_injective (Option.some.inj (ho'.symm.trans ho))
        obtain rfl : q' = q := Operator.symbol_injective (Option.some.inj (hq'.symm.trans hc))
        omega

/-- What waits is out only later. -/
theorem not_outBy_of_mem_stack (h : Places cs n out stack) (hp : p ∈ stack)
    (hwaits : waitingAt cs p ≠ .bracket) : ¬ OutBy cs p n := by
  obtain ⟨o, ho⟩ := exists_operator_of_ne_bracket hwaits
  rintro (⟨c, hc, hoperand⟩ | ⟨j, hj, hreleased⟩)
  · obtain rfl : c = o.symbol := Option.some.inj (hc.symm.trans ho)
    simp [isOperandChar_symbol] at hoperand
  · exact h.not_released_of_mem_stack hp ho hj hreleased

end Places

end Formulary
