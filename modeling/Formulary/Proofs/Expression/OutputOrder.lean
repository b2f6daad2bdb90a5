import Formulary.Proofs.Expression.Positions

/-!
# The order of the output

Where the token of a character ends up can be told from the text alone. An operand comes before all
that follows it. An operator comes before a later token exactly if its bracket group is closed
before that token, or if a looser operator of its own group stands before it or is that token.
-/

namespace Formulary

/-! ## The rule -/

section Rule

variable (cs : List Char)

/-- When the token at `i` comes before the token at the later position `k`. -/
def ComesFirst (i k : Nat) : Prop :=
  (∃ c, cs[i]? = some c ∧ isOperandChar c = true) ∨ (∃ j < k, ClosedAt cs i j) ∨
    ∃ j ≤ k, LooserAt cs i j

/-- The positions of all operands and operators, each once, in an order that obeys the rule. -/
structure OutputOrder (order : List Nat) : Prop where
  nodup : order.Nodup
  mem_iff : ∀ i, i ∈ order ↔ ∃ c, cs[i]? = some c ∧ ¬ Tokenless c
  before_iff : ∀ i ∈ order, ∀ k ∈ order, i < k →
    (order.idxOf i < order.idxOf k ↔ ComesFirst cs i k)

/-- The rule as a relation between any two positions. -/
def Precedes (i k : Nat) : Prop :=
  (i < k ∧ ComesFirst cs i k) ∨ (k < i ∧ ¬ ComesFirst cs k i)

end Rule

/-- Operands have tokens. -/
theorem not_tokenless_of_isOperandChar {c : Char} (h : isOperandChar c = true) : ¬ Tokenless c := by
  rintro (hblank | rfl | rfl)
  · simp [isBlank_eq_false_of_isOperandChar h] at hblank
  · exact absurd h (by decide)
  · exact absurd h (by decide)

/-- Operators have tokens. -/
theorem not_tokenless_symbol (o : Operator) : ¬ Tokenless o.symbol := by
  unfold Tokenless
  cases o <;> decide

section Rule

variable {cs : List Char} {i k : Nat} {c : Char}

/-- What comes before an operand or an operator is what is out once that is read. -/
theorem comesFirst_iff (hk : cs[k]? = some c) (hc : ¬ Tokenless c) :
    ComesFirst cs i k ↔ OutBy cs i (k + 1) := by
  refine or_congr_right ⟨?_, ?_⟩
  · rintro (⟨j, hj, hclosed⟩ | ⟨j, hj, hlooser⟩)
    · exact ⟨j, Nat.lt_succ_of_lt hj, .inl hclosed⟩
    · exact ⟨j, Nat.lt_succ_of_le hj, .inr hlooser⟩
  · rintro ⟨j, hj, hclosed | hlooser⟩
    · -- a closing bracket is not what is at `k`
      have hne : j ≠ k := by
        rintro rfl
        obtain rfl : c = ')' := Option.some.inj (hk.symm.trans hclosed.2)
        exact hc (.inr (.inr rfl))
      exact .inl ⟨j, by omega, hclosed⟩
    · exact .inr ⟨j, Nat.le_of_lt_succ hj, hlooser⟩

/-- Of two positions at most one precedes the other. -/
theorem Precedes.asymm (h : Precedes cs i k) : ¬ Precedes cs k i := by
  rintro (⟨hki, hfirst⟩ | ⟨hik, hfirst⟩) <;> rcases h with ⟨hlt, h⟩ | ⟨hlt, h⟩
  · omega
  · exact h hfirst
  · exact hfirst h
  · omega

theorem Precedes.ne (h : Precedes cs i k) : i ≠ k := by
  rintro rfl
  exact h.asymm h

/-- For an earlier and a later position, preceding is what the rule says. -/
theorem precedes_iff_of_lt (h : i < k) : Precedes cs i k ↔ ComesFirst cs i k := by
  have hnot : ¬ k < i := Nat.not_lt.mpr (Nat.le_of_lt h)
  simp [Precedes, h, hnot]

/-- In a list that is ordered by the rule, the first of two positions is the one that precedes the
other. -/
theorem idxOf_lt_idxOf_iff {order : List Nat} (h : order.Pairwise (Precedes cs)) (hi : i ∈ order)
    (hk : k ∈ order) (hne : i ≠ k) : order.idxOf i < order.idxOf k ↔ Precedes cs i k := by
  have hordered {a b : Nat} (ha : a ∈ order) (hb : b ∈ order)
      (hlt : order.idxOf a < order.idxOf b) : Precedes cs a b := by
    have hget := List.pairwise_iff_getElem.mp h _ _ (List.idxOf_lt_length_iff.mpr ha)
      (List.idxOf_lt_length_iff.mpr hb) hlt
    rwa [List.getElem_idxOf, List.getElem_idxOf] at hget
  refine ⟨hordered hi hk, fun hprecedes => ?_⟩
  rcases Nat.lt_trichotomy (order.idxOf i) (order.idxOf k) with hlt | heq | hgt
  · exact hlt
  · exact absurd ((List.idxOf_inj hi).mp heq) hne
  · exact absurd (hordered hk hi hgt) hprecedes.asymm

/-- In an order that obeys the rule, every position precedes those that come after it. -/
theorem OutputOrder.pairwise {order : List Nat} (h : OutputOrder cs order) :
    order.Pairwise (Precedes cs) := by
  rw [List.pairwise_iff_getElem]
  intro a b ha hb hab
  have hidx {c : Nat} (hc : c < order.length) : order.idxOf order[c] = c :=
    h.nodup.idxOf_getElem c hc
  rcases Nat.lt_trichotomy order[a] order[b] with hlt | heq | hgt
  · refine .inl ⟨hlt, (h.before_iff _ (List.getElem_mem ha) _ (List.getElem_mem hb) hlt).mp ?_⟩
    rwa [hidx ha, hidx hb]
  · have hsame := congrArg order.idxOf heq
    rw [hidx ha, hidx hb] at hsame
    omega
  · refine .inr ⟨hgt, fun hfirst => ?_⟩
    have hlt := (h.before_iff _ (List.getElem_mem hb) _ (List.getElem_mem ha) hgt).mpr hfirst
    rw [hidx ha, hidx hb] at hlt
    omega

/-- The rule leaves no choice. -/
theorem OutputOrder.unique {order other : List Nat} (h : OutputOrder cs order)
    (h' : OutputOrder cs other) : other = order := by
  have hperm : other.Perm order := by
    rw [List.perm_ext_iff_of_nodup h'.nodup h.nodup]
    intro p
    rw [h'.mem_iff, h.mem_iff]
  refine List.Perm.eq_of_pairwise (fun a b _ _ hab hba => ?_) h'.pairwise h.pairwise hperm
  exact absurd hba hab.asymm

end Rule

/-- The positions of the operators that wait, from the top of the stack to its bottom. -/
def waitingOperators (cs : List Char) (stack : List Nat) : List Nat :=
  stack.filter fun p => waitingAt cs p ≠ .bracket

/-- Where no bracket waits, everything that waits is an operator. -/
theorem waitingOperators_of_ne_bracket {cs : List Char} {stack : List Nat}
    (h : ∀ p ∈ stack, waitingAt cs p ≠ .bracket) : waitingOperators cs stack = stack :=
  List.filter_eq_self.mpr fun p hp => decide_eq_true (h p hp)

theorem waitingOperators_append (cs : List Char) (stack below : List Nat) :
    waitingOperators cs (stack ++ below) =
      waitingOperators cs stack ++ waitingOperators cs below :=
  List.filter_append ..

/-- A bracket that waits is none of them. -/
theorem waitingOperators_cons_of_bracket {cs : List Char} {p : Nat}
    (h : waitingAt cs p = .bracket) (stack : List Nat) :
    waitingOperators cs (p :: stack) = waitingOperators cs stack :=
  List.filter_cons_of_neg (by simp [h])

/-- The operands and operators read so far, in the order in which they would come out if the text
ended there. -/
def arrangement (cs : List Char) (out stack : List Nat) : List Nat :=
  out ++ waitingOperators cs stack

namespace Places

variable {cs : List Char} {n p : Nat} {out stack : List Nat}

/-- A blank or a bracket leaves the arrangement as it is. Any other character is inserted behind all
that is put out by then and in front of all that waits. -/
theorem exists_arrangement (h : Places cs (n + 1) out stack) :
    ∃ out' stack' c, Places cs n out' stack' ∧ cs[n]? = some c ∧
      ((Tokenless c ∧ arrangement cs out stack = arrangement cs out' stack') ∨
        ∃ before behind, ¬ Tokenless c ∧ arrangement cs out' stack' = before ++ behind ∧
          arrangement cs out stack = before ++ n :: behind ∧ (∀ i ∈ before, i ∈ out) ∧
          ∀ i ∈ behind, i ∈ stack ∧ waitingAt cs i ≠ .bracket) := by
  cases h with
  | blank hbefore hc hblank => exact ⟨_, _, _, hbefore, hc, .inl ⟨.inl hblank, rfl⟩⟩
  | @operand _ c out' stack' hbefore hc hoperand =>
    refine ⟨_, _, _, hbefore, hc, .inr ⟨out', waitingOperators cs stack,
      not_tokenless_of_isOperandChar hoperand, rfl, ?_, ?_, ?_⟩⟩
    · rw [arrangement, List.append_assoc, List.singleton_append]
    · exact fun i hi => List.mem_append_left _ hi
    · simp [waitingOperators]
  | openBracket hbefore hc =>
    refine ⟨_, _, _, hbefore, hc, .inl ⟨.inr (.inl rfl), ?_⟩⟩
    rw [arrangement, waitingOperators_cons_of_bracket (waitingAt_of_openBracket hc), arrangement]
  | @closeBracket _ b out' ops rest hbefore hc hops hb =>
    refine ⟨_, _, _, hbefore, hc, .inl ⟨.inr (.inr rfl), ?_⟩⟩
    rw [arrangement, arrangement, waitingOperators_append, waitingOperators_of_ne_bracket hops,
      waitingOperators_cons_of_bracket hb, List.append_assoc]
  | @operator _ o out' ops rest hbefore hc hops hholds =>
    have hoperators : ∀ p ∈ ops, waitingAt cs p ≠ .bracket := by
      intro p hp hbracket
      obtain ⟨t, ht, -⟩ := hops p hp
      cases ht.symm.trans hbracket
    have hnew : waitingOperators cs (n :: rest) = n :: waitingOperators cs rest :=
      List.filter_cons_of_pos (by simp [waitingAt_eq_operator_iff.mpr hc])
    refine ⟨_, _, _, hbefore, hc, .inr ⟨out' ++ ops, waitingOperators cs rest,
      not_tokenless_symbol o, ?_, ?_, fun i hi => hi, ?_⟩⟩
    · rw [arrangement, waitingOperators_append, waitingOperators_of_ne_bracket hoperators,
        ← List.append_assoc]
    · rw [arrangement, hnew]
    · simp +contextual [waitingOperators]

/-- The operands and operators among the first characters are arranged, and nothing else is. -/
theorem mem_arrangement_iff (h : Places cs n out stack) :
    p ∈ arrangement cs out stack ↔ p < n ∧ ∃ c, cs[p]? = some c ∧ ¬ Tokenless c := by
  induction n generalizing out stack with
  | zero =>
    cases h
    simp [arrangement, waitingOperators]
  | succ n ih =>
    obtain ⟨out', stack', c, hbefore, hc, harranged⟩ := h.exists_arrangement
    rcases harranged with ⟨htokenless, hsame⟩ | ⟨before, behind, htoken, hold, hnew, -, -⟩
    · rw [hsame, ih hbefore, Nat.lt_succ_iff_lt_or_eq]
      grind
    · have hmem : p ∈ before ++ n :: behind ↔ p = n ∨ p ∈ before ++ behind := by
        simp only [List.mem_append, List.mem_cons]
        tauto
      rw [hnew, hmem, ← hold, ih hbefore, Nat.lt_succ_iff_lt_or_eq]
      grind

/-- At every time, what is read so far is arranged by the rule. -/
theorem pairwise_arrangement (h : Places cs n out stack) :
    (arrangement cs out stack).Pairwise (Precedes cs) := by
  induction n generalizing out stack with
  | zero =>
    cases h
    exact List.Pairwise.nil
  | succ n ih =>
    obtain ⟨out', stack', c, hbefore, hc, harranged⟩ := h.exists_arrangement
    rcases harranged with ⟨-, hsame⟩ | ⟨before, behind, htoken, hold, hnew, hout, hstack⟩
    · rw [hsame]
      exact ih hbefore
    · have hearlier : ∀ i ∈ before ++ behind, i < n := by
        intro i hi
        exact ((mem_arrangement_iff hbefore).mp (hold ▸ hi)).1
      have hpairs := ih hbefore
      rw [hold, List.pairwise_append] at hpairs
      obtain ⟨hpairs, hpairs', hacross⟩ := hpairs
      -- all that is out comes before the new token, and all that waits comes after it
      have hfirst : ∀ i ∈ before, Precedes cs i n := by
        intro i hi
        rw [precedes_iff_of_lt (hearlier i (List.mem_append_left _ hi)), comesFirst_iff hc htoken]
        exact h.outBy_of_mem_out (hout i hi)
      have hlast : ∀ i ∈ behind, Precedes cs n i := by
        intro i hi
        refine .inr ⟨hearlier i (List.mem_append_right _ hi), fun hcomes => ?_⟩
        obtain ⟨hmem, hwaits⟩ := hstack i hi
        exact h.not_outBy_of_mem_stack hmem hwaits ((comesFirst_iff hc htoken).mp hcomes)
      rw [hnew, List.pairwise_append, List.pairwise_cons]
      refine ⟨hpairs, ⟨hlast, hpairs'⟩, fun i hi k hk => ?_⟩
      rcases List.mem_cons.mp hk with rfl | hk
      · exact hfirst i hi
      · exact hacross i hi k hk

/-- The arrangement of a whole text obeys the rule. -/
theorem outputOrder (h : Places cs cs.length out stack) :
    OutputOrder cs (arrangement cs out stack) := by
  have hpairs := h.pairwise_arrangement
  refine ⟨hpairs.imp Precedes.ne, fun i => ?_, fun i hi k hk hlt => ?_⟩
  · rw [h.mem_arrangement_iff, and_iff_right_iff_imp]
    rintro ⟨c, hc, -⟩
    exact (List.getElem?_eq_some_iff.mp hc).1
  · rw [idxOf_lt_idxOf_iff hpairs hi hk (Nat.ne_of_lt hlt), precedes_iff_of_lt hlt]

end Places

/-- Every text without illegal characters whose brackets are balanced scans to its operands and
operators in the one order that the rule allows, whether they form an expression or not. All the
while, what waits between brackets gets no looser towards the top of the stack. -/
theorem scan_order_unique {cs : List Char} (h : Balanced cs) :
    (∃ order ts, scan 0 [] cs = .ok ts ∧ order.map (tokenAt? cs) = ts.map some ∧
      OutputOrder cs order ∧ ∀ other, OutputOrder cs other → other = order) ∧
    ∀ n out stack, Reads [] (cs.take n) out stack → Waiting.Tightening stack := by
  refine ⟨?_, fun n out stack hreads => hreads.tightening List.isChain_nil⟩
  obtain ⟨ts, st, hreads⟩ := h.1.exists_reads
  rw [← List.take_length (l := cs)] at hreads
  obtain ⟨out, stack, hplaces, -⟩ := hreads.exists_places (Nat.le_refl _)
  obtain ⟨ts, hreads, hts⟩ := hplaces.reads
  rw [List.take_length] at hreads
  have hclosed : ∀ p ∈ stack, waitingAt cs p ≠ .bracket := by
    intro p hp hbracket
    exact hreads.balanced_iff.mp h (hbracket ▸ List.mem_map_of_mem hp)
  obtain ⟨ops, hops, htokens⟩ := exists_map_operator hclosed
  have harranged : arrangement cs out stack = out ++ stack := by
    rw [arrangement, waitingOperators_of_ne_bracket hclosed]
  refine ⟨out ++ stack, ts ++ operatorTokens ops, ?_, ?_, harranged ▸ hplaces.outputOrder, ?_⟩
  · exact scan_eq_ok_iff.mpr ⟨ts, ops, hops ▸ hreads, rfl⟩
  · rw [List.map_append, List.map_append, hts, htokens]
  · exact fun other hother => (harranged ▸ hplaces.outputOrder).unique hother

/-- The product lacks an operand and no operator stands in front of `c`, so no expression is read
from this text. Its order is settled all the same. -/
theorem scan_order_unique_no_expression :
    Balanced " (a-b*)c+\td^e".toList ∧
      ∃ order, OutputOrder " (a-b*)c+\td^e".toList order ∧
        order.map (tokenAt? " (a-b*)c+\td^e".toList) =
          ["a", "b", "*", "-", "c", "d", "e", "^", "+"].map (some ∘ Token.ofText) ∧
        ∀ other, OutputOrder " (a-b*)c+\td^e".toList other → other = order := by
  have hbalanced : Balanced " (a-b*)c+\td^e".toList := exists_scan_iff_balanced.mp ⟨_, rfl⟩
  obtain ⟨⟨order, ts, hscan, htokens, horder, hunique⟩, -⟩ := scan_order_unique hbalanced
  cases hscan
  exact ⟨hbalanced, order, horder, htokens, hunique⟩

end Formulary
