import Formulary.Proofs.Expression.Refusal

/-!
# Nothing is lost between a text and its tokens

Reading a text moves its characters to an output and to a stack that is emptied in three places: at
a closing bracket, at an operator that binds looser, and at the end. What comes out is nevertheless
the operands and operators of the text, each as often as it occurs there, with the operands in their
order.
-/

namespace Formulary

section Characters

variable {c : Char} {cs : List Char}

/-- Operands are the letters and digits of ASCII. -/
theorem isOperandChar_eq_isAlphanum : isOperandChar = Char.isAlphanum := by
  funext c
  have hupper : c.isUpper = (decide ('A' ≤ c) && decide (c ≤ 'Z')) := Bool.decide_and _ _
  show _ = (c.isUpper || c.isLower || c.isDigit)
  rw [hupper]
  rfl

/-- The characters of a text that are neither blanks nor brackets, from left to right. -/
def tokenChars (cs : List Char) : List Char :=
  cs.filter fun c => !Text.isBlank c && c ≠ '(' && c ≠ ')'

/-- A blank or a bracket in front of a text has no token. -/
theorem tokenChars_cons_of_tokenless (hc : Tokenless c) :
    tokenChars (c :: cs) = tokenChars cs := by
  refine List.filter_cons_of_neg ?_
  rcases hc with hc | rfl | rfl <;> simp [*]

/-- Any other character in front of a text has one. -/
theorem tokenChars_cons_of_not_tokenless (hc : ¬ Tokenless c) :
    tokenChars (c :: cs) = c :: tokenChars cs := by
  refine List.filter_cons_of_pos ?_
  simpa [Tokenless, and_assoc] using hc

/-- No bracket has a token. -/
theorem bracket_notMem_tokenChars (hc : c = '(' ∨ c = ')') : c ∉ tokenChars cs := by
  intro hmem
  have hkept := (List.mem_filter.mp hmem).2
  rcases hc with rfl | rfl <;> simp at hkept

/-- The text of a token is the character that it is of. -/
theorem text_of_tokenOf? {token : Token} (h : tokenOf? c = some token) :
    token.text = String.singleton c := by
  unfold tokenOf? at h
  split at h
  · cases h
    rfl
  · next o hsymbol =>
    cases h
    rw [Symbol.ofChar_eq_operator_iff.mp hsymbol]
    rfl
  · cases h

/-- The tokens of a text without illegal characters are its characters, blanks and brackets left
out. -/
theorem text_textTokens (hcs : ∀ c ∈ cs, Legal c) :
    (textTokens cs).map Token.text = (tokenChars cs).map String.singleton := by
  induction cs with
  | nil => rfl
  | cons c cs ih =>
    obtain ⟨hc, hcs⟩ := List.forall_mem_cons.mp hcs
    by_cases htokenless : Tokenless c
    · have hnone := (tokenOf?_eq_none_iff hc).mpr htokenless
      rw [tokenChars_cons_of_tokenless htokenless, ← ih hcs]
      simp [textTokens, hnone]
    · obtain ⟨token, htoken⟩ :=
        Option.ne_none_iff_exists'.mp (mt (tokenOf?_eq_none_iff hc).mp htokenless)
      rw [tokenChars_cons_of_not_tokenless htokenless, List.map_cons, ← ih hcs,
        ← text_of_tokenOf? htoken]
      simp [textTokens, htoken]

end Characters

namespace Token

/-- The operator that a token is, if it is one. -/
def operator? : Token → Option Operator
  | operator o => some o
  | operand _ => none

/-- The operators among tokens, from first to last. -/
def operators (ts : List Token) : List Operator :=
  ts.filterMap operator?

@[simp]
theorem operators_cons_operand (name : String) (ts : List Token) :
    operators (.operand name :: ts) = operators ts := rfl

@[simp]
theorem operators_cons_operator (o : Operator) (ts : List Token) :
    operators (.operator o :: ts) = o :: operators ts := rfl

end Token

section Counting

/-- What two lists of tokens leave at hand adds up. -/
theorem atHand_append (ts us : List Token) : atHand (ts ++ us) = atHand ts + atHand us := by
  induction ts with
  | nil => simp [atHand]
  | cons token ts ih =>
    cases token <;> rw [List.cons_append, atHand, atHand, ih] <;> omega

/-- The values at hand are the operands less the operators. -/
theorem atHand_eq (ts : List Token) :
    atHand ts = (Token.names ts).length - (Token.operators ts).length := by
  induction ts with
  | nil => rfl
  | cons token ts ih =>
    cases token with
    | operand name =>
      rw [atHand, ih, Token.names_cons_operand, Token.operators_cons_operand, List.length_cons]
      omega
    | operator o =>
      rw [atHand, ih, Token.names_cons_operator, Token.operators_cons_operator, List.length_cons]
      omega

variable {t : Tree} {before : List Token}

/-- The postorder of a tree leaves one value. -/
theorem Tree.atHand_tokens (t : Tree) : atHand t.tokens = 1 := by
  induction t with
  | leaf name => rfl
  | node o left right ihl ihr =>
    rw [Tree.tokens, atHand_append, atHand_append, ihl, ihr]
    rfl

/-- Every beginning of a postorder leaves a value at hand: an operator only comes when its two
trees are complete. -/
theorem Tree.atHand_pos_of_prefix (hne : before ≠ []) (h : before <+: t.tokens) :
    0 < atHand before := by
  induction t generalizing before with
  | leaf name =>
    rcases List.prefix_cons_iff.mp h with hnil | ⟨rest, rfl, hrest⟩
    · exact absurd hnil hne
    · rw [List.prefix_nil.mp hrest]
      exact Int.one_pos
  | node o left right ihl ihr =>
    rw [Tree.tokens] at h
    rcases List.prefix_concat_iff.mp h with rfl | h
    · have hwhole := (Tree.node o left right).atHand_tokens
      rw [Tree.tokens] at hwhole
      omega
    · rcases List.prefix_or_prefix_of_prefix h (List.prefix_append _ _) with hleft | ⟨mid, rfl⟩
      · exact ihl hne hleft
      · -- the left tree is complete and leaves one value
        have hright : mid <+: right.tokens := (List.prefix_append_right_inj _).mp h
        rw [atHand_append, left.atHand_tokens]
        by_cases hmid : mid = []
        · rw [hmid]
          exact Int.one_pos
        · have hpos := ihr hmid hright
          omega

end Counting

namespace Formula

variable {text : String} {f : Formula}

/-- The tokens of an accepted text are its characters without blanks and brackets, each as often as
it occurs. The operands among them are the letters and digits of the text in their order, and there
is one operator less. Every beginning of the tokens has more operands than operators. -/
theorem tokens_conserved (hf : parse text = .ok f) :
    (f.tokens.map Token.text).Perm ((tokenChars text.toList).map String.singleton) ∧
    "(" ∉ f.tokens.map Token.text ∧ ")" ∉ f.tokens.map Token.text ∧
    Token.names f.tokens = f.names ∧
    f.names = (text.toList.filter Char.isAlphanum).map String.singleton ∧
    (Token.operators f.tokens).length + 1 = f.names.length ∧
    ∀ before, before ≠ [] → before <+: f.tokens →
      (Token.operators before).length < (Token.names before).length := by
  obtain ⟨t, hscan, rfl⟩ := parse_eq_ok_iff.mp hf
  have hlegal : ∀ c ∈ text.toList, Legal c :=
    fun c hc => (exists_scan_iff_balanced.mp ⟨_, hscan⟩).1.legal hc
  have hperm : (t.tokens.map Token.text).Perm ((tokenChars text.toList).map String.singleton) :=
    text_textTokens hlegal ▸ (scan_perm hscan).map Token.text
  have hbracket : ∀ c, c = '(' ∨ c = ')' → String.singleton c ∉ t.tokens.map Token.text := by
    intro c hc hmem
    obtain ⟨d, hd, heq⟩ := List.mem_map.mp (hperm.mem_iff.mp hmem)
    obtain rfl : d = c := by simpa using heq
    exact bracket_notMem_tokenChars hc hd
  have hoperands : t.names = (text.toList.filter Char.isAlphanum).map String.singleton := by
    rw [← Tree.names_tokens, names_of_scan hscan, operands, isOperandChar_eq_isAlphanum]
  refine ⟨hperm, hbracket '(' (.inl rfl), hbracket ')' (.inr rfl), t.names_tokens, hoperands, ?_,
    fun before hne hbefore => ?_⟩
  · have hwhole := t.atHand_tokens
    rw [atHand_eq, Tree.names_tokens] at hwhole
    show (Token.operators t.tokens).length + 1 = t.names.length
    omega
  · have hpos := Tree.atHand_pos_of_prefix hne hbefore
    rw [atHand_eq] at hpos
    omega

/-- A text with a wide blank and a group keeps its five tokens and no bracket. -/
theorem tokens_conserved_untidy :
    ∃ f, parse "(a\u2003b+) * 7" = .ok f ∧
      (f.tokens.map Token.text).Perm (["a", "b", "+", "*", "7"]) ∧ f.names = ["a", "b", "7"] ∧
      Token.names f.tokens = f.names ∧ (Token.operators f.tokens).length + 1 = f.names.length ∧
      [.operand "a", .operand "b", .operator .plus] <+: f.tokens := by
  obtain ⟨hperm, -, -, hnames, hoperands, hcount, -⟩ :=
    @tokens_conserved "(a\u2003b+) * 7" _ rfl
  exact ⟨_, rfl, hperm, hoperands, hnames, hcount, by decide⟩

end Formula

end Formulary
