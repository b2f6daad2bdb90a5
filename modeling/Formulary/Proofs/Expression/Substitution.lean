import Formulary.Proofs.Expression.Agreement

/-!
# Substituting an expression for an operand

An accepted text may stand in brackets wherever an operand stands in another one. What waits while
the operand is read waits below the bracket and is not touched, so the tokens of the inner text take
the place of the operand's token, and nothing else changes. The value changes as if the operand were
bound to the value of the inner text.
-/

namespace Formulary

/-- Where a list is taken apart in two ways, an element of the second is in either part of the
first. -/
theorem append_eq_append_cons {α : Type} {xs ys before after : List α} {x : α}
    (h : xs ++ ys = before ++ x :: after) :
    (∃ mid, xs = before ++ x :: mid ∧ after = mid ++ ys) ∨
      ∃ mid, before = xs ++ mid ∧ ys = mid ++ x :: after := by
  rcases List.append_eq_append_iff.mp h with ⟨mid, hbefore, hys⟩ | ⟨mid, hxs, hafter⟩
  · exact .inr ⟨mid, hbefore, hys⟩
  · rcases List.cons_eq_append_iff.mp hafter with ⟨rfl, hys⟩ | ⟨mid, rfl, hafter⟩
    · exact .inr ⟨[], by simpa using hxs.symm, hys⟩
    · exact .inl ⟨mid, hxs, (List.cons.inj hafter).2⟩

namespace Tree

/-- A tree with a hole at one of its leaves. -/
inductive Context
  | hole
  | inLeft (o : Operator) (c : Context) (right : Tree)
  | inRight (o : Operator) (left : Tree) (c : Context)

namespace Context

/-- The tree with another one in the hole. -/
def fill : Context → Tree → Tree
  | hole, t => t
  | inLeft o c right, t => node o (c.fill t) right
  | inRight o left c, t => node o left (c.fill t)

/-- The tokens that come before those in the hole. -/
def before : Context → List Token
  | hole => []
  | inLeft _ c _ => c.before
  | inRight _ left c => left.tokens ++ c.before

/-- The tokens that come after those in the hole. -/
def after : Context → List Token
  | hole => []
  | inLeft o c right => c.after ++ (right.tokens ++ [.operator o])
  | inRight o _ c => c.after ++ [.operator o]

/-- The tokens of what fills the hole stand between those of the context. -/
theorem tokens_fill (c : Context) (t : Tree) :
    (c.fill t).tokens = c.before ++ t.tokens ++ c.after := by
  induction c with
  | hole => exact (List.append_nil _).symm
  | inLeft o c right ih => simp only [fill, before, after, tokens, ih, List.append_assoc]
  | inRight o left c ih => simp only [fill, before, after, tokens, ih, List.append_assoc]

/-- The names of what fills the hole stand between those of the context. -/
theorem names_fill (c : Context) (t : Tree) :
    (c.fill t).names = Token.names c.before ++ t.names ++ Token.names c.after := by
  rw [← names_tokens, tokens_fill, Token.names_append, Token.names_append, names_tokens]

variable {c : Context} {s t : Tree} {b b' : Bindings}

/-- The value depends on what fills the hole through its value only, and otherwise on the names
beside the hole. -/
theorem value_fill_congr (hvalue : s.value b = t.value b')
    (hagree : b.AgreeOn (Token.names c.before ++ Token.names c.after) b') :
    (c.fill s).value b = (c.fill t).value b' := by
  induction c with
  | hole => exact hvalue
  | inLeft o c right ih =>
    have hnames : Token.names (inLeft o c right).after = Token.names c.after ++ right.names := by
      rw [after, Token.names_append, Token.names_append, names_tokens]
      exact congrArg _ (List.append_nil _)
    rw [hnames] at hagree
    have hpart := ih (hagree.subset fun name hname => by
      rw [before, ← List.append_assoc]
      exact List.mem_append_left _ hname)
    have hright : right.value b = right.value b' :=
      value_congr (hagree.subset fun name hname => by simp [hname])
    simp only [fill, value, hpart, hright]
  | inRight o left c ih =>
    have hnames : Token.names (inRight o left c).before = left.names ++ Token.names c.before := by
      rw [before, Token.names_append, names_tokens]
    have hnames' : Token.names (inRight o left c).after = Token.names c.after := by
      rw [after, Token.names_append]
      exact List.append_nil _
    rw [hnames, hnames', List.append_assoc] at hagree
    have hleft : left.value b = left.value b' :=
      value_congr (hagree.subset fun name hname => List.mem_append_left _ hname)
    have hpart := ih (hagree.subset fun name hname => List.mem_append_right _ hname)
    simp only [fill, value, hleft, hpart]

end Context

/-- Every operand among the tokens of a tree is the leaf of a context. -/
theorem exists_context {t : Tree} {before after : List Token} {name : String}
    (h : t.tokens = before ++ .operand name :: after) :
    ∃ c : Context, t = c.fill (leaf name) ∧ c.before = before ∧ c.after = after := by
  induction t generalizing before after with
  | leaf n =>
    rcases List.singleton_eq_append_iff.mp h with ⟨rfl, hone⟩ | ⟨-, hnil⟩
    · obtain ⟨hname, rfl⟩ := List.cons.inj hone
      obtain rfl := Token.operand.inj hname
      exact ⟨.hole, rfl, rfl, rfl⟩
    · cases hnil
  | node o left right ihl ihr =>
    rw [tokens, List.append_assoc] at h
    rcases append_eq_append_cons h with ⟨mid, hleft, rfl⟩ | ⟨mid, rfl, hrest⟩
    · obtain ⟨c, rfl, rfl, rfl⟩ := ihl hleft
      exact ⟨.inLeft o c right, rfl, rfl, rfl⟩
    · rcases append_eq_append_cons hrest with ⟨mid', hright, rfl⟩ | ⟨mid', -, hlast⟩
      · obtain ⟨c, rfl, rfl, rfl⟩ := ihr hright
        exact ⟨.inRight o left c, rfl, rfl, rfl⟩
      · -- the last token is the operator
        rcases List.singleton_eq_append_iff.mp hlast with ⟨-, hone⟩ | ⟨-, hnil⟩
        · cases hone
        · cases hnil

end Tree

/-- The text with another one, in brackets, in place of the character at position `i`. -/
def substituteAt (text : String) (i : Nat) (inner : String) : String :=
  String.ofList
    (text.toList.take i ++ ('(' :: inner.toList ++ [')']) ++ text.toList.drop (i + 1))

/-- An operand of a text that scans puts its own token between what is put out before it and what is
put out after it. Any text that scans by itself may stand there in brackets instead, and puts its
tokens in the same place. -/
theorem exists_tokens_around {pre post : List Char} {x : Char} {ts : List Token}
    (h : scan 0 [] (pre ++ x :: post) = .ok ts) (hx : isOperandChar x = true) :
    ∃ before after, (∃ stack, Reads [] pre before stack) ∧ Token.names after = operands post ∧
      ts = before ++ operandToken x :: after ∧
      ∀ inner us, scan 0 [] inner = .ok us →
        scan 0 [] (pre ++ ('(' :: inner ++ [')']) ++ post) = .ok (before ++ us ++ after) := by
  obtain ⟨out, ops, hreads, rfl⟩ := scan_eq_ok_iff.mp h
  obtain ⟨before, stack, second, hpre, hsecond, rfl⟩ := hreads.exists_of_append
  cases hsecond with
  | @cons _ _ token rest _ mid _ hstep hpost =>
    obtain ⟨rfl, rfl⟩ := hstep.of_isOperandChar hx
    refine ⟨before, rest ++ operatorTokens ops, ⟨_, hpre⟩, ?_, by simp, ?_⟩
    · rw [Token.names_append, hpost.names_eq, Token.names_operatorTokens, List.append_nil]
    · intro inner us hinner
      obtain ⟨first, pending, hfirst, rfl⟩ := scan_eq_ok_iff.mp hinner
      have hgroup := (hpre.append (hfirst.bracketed _)).append hpost
      exact scan_eq_ok_iff.mpr ⟨_, ops, hgroup, by simp⟩

/-- The operand is a leaf of the text's tree, and the tree of the inner text comes in its place. -/
theorem exists_context_of_scan {pre post : List Char} {x : Char} {t : Tree}
    (h : scan 0 [] (pre ++ x :: post) = .ok t.tokens) (hx : isOperandChar x = true) :
    ∃ c : Tree.Context, t = c.fill (.leaf (String.singleton x)) ∧
      (∃ stack, Reads [] pre c.before stack) ∧ Token.names c.after = operands post ∧
      ∀ inner s, scan 0 [] inner = .ok (Tree.tokens s) →
        scan 0 [] (pre ++ ('(' :: inner ++ [')']) ++ post) = .ok (c.fill s).tokens := by
  obtain ⟨before, after, hbefore, hafter, htokens, hsubst⟩ := exists_tokens_around h hx
  obtain ⟨c, rfl, rfl, rfl⟩ := Tree.exists_context htokens
  refine ⟨c, rfl, hbefore, hafter, fun inner s hs => ?_⟩
  rw [Tree.Context.tokens_fill]
  exact hsubst inner s.tokens hs

/-- The operands of a text are its operand characters. -/
theorem singleton_mem_operands {x : Char} {cs : List Char} :
    String.singleton x ∈ operands cs ↔ x ∈ cs ∧ isOperandChar x = true := by
  simp [operands]

/-- An expression with a value has all its names bound, and the value is that of its tree. -/
theorem Tree.formula_value_eq_ok_iff {t : Tree} {text : String} {b : Bindings} {v : Number} :
    (t.formula text).value b = .ok v ↔ firstUnbound? b t.names = none ∧ t.value b = .ok v := by
  rw [Tree.formula_value]
  cases firstUnbound? b t.names <;> simp

/-- An expression in place of an operand that occurs once gives the value that the operand gives
when it is bound to the value of the expression. -/
theorem Tree.Context.formula_value_fill {c : Context} {s : Tree} {b : Bindings} {name : String}
    {v : Number} {inner : String} (hs : (s.formula inner).value b = .ok v)
    (hbeside : ∀ n ∈ Token.names c.before ++ Token.names c.after, n ≠ name ∧ (b.value? n).isSome)
    (text text' : String) :
    ((c.fill s).formula text').value b =
        ((c.fill (leaf name)).formula text).value (b.bind name v) ∧
      firstUnbound? b (c.fill s).names = none := by
  obtain ⟨hunbound, hvalue⟩ := Tree.formula_value_eq_ok_iff.mp hs
  have hagree : b.AgreeOn (Token.names c.before ++ Token.names c.after) (b.bind name v) :=
    fun n hn => (Bindings.value?_bind_of_ne b v (hbeside n hn).1).symm
  have hleaf : s.value b = (leaf name).value (b.bind name v) := by
    rw [hvalue, Tree.value, Bindings.value?_bind_self]
  have hinner : firstUnbound? b (c.fill s).names = none := by
    refine firstUnbound?_eq_none_iff.mpr fun n hn => ?_
    rw [names_fill] at hn
    rcases List.mem_append.mp hn with hn | hn
    · rcases List.mem_append.mp hn with hn | hn
      · exact (hbeside n (List.mem_append_left _ hn)).2
      · exact firstUnbound?_eq_none_iff.mp hunbound n hn
    · exact (hbeside n (List.mem_append_right _ hn)).2
  have houter : firstUnbound? (b.bind name v) (c.fill (leaf name)).names = none := by
    refine firstUnbound?_eq_none_iff.mpr fun n hn => ?_
    by_cases hname : n = name
    · rw [hname, Bindings.value?_bind_self]
      rfl
    · rw [Bindings.value?_bind_of_ne b v hname]
      rw [names_fill, List.mem_append, List.mem_append] at hn
      refine (hbeside n ?_).2
      simpa [Tree.names, hname] using hn
  rw [Tree.formula_value, Tree.formula_value, hinner, houter]
  exact ⟨value_fill_congr hleaf hagree, rfl⟩

namespace Formula

variable {text inner : String} {f g : Formula} {i : Nat} {x : Char}

/-- An accepted text stays one when another accepted text, in brackets, takes the place of one of
its operands. The tokens of the inner text take the place of the token that the operand puts out,
after those that are put out before the operand is read, and its names that of the operand. If the
operand occurs nowhere else, the value is the one with the operand bound to the value of the inner
text. -/
theorem parse_substituteAt (hf : parse text = .ok f) (hg : parse inner = .ok g)
    (hi : text.toList[i]? = some x) (hx : isOperandChar x = true) :
    ∃ before after f', parse (substituteAt text i inner) = .ok f' ∧
      (∃ stack, Reads [] (text.toList.take i) before stack) ∧
      f.tokens = before ++ [operandToken x] ++ after ∧
      f'.tokens = before ++ g.tokens ++ after ∧
      f.names = operands (text.toList.take i) ++ [String.singleton x] ++
        operands (text.toList.drop (i + 1)) ∧
      f'.names = operands (text.toList.take i) ++ g.names ++
        operands (text.toList.drop (i + 1)) ∧
      (text.toList.count x = 1 → ∀ b v, g.value b = .ok v →
        (∀ name ∈ f.names, name ≠ String.singleton x → (b.value? name).isSome) →
        f'.value b = f.value (b.bind (String.singleton x) v) ∧
          ((∃ w, f'.value b = .ok w) ∨ ∃ e, f'.value b = .error (.arithmetic e))) := by
  obtain ⟨t, hscan, rfl⟩ := parse_eq_ok_iff.mp hf
  obtain ⟨s, hinner, rfl⟩ := parse_eq_ok_iff.mp hg
  have htext : text.toList = text.toList.take i ++ x :: text.toList.drop (i + 1) :=
    eq_take_append_cons_drop hi
  unfold substituteAt
  generalize text.toList.take i = pre at htext ⊢
  generalize text.toList.drop (i + 1) = post at htext ⊢
  rw [htext] at hscan
  obtain ⟨c, rfl, ⟨stack, hbefore⟩, hlast, hsubst⟩ := exists_context_of_scan hscan hx
  have hfirst : Token.names c.before = operands pre := hbefore.names_eq
  have hnames : ∀ r : Tree, (c.fill r).names = operands pre ++ r.names ++ operands post := by
    intro r
    rw [Tree.Context.names_fill, hfirst, hlast]
  have hscan' : scan 0 [] (String.ofList (pre ++ ('(' :: inner.toList ++ [')']) ++ post)).toList =
      .ok (c.fill s).tokens := by
    rw [String.toList_ofList]
    exact hsubst inner.toList s hinner
  refine ⟨c.before, c.after, _, parse_eq_ok_iff.mpr ⟨c.fill s, hscan', rfl⟩, ⟨stack, hbefore⟩,
    c.tokens_fill _, c.tokens_fill s, hnames _, hnames s, ?_⟩
  intro hone b v hv hbound
  have honce : x ∉ pre ∧ x ∉ post := by
    rw [htext, List.count_append, List.count_cons_self] at hone
    constructor <;> refine List.count_eq_zero.mp ?_ <;> omega
  have hbeside : ∀ n ∈ Token.names c.before ++ Token.names c.after,
      n ≠ String.singleton x ∧ (b.value? n).isSome := by
    intro n hn
    rw [hfirst, hlast, List.mem_append] at hn
    have hne : n ≠ String.singleton x := by
      rintro rfl
      rw [singleton_mem_operands, singleton_mem_operands] at hn
      exact hn.elim (fun hn => honce.1 hn.1) (fun hn => honce.2 hn.1)
    refine ⟨hne, hbound n ?_ hne⟩
    show n ∈ (c.fill (.leaf (String.singleton x))).names
    rw [hnames, List.append_assoc, List.mem_append, List.mem_append]
    exact hn.imp_right .inr
  obtain ⟨hvalue, hnone⟩ := Tree.Context.formula_value_fill hv hbeside text
    (String.ofList (pre ++ ('(' :: inner.toList ++ [')']) ++ post))
  refine ⟨hvalue, ?_⟩
  rw [Tree.formula_value, hnone]
  exact Tree.value_of_bound hnone

/-- An untidy text in the place of an operand of another one. -/
theorem parse_substituteAt_untidy :
    let f : Formula :=
      { text := "(x- y) z*"
        tokens := [.operand "x", .operand "y", .operator .minus, .operand "z", .operator .times]
        names := ["x", "y", "z"] }
    let g : Formula :=
      { text := "x x+", tokens := [.operand "x", .operand "x", .operator .plus]
        names := ["x", "x"] }
    let b := Bindings.ofList [("x", .int 9), ("z", .int 7)]
    parse "(x- y) z*" = .ok f ∧ parse "x x+" = .ok g ∧ g.value b = .ok (.int 18) ∧
      ∃ f', parse "(x- (x x+)) z*" = .ok f' ∧ f'.names = ["x", "x", "x", "z"] ∧
        f'.value b = f.value (b.bind "y" (.int 18)) ∧ f'.value b = .ok (.int (-63)) := by
  intro f g b
  have hf : parse "(x- y) z*" = .ok f := by rfl
  have hg : parse "x x+" = .ok g := by rfl
  obtain ⟨before, after, f', hparse, -, -, -, -, hnames, hvalue⟩ :=
    parse_substituteAt (i := 4) (x := 'y') hf hg (by rfl) (by decide)
  have hsame : f'.value b = f.value (b.bind "y" (.int 18)) :=
    (hvalue (by decide) b (.int 18) (by rfl) (by decide)).1
  exact ⟨hf, hg, by rfl, f', hparse, hnames, hsame, hsame.trans (by rfl)⟩

end Formula

end Formulary
