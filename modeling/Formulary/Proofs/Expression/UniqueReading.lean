import Formulary.Proofs.Expression.Postorder

/-!
# Unique reading of postorders

The postorder of a tree needs no brackets: putting its tokens together again gives this tree and no
other. The check of the tokens, which only counts, therefore recognises the texts of exactly one
tree each.
-/

namespace Formulary

/-- Puts trees together from tokens, with the latest tree in front. An operator joins the two latest
trees; nothing comes of tokens that leave an operator without two trees. -/
def assemble : List Tree → List Token → Option (List Tree)
  | forest, [] => some forest
  | forest, .operand name :: ts => assemble (.leaf name :: forest) ts
  | right :: left :: forest, .operator o :: ts => assemble (.node o left right :: forest) ts
  | _, .operator _ :: _ => none

namespace Tree

/-- Whatever follows the tokens of a tree and whatever trees are there before, the tokens add the
tree. -/
theorem assemble_tokens (t : Tree) (forest : List Tree) (rest : List Token) :
    assemble forest (t.tokens ++ rest) = assemble (t :: forest) rest := by
  induction t generalizing forest rest with
  | leaf name => cases forest <;> simp only [tokens, List.singleton_append, assemble]
  | node o left right ihl ihr =>
    simp only [tokens, List.append_assoc, ihl, ihr, List.singleton_append, assemble]

/-- The tokens of a tree give this tree. -/
theorem assemble_tokens_nil (t : Tree) : assemble [] t.tokens = some [t] := by
  have hassemble := t.assemble_tokens [] []
  rw [List.append_nil] at hassemble
  rw [hassemble, assemble]

/-- A tree is determined by its tokens. -/
theorem tokens_injective {t u : Tree} (h : t.tokens = u.tokens) : t = u := by
  have hsame : some [t] = some [u] := by
    rw [← t.assemble_tokens_nil, ← u.assemble_tokens_nil, h]
  exact List.singleton_inj.mp (Option.some.inj hsame)

/-- The texts of a tree from left to right, those of its operators behind their operands. -/
def postorder : Tree → List String
  | leaf name => [name]
  | node o left right => left.postorder ++ right.postorder ++ [o.text]

/-- No leaf has the symbol of an operator for its name. -/
def Plain (t : Tree) : Prop :=
  ∀ name ∈ t.names, ∀ o : Operator, name ≠ o.text

/-- The texts of a tree's tokens are its postorder. -/
theorem map_text_tokens (t : Tree) : t.tokens.map Token.text = t.postorder := by
  induction t with
  | leaf name => rfl
  | node o left right ihl ihr =>
    rw [tokens, List.map_append, List.map_append, ihl, ihr]
    rfl

/-- Every name of a tree is among its tokens. -/
theorem operand_mem_tokens {t : Tree} {name : String} (h : name ∈ t.names) :
    .operand name ∈ t.tokens := by
  induction t with
  | leaf other =>
    obtain rfl : name = other := List.mem_singleton.mp h
    exact List.mem_singleton_self _
  | node o left right ihl ihr =>
    refine List.mem_append_left _ (List.mem_append.mpr ?_)
    exact (List.mem_append.mp h).imp ihl ihr

end Tree

namespace Token

/-- The symbol of an operator is read as this operator. -/
theorem ofText_text (o : Operator) : ofText o.text = .operator o := by
  rw [ofText, Operator.ofText?_eq_some_iff.mpr rfl]

/-- Every other text is read as the name of an operand. -/
theorem ofText_of_ne_text {s : String} (h : ∀ o : Operator, s ≠ o.text) :
    ofText s = .operand s := by
  have hnone : Operator.ofText? s = none := by
    rw [Option.eq_none_iff_forall_ne_some]
    intro o ho
    exact h o (Operator.ofText?_eq_some_iff.mp ho)
  rw [ofText, hnone]

end Token

namespace Tree

/-- The texts of a plain tree are read as its tokens. -/
theorem map_ofText_postorder {t : Tree} (h : t.Plain) :
    t.postorder.map Token.ofText = t.tokens := by
  induction t with
  | leaf name =>
    have hname : ∀ o : Operator, name ≠ o.text := h name (List.mem_singleton_self name)
    rw [postorder, List.map_singleton, Token.ofText_of_ne_text hname]
    rfl
  | node o left right ihl ihr =>
    have hleft : left.Plain := fun name hname => h name (List.mem_append_left _ hname)
    have hright : right.Plain := fun name hname => h name (List.mem_append_right _ hname)
    rw [postorder, List.map_append, List.map_append, ihl hleft, ihr hright, List.map_singleton,
      Token.ofText_text]
    rfl

/-- Texts stand for the tokens of a tree exactly if they are its postorder and none of its leaves
reads as an operator. -/
theorem map_ofText_eq_tokens_iff {texts : List String} {t : Tree} :
    texts.map Token.ofText = t.tokens ↔ t.Plain ∧ texts = t.postorder := by
  constructor
  · intro h
    refine ⟨fun name hname o ho => ?_, ?_⟩
    · -- a leaf that reads as an operator would have become one
      have hmem : .operand name ∈ texts.map Token.ofText := h ▸ operand_mem_tokens hname
      obtain ⟨s, -, hs⟩ := List.mem_map.mp hmem
      have htext : s = name := by rw [← Token.text_ofText s, hs, Token.text]
      rw [htext, ho, Token.ofText_text] at hs
      cases hs
    · have htexts : (texts.map Token.ofText).map Token.text = texts := by
        rw [List.map_map]
        exact (List.map_congr_left fun s _ => Token.text_ofText s).trans (List.map_id texts)
      rw [← htexts, h, map_text_tokens]
  · rintro ⟨hplain, rfl⟩
    exact map_ofText_postorder hplain

end Tree

/-- The check of tokens passes exactly if their texts are the postorder of a tree with operators at
its inner nodes and other texts at its leaves, and they are the postorder of one such tree only. -/
theorem checkForm_recognises_postorders (texts : List String) :
    (checkForm (texts.map Token.ofText) = .ok () ↔
      ∃ t : Tree, t.Plain ∧ texts = t.postorder) ∧
    ∀ t u : Tree, t.Plain → u.Plain → texts = t.postorder → texts = u.postorder → t = u := by
  constructor
  · rw [checkForm_eq_ok_iff]
    exact exists_congr fun t => Tree.map_ofText_eq_tokens_iff
  · intro t u ht hu hpostorder hpostorder'
    apply Tree.tokens_injective
    rw [← Tree.map_ofText_eq_tokens_iff.mpr ⟨ht, hpostorder⟩,
      ← Tree.map_ofText_eq_tokens_iff.mpr ⟨hu, hpostorder'⟩]

/-- Two operators in a row are an operand, and so is the empty text. -/
theorem checkForm_recognises_postorders_odd :
    let texts := ["++", "", "x1", "-", "^"]
    let tree := Tree.node .power (.leaf "++") (.node .minus (.leaf "") (.leaf "x1"))
    checkForm (texts.map Token.ofText) = .ok () ∧ tree.Plain ∧ texts = tree.postorder ∧
      ∀ u : Tree, u.Plain → texts = u.postorder → tree = u := by
  intro texts tree
  have hplain : tree.Plain := by
    intro name hname o
    have hleaf : name = "++" ∨ name = "" ∨ name = "x1" := by simpa [tree, Tree.names] using hname
    rcases hleaf with rfl | rfl | rfl <;> cases o <;> decide
  obtain ⟨hform, hunique⟩ := checkForm_recognises_postorders texts
  exact ⟨hform.mpr ⟨tree, hplain, rfl⟩, hplain, rfl, fun u hu => hunique tree u hplain hu rfl⟩

example : checkForm (["a", "+", "b"].map Token.ofText) = .error (.missingOperand .plus) := rfl

end Formulary
