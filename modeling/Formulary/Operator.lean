/-!
# Operators

The five binary operators of an expression, their symbols and how tightly they bind.
-/

namespace Formulary

/-- A binary operator. -/
inductive Operator
  | power
  | times
  | divide
  | plus
  | minus
deriving DecidableEq, Inhabited

namespace Operator

/-- The symbol of an operator. -/
def symbol : Operator → Char
  | power => '^'
  | times => '*'
  | divide => '/'
  | plus => '+'
  | minus => '-'

/-- The operator of a symbol. -/
def ofSymbol? : Char → Option Operator
  | '^' => some power
  | '*' => some times
  | '/' => some divide
  | '+' => some plus
  | '-' => some minus
  | _ => none

/-- How loosely the operator holds its operands: powers bind tightest, then products and
quotients, then sums and differences. -/
def looseness : Operator → Nat
  | power => 0
  | times => 1
  | divide => 1
  | plus => 2
  | minus => 2

/-- The symbol as a text. -/
def text (o : Operator) : String :=
  String.singleton o.symbol

/-- The operator named by a text: the text must be its symbol and nothing more. -/
def ofText? (s : String) : Option Operator :=
  match s.toList with
  | [c] => ofSymbol? c
  | _ => none

@[simp]
theorem ofSymbol?_symbol (o : Operator) : ofSymbol? o.symbol = some o := by
  cases o <;> rfl

/-- What is read as an operator is its symbol. -/
theorem symbol_of_ofSymbol? {c : Char} {o : Operator} (h : ofSymbol? c = some o) :
    o.symbol = c := by
  unfold ofSymbol? at h
  split at h <;> simp_all [symbol] <;> subst h <;> rfl

/-- Symbols name operators one to one. -/
theorem ofSymbol?_eq_some_iff {c : Char} {o : Operator} : ofSymbol? c = some o ↔ c = o.symbol :=
  ⟨fun h => (symbol_of_ofSymbol? h).symm, fun h => h ▸ ofSymbol?_symbol o⟩

theorem symbol_injective {o p : Operator} (h : o.symbol = p.symbol) : o = p := by
  have := ofSymbol?_symbol o
  rw [h, ofSymbol?_symbol] at this
  exact (Option.some.inj this).symm

@[simp]
theorem toList_text (o : Operator) : o.text.toList = [o.symbol] := by
  simp [text]

/-- A text names an operator exactly when it is that operator's symbol. -/
theorem ofText?_eq_some_iff {s : String} {o : Operator} : ofText? s = some o ↔ s = o.text := by
  constructor
  · intro h
    unfold ofText? at h
    split at h
    · next c hc =>
      rw [ofSymbol?_eq_some_iff] at h
      apply String.toList_inj.mp
      rw [hc, toList_text, h]
    · simp at h
  · rintro rfl
    simp [ofText?]

end Operator

end Formulary
