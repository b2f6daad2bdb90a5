import Mathlib.Algebra.Group.Nat.Defs
import Mathlib.Data.List.Basic
import Mathlib.Tactic.SplitIfs
import Formulary.Text.Digit
import Formulary.Text.Quoted

/-!
# Quoted texts can be read back

Between quotes every character of a text is written so that it can be told where it ends and what it
stands for. So no two texts look the same between quotes. A text comes out in printable ASCII if its
only printable characters are.
-/

namespace Formulary.Text

/-! ## Hexadecimal digits -/

/-- The number written by a row of hexadecimal digits, the first one the most significant. -/
def hexValue (ds : List Char) : Nat :=
  ds.foldl (fun n d => 16 * n + (hexDigitValue? d).getD 0) 0

/-- One more hexadecimal digit at the end multiplies the value by sixteen and adds its own. -/
theorem hexValue_append_singleton (ds : List Char) (d : Char) :
    hexValue (ds ++ [d]) = 16 * hexValue ds + (hexDigitValue? d).getD 0 := by
  simp [hexValue]

/-- Hexadecimal digits have the value that they are written for, if there is room for it. -/
theorem hexValue_hexDigits {w n : Nat} (h : n < 16 ^ w) : hexValue (hexDigits w n) = n := by
  have hdigits : ∀ d < 16, (hexDigitValue? (Nat.digitChar d)).getD 0 = d := by decide
  induction w generalizing n with
  | zero =>
    obtain rfl : n = 0 := by simpa using h
    rfl
  | succ w ih =>
    have hquotient : n / 16 < 16 ^ w := Nat.div_lt_of_lt_mul (by rwa [← Nat.pow_succ'])
    rw [hexDigits, hexValue_append_singleton, ih hquotient, hdigits _ (Nat.mod_lt _ (by decide)),
      Nat.div_add_mod]

/-! ## Escapes -/

/-- The first character of an escaped text, and the text behind it. -/
def unescape : List Char → Option (Char × List Char)
  | '\\' :: 'n' :: cs => some ('\n', cs)
  | '\\' :: 'r' :: cs => some ('\r', cs)
  | '\\' :: 't' :: cs => some ('\t', cs)
  | '\\' :: 'x' :: cs => some (Char.ofNat (hexValue (cs.take 2)), cs.drop 2)
  | '\\' :: 'u' :: cs => some (Char.ofNat (hexValue (cs.take 4)), cs.drop 4)
  | '\\' :: 'U' :: cs => some (Char.ofNat (hexValue (cs.take 8)), cs.drop 8)
  | '\\' :: c :: cs => some (c, cs)
  | c :: cs => some (c, cs)
  | [] => none

/-- The quotes that texts are put between. -/
def IsQuote (q : Char) : Prop :=
  q = '\'' ∨ q = '"'

variable {q c : Char} {cs ds : List Char}

/-- A text is put between single or between double quotes. -/
theorem isQuote_quoteFor (cs : List Char) : IsQuote (quoteFor cs) := by
  unfold quoteFor
  split
  · exact .inr rfl
  · exact .inl rfl

/-- The digits of a number can be cut off in front of a text, since their count is fixed. -/
theorem take_drop_hexDigits {w n : Nat} (h : n < 16 ^ w) (rest : List Char) :
    hexValue ((hexDigits w n ++ rest).take w) = n ∧ (hexDigits w n ++ rest).drop w = rest := by
  have hlength := length_hexDigits w n
  rw [List.take_left' hlength, List.drop_left' hlength]
  exact ⟨hexValue_hexDigits h, rfl⟩

/-- Every escape is read back as the character that it stands for, whatever follows it. -/
theorem unescape_escape_append (hq : IsQuote q) (c : Char) (rest : List Char) :
    unescape (escape q c ++ rest) = some (c, rest) := by
  unfold escape
  split_ifs with hquote hnewline hreturn htab hprintable hbyte hword
  · -- a backslash and then the quote or another backslash
    rcases hquote with rfl | rfl
    · rcases hq with rfl | rfl <;> rfl
    · rfl
  · rw [hnewline]
    rfl
  · rw [hreturn]
    rfl
  · rw [htab]
    rfl
  · have hbackslash : c ≠ '\\' := fun hc => hquote (.inr hc)
    simp [unescape, hbackslash]
  -- the three forms of hexadecimal escapes
  · have hfits : c.toNat < 16 ^ 2 := hbyte
    obtain ⟨hvalue, hdrop⟩ := take_drop_hexDigits hfits rest
    simp [unescape, hvalue, hdrop]
  · have hfits : c.toNat < 16 ^ 4 := hword
    obtain ⟨hvalue, hdrop⟩ := take_drop_hexDigits hfits rest
    simp [unescape, hvalue, hdrop]
  · have hfits : c.toNat < 16 ^ 8 := c.val.toNat_lt
    obtain ⟨hvalue, hdrop⟩ := take_drop_hexDigits hfits rest
    simp [unescape, hvalue, hdrop]

/-- No two texts have the same escaped form. -/
theorem flatMap_escape_injective (hq : IsQuote q)
    (h : cs.flatMap (escape q) = ds.flatMap (escape q)) : cs = ds := by
  induction cs generalizing ds with
  | nil =>
    cases ds with
    | nil => rfl
    | cons d ds =>
      have hread := congrArg unescape h
      rw [List.flatMap_cons, unescape_escape_append hq] at hread
      cases hread
  | cons c cs ih =>
    have hread := congrArg unescape h
    rw [List.flatMap_cons, unescape_escape_append hq] at hread
    cases ds with
    | nil => cases hread
    | cons d ds =>
      rw [List.flatMap_cons, unescape_escape_append hq] at hread
      obtain ⟨rfl, hrest⟩ := Prod.mk.inj (Option.some.inj hread)
      rw [ih hrest]

/-- Two texts that look the same between quotes are the same. The quotes are the same, since they
are what the first character is, and then the characters are read back one by one. -/
theorem quotedChars_injective (h : quotedChars cs = quotedChars ds) : cs = ds := by
  unfold quotedChars at h
  obtain ⟨hquote, h⟩ := List.cons.inj h
  rw [hquote] at h
  exact flatMap_escape_injective (isQuote_quoteFor ds) (List.append_cancel_right h)

/-- Texts that look the same between quotes are the same. -/
theorem quoted_injective {s t : String} (h : quoted s = quoted t) : s = t :=
  String.toList_inj.mp (quotedChars_injective (String.ofList_injective h))

/-! ## Printable ASCII -/

/-- The characters from the space to the tilde. -/
def PrintableAscii (c : Char) : Prop :=
  ' ' ≤ c ∧ c ≤ '~'

instance : DecidablePred PrintableAscii := fun c => inferInstanceAs (Decidable (' ' ≤ c ∧ c ≤ '~'))

/-- Hexadecimal digits are printable ASCII. -/
theorem printableAscii_of_mem_hexDigits {w n : Nat} (hc : c ∈ hexDigits w n) :
    PrintableAscii c := by
  have hdigits : ∀ d < 16, PrintableAscii (Nat.digitChar d) := by decide
  induction w generalizing n with
  | zero => cases hc
  | succ w ih =>
    rcases List.mem_append.mp hc with hc | hc
    · exact ih hc
    · rw [List.mem_singleton.mp hc]
      exact hdigits _ (Nat.mod_lt _ (by decide))

theorem IsQuote.printableAscii (hq : IsQuote q) : PrintableAscii q := by
  rcases hq with rfl | rfl <;> decide

/-- A backslash, a letter and hexadecimal digits. -/
theorem printableAscii_of_mem_backslash {letter x : Char} (hletter : PrintableAscii letter)
    (hcs : ∀ c ∈ cs, PrintableAscii c) (hx : x ∈ '\\' :: letter :: cs) : PrintableAscii x := by
  rcases List.mem_cons.mp hx with rfl | hx
  · decide
  · rcases List.mem_cons.mp hx with rfl | hx
    · exact hletter
    · exact hcs x hx

/-- Escapes are printable ASCII, and what is printable itself is the only thing not escaped. -/
theorem printableAscii_of_mem_escape (hq : IsQuote q)
    (hc : isPrintable c = true → PrintableAscii c) {x : Char} (hx : x ∈ escape q c) :
    PrintableAscii x := by
  have hhex {w : Nat} : ∀ d ∈ hexDigits w c.toNat, PrintableAscii d :=
    fun _ => printableAscii_of_mem_hexDigits
  unfold escape at hx
  split_ifs at hx with hquote hnewline hreturn htab hprintable hbyte hword
  · have hitself : PrintableAscii c := by
      rcases hquote with rfl | rfl
      · exact hq.printableAscii
      · decide
    exact printableAscii_of_mem_backslash hitself (List.forall_mem_nil _) hx
  · exact printableAscii_of_mem_backslash (by decide) (List.forall_mem_nil _) hx
  · exact printableAscii_of_mem_backslash (by decide) (List.forall_mem_nil _) hx
  · exact printableAscii_of_mem_backslash (by decide) (List.forall_mem_nil _) hx
  · obtain rfl := List.mem_singleton.mp hx
    exact hc hprintable
  · exact printableAscii_of_mem_backslash (by decide) hhex hx
  · exact printableAscii_of_mem_backslash (by decide) hhex hx
  · exact printableAscii_of_mem_backslash (by decide) hhex hx

/-- A quoted text is printable ASCII if its printable characters are, since all others are escaped.
-/
theorem printableAscii_of_mem_quoted {s : String}
    (hs : ∀ c ∈ s.toList, isPrintable c = true → PrintableAscii c) :
    ∀ x ∈ (quoted s).toList, PrintableAscii x := by
  have hquote := (isQuote_quoteFor s.toList).printableAscii
  intro x hx
  rw [quoted, String.toList_ofList, quotedChars, List.cons_append, List.mem_cons,
    List.mem_append, List.mem_flatMap, List.mem_singleton] at hx
  rcases hx with rfl | ⟨c, hc, hx⟩ | rfl
  · exact hquote
  · exact printableAscii_of_mem_escape (isQuote_quoteFor _) (hs c hc) hx
  · exact hquote

end Formulary.Text
