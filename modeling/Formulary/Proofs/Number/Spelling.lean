import Mathlib.Data.Bool.AllAny
import Mathlib.Data.List.Basic
import Mathlib.Data.List.TakeDrop
import Mathlib.Data.List.TakeWhile
import Formulary.Number.Reader
import Formulary.Proofs.Text.Digits

/-!
# The texts of numbers

Which texts are numbers is said here by a grammar that knows nothing of how they are read. The
grammar is over what counts as a row of digits: digits of any script with single underscores between
them as a person writes them, or ASCII digits alone as they are left when the text is made plain.
-/

namespace Formulary

open Text Reader

namespace Spelling

/-! ## The grammar -/

/-- At least one digit, and single underscores between digits at will. -/
inductive Digits : List Char → Prop
  | single {c : Char} : IsDigit c → Digits [c]
  | next {c : Char} {cs : List Char} : IsDigit c → Digits cs → Digits (c :: cs)
  | underscore {c : Char} {cs : List Char} : IsDigit c → Digits cs → Digits (c :: '_' :: cs)

/-- A plus, a minus, or nothing. -/
inductive Sign : List Char → Prop
  | absent : Sign []
  | plus : Sign ['+']
  | minus : Sign ['-']

section Grammar

variable (Row : List Char → Prop)

/-- Digits with or without a point; there is a digit in front of it or behind it. -/
inductive Mantissa : List Char → Prop
  | whole {row : List Char} : Row row → Mantissa row
  | point {row : List Char} : Row row → Mantissa (row ++ ['.'])
  | fraction {row : List Char} : Row row → Mantissa ('.' :: row)
  | both {row row' : List Char} : Row row → Row row' → Mantissa (row ++ '.' :: row')

/-- An `e` in either case with a sign and a row of digits behind it, or nothing. -/
inductive Exponent : List Char → Prop
  | absent : Exponent []
  | present {c : Char} {sign row : List Char} : c = 'e' ∨ c = 'E' → Sign sign → Row row →
      Exponent (c :: (sign ++ row))

/-- The words for infinity and for what is not a number, in letters of either case. -/
def IsWord (cs : List Char) : Prop :=
  String.ofList (cs.map Char.toLower) ∈ ["inf", "infinity", "nan"]

/-- How many digits a row has, its separators left out. -/
def digitCount (row : List Char) : Nat :=
  (row.filter (· ≠ '_')).length

/-- The texts of integers: a sign and a row of not too many digits. -/
inductive IsInteger : List Char → Prop
  | intro {sign row : List Char} : Sign sign → Row row → digitCount row ≤ maxIntegerDigits →
      IsInteger (sign ++ row)

/-- The texts of floating-point numbers: a sign, and then a word or a mantissa with an exponent. -/
inductive IsFloat : List Char → Prop
  | word {sign word : List Char} : Sign sign → IsWord word → IsFloat (sign ++ word)
  | decimal {sign mantissa exponent : List Char} : Sign sign → Mantissa Row mantissa →
      Exponent Row exponent → IsFloat (sign ++ (mantissa ++ exponent))

end Grammar

section Word

variable {c : Char}

/-- The words for infinity and for what is not a number are made of six letters. -/
theorem IsWord.of_mem {word : List Char} (h : IsWord word) (hc : c ∈ word) :
    c.toLower ∈ ['i', 'n', 'f', 't', 'y', 'a'] := by
  have hletters : ∀ w ∈ ["inf", "infinity", "nan"], w.toList ⊆ ['i', 'n', 'f', 't', 'y', 'a'] :=
    List.all_iff_forall_prop.mp (by decide)
  refine hletters _ h ?_
  rw [String.toList_ofList]
  exact List.mem_map_of_mem hc

end Word

/-- A character that is neither a digit nor stands between digits. -/
def Outside (c : Char) : Prop :=
  ¬ IsDigit c ∧ c ≠ '_'

instance : DecidablePred Outside := fun c => inferInstanceAs (Decidable (¬ IsDigit c ∧ c ≠ '_'))

section Outside

variable {cs : List Char}

/-- What stands outside of rows is no ASCII digit. -/
theorem Outside.isAsciiDigit_eq_false {c : Char} (h : Outside c) : isAsciiDigit c = false :=
  isAsciiDigit_eq_false_of_not_isDigit h.1

theorem Sign.outside (h : Sign cs) : ∀ c ∈ cs, Outside c := by
  cases h <;> exact List.all_iff_forall_prop.mp (by decide)

theorem IsWord.outside (h : IsWord cs) : ∀ c ∈ cs, Outside c := by
  have hletters : ∀ c ∈ ['i', 'n', 'f', 't', 'y', 'a'], ¬ IsDigit c :=
    List.all_iff_forall_prop.mp (by decide)
  refine fun c hc => ⟨fun hdigit => ?_, ?_⟩
  · refine hletters c ?_ hdigit
    rw [← hdigit.toLower]
    exact h.of_mem hc
  · rintro rfl
    exact absurd (h.of_mem hc) (by decide)

theorem Sign.not_digit (h : Sign cs) : ∀ c ∈ cs, isAsciiDigit c = false :=
  fun c hc => (h.outside c hc).isAsciiDigit_eq_false

theorem IsWord.not_digit (h : IsWord cs) : ∀ c ∈ cs, isAsciiDigit c = false :=
  fun c hc => (h.outside c hc).isAsciiDigit_eq_false

end Outside

/-! ## Plain texts -/

/-- `Reduces cs ds`: without its underscores, which all stand between digits, and with its digits
made ASCII digits, the text `cs` is `ds`. -/
inductive Reduces : List Char → List Char → Prop
  | nil : Reduces [] []
  | digit {c : Char} {cs ds : List Char} : IsDigit c → Reduces cs ds →
      Reduces (c :: cs) (toAsciiDigit c :: ds)
  | underscore {c d : Char} {cs ds : List Char} : IsDigit c → IsDigit d → Reduces (d :: cs) ds →
      Reduces (c :: '_' :: d :: cs) (toAsciiDigit c :: ds)
  | outside {c : Char} {cs ds : List Char} : Outside c → Reduces cs ds →
      Reduces (c :: cs) (c :: ds)

section Reader

variable {c d : Char} {afterDigit : Bool} {cs ds : List Char}

/-- The reader keeps what is no underscore. -/
theorem withoutSeparators?_cons (hc : c ≠ '_') :
    withoutSeparators? afterDigit (c :: cs) =
      (withoutSeparators? (isAsciiDigit c) cs).map (c :: ·) := by
  rw [withoutSeparators?]
  exact hc

/-- The reader removes an underscore between two digits. -/
theorem withoutSeparators?_underscore (hd : isAsciiDigit d = true) :
    withoutSeparators? true ('_' :: d :: cs) = withoutSeparators? false (d :: cs) := by
  rw [withoutSeparators?]
  simp [hd]

/-- The reader makes a text plain, whatever is in front of it. -/
theorem Reduces.withoutSeparators? (h : Reduces cs ds) (afterDigit : Bool) :
    withoutSeparators? afterDigit (cs.map toAsciiDigit) = some ds := by
  induction h generalizing afterDigit with
  | nil => rfl
  | digit hc _ ih =>
    rw [List.map_cons, withoutSeparators?_cons hc.toAsciiDigit_ne_underscore, ih, Option.map_some]
  | @underscore c d cs ds hc hd _ ih =>
    have hunderscore : toAsciiDigit '_' = '_' := by decide
    rw [List.map_cons, List.map_cons, List.map_cons, hunderscore,
      withoutSeparators?_cons hc.toAsciiDigit_ne_underscore, hc.isAsciiDigit,
      withoutSeparators?_underscore hd.isAsciiDigit, ← List.map_cons, ih, Option.map_some]
  | @outside c cs ds hc _ ih =>
    rw [List.map_cons, toAsciiDigit_of_not_isDigit hc.1, withoutSeparators?_cons hc.2, ih,
      Option.map_some]

/-- In what is left after a digit, an underscore may come first. -/
theorem reduces_of_withoutSeparators?
    (h : Reader.withoutSeparators? afterDigit (cs.map toAsciiDigit) = some ds) :
    Reduces cs ds ∨ afterDigit = true ∧
      ∃ d rest, cs = '_' :: d :: rest ∧ IsDigit d ∧ Reduces (d :: rest) ds := by
  induction cs generalizing afterDigit ds with
  | nil =>
    cases h
    exact .inl .nil
  | cons c cs ih =>
    by_cases hunderscore : c = '_'
    · subst hunderscore
      have hsame : toAsciiDigit '_' = '_' := by decide
      rw [List.map_cons, hsame] at h
      cases cs with
      | nil => simp [Reader.withoutSeparators?] at h
      | cons d rest =>
        rw [List.map_cons, Reader.withoutSeparators?] at h
        obtain ⟨⟨hafter, hd⟩, h⟩ : (afterDigit = true ∧ IsDigit d) ∧
            Reader.withoutSeparators? false ((d :: rest).map toAsciiDigit) = some ds := by
          simpa [isAsciiDigit_toAsciiDigit_iff] using h
        exact .inr ⟨hafter, d, rest, rfl, hd, (ih h).resolve_right (by simp)⟩
    · left
      by_cases hc : IsDigit c
      · rw [List.map_cons, withoutSeparators?_cons hc.toAsciiDigit_ne_underscore] at h
        obtain ⟨ds, hds, rfl⟩ := Option.map_eq_some_iff.mp h
        rcases ih hds with hreduces | ⟨-, d, rest, rfl, hd, hreduces⟩
        · exact .digit hc hreduces
        · exact .underscore hc hd hreduces
      · rw [List.map_cons, toAsciiDigit_of_not_isDigit hc, withoutSeparators?_cons hunderscore,
          isAsciiDigit_eq_false_of_not_isDigit hc] at h
        obtain ⟨ds, hds, rfl⟩ := Option.map_eq_some_iff.mp h
        exact .outside ⟨hc, hunderscore⟩ ((ih hds).resolve_right (by simp))

/-- What the reader makes of a text is its plain form, and other texts have none. -/
theorem withoutSeparators?_eq_some_iff :
    Reader.withoutSeparators? false (cs.map toAsciiDigit) = some ds ↔ Reduces cs ds :=
  ⟨fun h => (reduces_of_withoutSeparators? h).resolve_right (by simp), (·.withoutSeparators? false)⟩

end Reader

/-- The rows of digits of plain texts. -/
def PlainDigits (row : List Char) : Prop :=
  isDigits row = true

/-- What is left of a row of digits in the plain form. -/
def plainRow (row : List Char) : List Char :=
  (row.filter (· ≠ '_')).map toAsciiDigit

section Parts

variable {cs ds row rest : List Char}

/-- A digit of a row becomes an ASCII digit. -/
theorem plainRow_cons {c : Char} (hc : IsDigit c) (row : List Char) :
    plainRow (c :: row) = toAsciiDigit c :: plainRow row := by
  rw [plainRow, List.filter_cons_of_pos (by simpa using hc.ne_underscore), List.map_cons, plainRow]

/-- A separator of a row disappears. -/
theorem plainRow_underscore (row : List Char) : plainRow ('_' :: row) = plainRow row :=
  rfl

/-- A row has as many digits as its plain form is long. -/
theorem length_plainRow (row : List Char) : (plainRow row).length = digitCount row :=
  List.length_map _

/-- What is no separator in a row is a digit. -/
theorem Digits.isDigit_of_mem {c : Char} (h : Digits row) (hc : c ∈ row) (hne : c ≠ '_') :
    IsDigit c := by
  induction h with
  | single hd =>
    obtain rfl := List.mem_singleton.mp hc
    exact hd
  | next hd _ ih =>
    rcases List.mem_cons.mp hc with rfl | hc
    · exact hd
    · exact ih hc
  | underscore hd _ ih =>
    rcases List.mem_cons.mp hc with rfl | hc
    · exact hd
    · exact ih (List.mem_of_ne_of_mem hne hc)

/-- The plain form of a row is a row of ASCII digits. -/
theorem Digits.plainDigits (h : Digits row) : PlainDigits (plainRow row) := by
  have hne : plainRow row ≠ [] := by
    cases h with
    | single hc | next hc _ | underscore hc _ =>
      rw [plainRow_cons hc]
      exact List.cons_ne_nil _ _
  have hall : ∀ c ∈ plainRow row, isAsciiDigit c = true := by
    intro c hc
    obtain ⟨d, hd, rfl⟩ := List.mem_map.mp hc
    obtain ⟨hd, hunderscore⟩ := List.mem_filter.mp hd
    exact (h.isDigit_of_mem hd (by simpa using hunderscore)).isAsciiDigit
  simpa [PlainDigits, isDigits, hne] using hall

/-- A row in front of a text becomes its plain form in front of that of the text. -/
theorem Reduces.append_digits (h : Reduces cs ds) (hrow : Digits row) :
    Reduces (row ++ cs) (plainRow row ++ ds) := by
  induction hrow with
  | single hc =>
    rw [plainRow_cons hc]
    exact .digit hc h
  | next hc _ ih =>
    rw [plainRow_cons hc]
    exact .digit hc ih
  | underscore hc hrow ih =>
    rw [plainRow_cons hc, plainRow_underscore]
    cases hrow with
    | single hd | next hd _ | underscore hd _ => exact .underscore hc hd ih

/-- A row by itself becomes its plain form. -/
theorem Digits.reduces (h : Digits row) : Reduces row (plainRow row) := by
  have hreduces := Reduces.nil.append_digits h
  rwa [List.append_nil, List.append_nil] at hreduces

/-- What stands outside of rows stays as it is in front of a plain form. -/
theorem Reduces.append_outside (h : Reduces cs ds) {xs : List Char} (hxs : ∀ c ∈ xs, Outside c) :
    Reduces (xs ++ cs) (xs ++ ds) := by
  induction xs with
  | nil => exact h
  | cons c xs ih =>
    obtain ⟨hc, hxs⟩ := List.forall_mem_cons.mp hxs
    exact .outside hc (ih hxs)

/-- A text of ASCII digits and of characters that are no digits is plain already. -/
theorem Reduces.self (h : ∀ c ∈ cs, isAsciiDigit c = true ∨ Outside c) : Reduces cs cs := by
  induction cs with
  | nil => exact .nil
  | cons c cs ih =>
    obtain ⟨hc, hcs⟩ := List.forall_mem_cons.mp h
    rcases hc with hc | hc
    · have hreduces := Reduces.digit (isDigit_of_isAsciiDigit hc) (ih hcs)
      rwa [toAsciiDigit_of_isAsciiDigit hc] at hreduces
    · exact .outside hc (ih hcs)

/-- Where a row of plain digits comes from that ends where the digits end. -/
theorem Reduces.exists_digits (h : Reduces cs (row ++ rest)) (hrow : PlainDigits row)
    (hrest : ∀ c ∈ rest.head?, isAsciiDigit c = false) :
    ∃ xs ys, cs = xs ++ ys ∧ Digits xs ∧ plainRow xs = row ∧ Reduces ys rest := by
  induction row generalizing cs with
  | nil => simp [PlainDigits, isDigits] at hrow
  | cons d row ih =>
    obtain ⟨hd, hrow⟩ : isAsciiDigit d = true ∧ ∀ c ∈ row, isAsciiDigit c = true := by
      simpa [PlainDigits, isDigits] using hrow
    have hnext {cs : List Char} (hne : row ≠ []) (h : Reduces cs (row ++ rest)) :=
      ih h (by simpa [PlainDigits, isDigits, hne] using hrow)
    cases h with
    | @digit c cs _ hc h =>
      by_cases hnil : row = []
      · subst hnil
        exact ⟨[c], cs, rfl, .single hc, plainRow_cons hc [], h⟩
      · obtain ⟨xs, ys, rfl, hxs, rfl, hys⟩ := hnext hnil h
        exact ⟨c :: xs, ys, rfl, .next hc hxs, plainRow_cons hc xs, hys⟩
    | @underscore c d' cs _ hc hd' h =>
      by_cases hnil : row = []
      · subst hnil
        -- the digit behind the underscore would belong to the row
        change Reduces (d' :: cs) rest at h
        cases h with
        | digit hd' _ | underscore hd' _ _ => simp [hd'.isAsciiDigit] at hrest
        | outside houtside _ => exact absurd hd' houtside.1
      · obtain ⟨xs, ys, hcs, hxs, rfl, hys⟩ := hnext hnil h
        refine ⟨c :: '_' :: xs, ys, by simp [hcs], .underscore hc hxs, ?_, hys⟩
        rw [plainRow_cons hc, plainRow_underscore]
    | outside hc _ => exact absurd (isDigit_of_isAsciiDigit hd) hc.1

/-- What a plain row comes from is a row, of which it is the plain form. -/
theorem Reduces.digits (h : Reduces cs row) (hrow : PlainDigits row) :
    Digits cs ∧ plainRow cs = row := by
  rw [← List.append_nil row] at h
  obtain ⟨xs, ys, rfl, hxs, hplain, hys⟩ := h.exists_digits hrow (by simp)
  cases hys
  rw [List.append_nil]
  exact ⟨hxs, hplain⟩

/-- What holds no digit in a plain form comes from the same characters. -/
theorem Reduces.exists_outside {xs : List Char} (h : Reduces cs (xs ++ rest))
    (hxs : ∀ c ∈ xs, isAsciiDigit c = false) : ∃ ys, cs = xs ++ ys ∧ Reduces ys rest := by
  induction xs generalizing cs with
  | nil => exact ⟨cs, rfl, h⟩
  | cons c xs ih =>
    obtain ⟨hc, hxs⟩ := List.forall_mem_cons.mp hxs
    cases h with
    | digit hd _ | underscore hd _ _ => simp [hd.isAsciiDigit] at hc
    | outside _ h =>
      obtain ⟨ys, rfl, hys⟩ := ih h hxs
      exact ⟨ys, rfl, hys⟩

end Parts

/-! ## The grammar of plain texts -/

section Plain

variable {cs rest mantissa exponent : List Char}

/-- An exponent begins neither with a digit nor with a point. -/
theorem Exponent.not_digit {Row : List Char → Prop} (h : Exponent Row exponent) :
    ∀ c ∈ exponent.head?, isAsciiDigit c = false ∧ c ≠ '.' := by
  cases h with
  | absent => simp
  | present hc _ _ =>
    intro c' hc'
    obtain rfl := Option.some.inj hc'
    rcases hc with rfl | rfl <;> decide

/-- A plain row has no separators to leave out. -/
theorem digitCount_of_plain {row : List Char} (h : PlainDigits row) :
    digitCount row = row.length := by
  have hne : ∀ c ∈ row, c ≠ '_' := by
    rintro c hc rfl
    rw [PlainDigits, isDigits, Bool.and_eq_true, List.all_eq_true] at h
    exact absurd (h.2 _ hc) (by decide)
  rw [digitCount, List.filter_eq_self.mpr fun c hc => decide_eq_true (hne c hc)]

/-- A mantissa has a plain form, also in front of more text. -/
theorem Mantissa.exists_plain (h : Mantissa Digits mantissa) :
    ∃ plain, Mantissa PlainDigits plain ∧
      ∀ cs ds, Reduces cs ds → Reduces (mantissa ++ cs) (plain ++ ds) := by
  have hpoint : ∀ c ∈ ['.'], Outside c := List.forall_mem_singleton.mpr (by decide)
  cases h with
  | whole hrow =>
    exact ⟨_, .whole hrow.plainDigits, fun cs ds h => h.append_digits hrow⟩
  | point hrow =>
    refine ⟨_, .point hrow.plainDigits, fun cs ds h => ?_⟩
    rw [List.append_assoc, List.append_assoc]
    exact (h.append_outside hpoint).append_digits hrow
  | fraction hrow =>
    exact ⟨_, .fraction hrow.plainDigits, fun cs ds h =>
      (h.append_digits hrow).append_outside hpoint⟩
  | both hrow hrow' =>
    refine ⟨_, .both hrow.plainDigits hrow'.plainDigits, fun cs ds h => ?_⟩
    rw [List.append_assoc, List.append_assoc]
    exact ((h.append_digits hrow').append_outside hpoint).append_digits hrow

/-- An exponent has a plain form. -/
theorem Exponent.exists_plain (h : Exponent Digits exponent) :
    ∃ plain, Exponent PlainDigits plain ∧ Reduces exponent plain := by
  cases h with
  | absent => exact ⟨[], .absent, .nil⟩
  | @present c sign row hc hsign hrow =>
    have hletter : Outside c := by rcases hc with rfl | rfl <;> decide
    exact ⟨_, .present hc hsign hrow.plainDigits,
      .outside hletter (hrow.reduces.append_outside hsign.outside)⟩

/-- A plain mantissa comes from a mantissa, and what follows it from what follows that. -/
theorem Reduces.exists_mantissa (h : Reduces cs (mantissa ++ rest))
    (hmantissa : Mantissa PlainDigits mantissa) (hrest : ∀ c ∈ rest.head?, isAsciiDigit c = false) :
    ∃ xs ys, cs = xs ++ ys ∧ Mantissa Digits xs ∧ Reduces ys rest := by
  have hpoint : ∀ c ∈ ['.'], isAsciiDigit c = false := List.forall_mem_singleton.mpr (by decide)
  cases hmantissa with
  | whole hrow =>
    obtain ⟨xs, ys, rfl, hxs, -, hys⟩ := h.exists_digits hrow hrest
    exact ⟨xs, ys, rfl, .whole hxs, hys⟩
  | point hrow =>
    rw [List.append_assoc] at h
    obtain ⟨xs, ys, rfl, hxs, -, h⟩ := h.exists_digits hrow (by simp [isAsciiDigit])
    obtain ⟨ys, rfl, hys⟩ := h.exists_outside hpoint
    exact ⟨xs ++ ['.'], ys, by simp, .point hxs, hys⟩
  | @fraction row hrow =>
    change Reduces cs (['.'] ++ (row ++ rest)) at h
    obtain ⟨behind, rfl, hbehind⟩ := h.exists_outside hpoint
    obtain ⟨xs, ys, rfl, hxs, -, hys⟩ := hbehind.exists_digits hrow hrest
    exact ⟨'.' :: xs, ys, rfl, .fraction hxs, hys⟩
  | @both row row' hrow hrow' =>
    rw [List.append_assoc] at h
    obtain ⟨xs, marked, rfl, hxs, -, hmarked⟩ := h.exists_digits hrow (by simp [isAsciiDigit])
    change Reduces marked (['.'] ++ (row' ++ rest)) at hmarked
    obtain ⟨behind, rfl, hbehind⟩ := hmarked.exists_outside hpoint
    obtain ⟨xs', ys, rfl, hxs', -, hys⟩ := hbehind.exists_digits hrow' hrest
    exact ⟨xs ++ '.' :: xs', ys, by simp, .both hxs hxs', hys⟩

/-- A plain exponent comes from an exponent. -/
theorem Reduces.isExponent (h : Reduces cs exponent) (hexponent : Exponent PlainDigits exponent) :
    Exponent Digits cs := by
  cases hexponent with
  | absent =>
    cases h
    exact .absent
  | @present c sign row hc hsign hrow =>
    have hletter : ∀ d ∈ c :: sign, isAsciiDigit d = false := by
      rcases hc with rfl | rfl <;> simpa [isAsciiDigit] using hsign.not_digit
    rw [← List.cons_append] at h
    obtain ⟨behind, rfl, hbehind⟩ := h.exists_outside hletter
    exact .present hc hsign (hbehind.digits hrow).1

/-- The texts of integers are those with the plain form of an integer. -/
theorem isInteger_iff :
    IsInteger Digits cs ↔ ∃ ds, Reduces cs ds ∧ IsInteger PlainDigits ds := by
  constructor
  · rintro ⟨hsign, hrow, hcount⟩
    refine ⟨_, hrow.reduces.append_outside hsign.outside, .intro hsign hrow.plainDigits ?_⟩
    rwa [digitCount_of_plain hrow.plainDigits, length_plainRow]
  · rintro ⟨ds, h, @⟨sign, row, hsign, hrow, hcount⟩⟩
    obtain ⟨behind, rfl, hbehind⟩ := h.exists_outside hsign.not_digit
    obtain ⟨hxs, rfl⟩ := hbehind.digits hrow
    rw [digitCount_of_plain hrow, length_plainRow] at hcount
    exact .intro hsign hxs hcount

/-- A text is that of a floating-point number exactly if its plain form is. -/
theorem isFloat_iff : IsFloat Digits cs ↔ ∃ ds, Reduces cs ds ∧ IsFloat PlainDigits ds := by
  constructor
  · rintro (⟨hsign, hword⟩ | ⟨hsign, hmantissa, hexponent⟩)
    · have hreduces := (Reduces.nil.append_outside hword.outside).append_outside hsign.outside
      rw [List.append_nil] at hreduces
      exact ⟨_, hreduces, .word hsign hword⟩
    · obtain ⟨plain, hplain, hmantissa⟩ := hmantissa.exists_plain
      obtain ⟨plain', hplain', hexponent⟩ := hexponent.exists_plain
      exact ⟨_, (hmantissa _ _ hexponent).append_outside hsign.outside,
        .decimal hsign hplain hplain'⟩
  · rintro ⟨ds, h, @⟨sign, word, hsign, hword⟩ | @⟨sign, mantissa, exponent, hsign, hm, he⟩⟩
    · obtain ⟨behind, rfl, hbehind⟩ := h.exists_outside hsign.not_digit
      rw [← List.append_nil word] at hbehind
      obtain ⟨ys, rfl, hys⟩ := hbehind.exists_outside hword.not_digit
      cases hys
      rw [List.append_nil]
      exact .word hsign hword
    · obtain ⟨behind, rfl, hbehind⟩ := h.exists_outside hsign.not_digit
      obtain ⟨xs, ys, rfl, hxs, hys⟩ :=
        hbehind.exists_mantissa hm fun c hc => (he.not_digit c hc).1
      exact .decimal hsign hxs (hys.isExponent he)

end Plain

end Spelling

end Formulary
