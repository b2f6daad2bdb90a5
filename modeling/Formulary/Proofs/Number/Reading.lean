import Mathlib.Data.List.TakeWhile
import Mathlib.Tactic.SplitIfs
import Mathlib.Tactic.Tauto
import Formulary.Proofs.Number.Integers
import Formulary.Proofs.Number.Shown
import Formulary.Proofs.Number.Spelling
import Formulary.Proofs.Text.Blanks

/-!
# Reading numbers

The reader takes exactly the texts of numbers, and it takes the text of an integer for this integer.
-/

namespace Formulary

open Text Reader

namespace Spelling

section Read

variable {negative : Bool} {cs sign body row rest mantissa exponent : List Char}

/-- What the reader splits off in front of a text is a sign. -/
theorem exists_sign (cs : List Char) : ∃ sign, Sign sign ∧ cs = sign ++ (splitSign cs).2 := by
  unfold splitSign
  split
  · exact ⟨_, .minus, rfl⟩
  · exact ⟨_, .plus, rfl⟩
  · exact ⟨_, .absent, rfl⟩

/-- A sign is split off if what follows it does not begin with another one. -/
theorem splitSign_append (hsign : Sign sign) (hbody : ∀ c ∈ body.head?, c ≠ '-' ∧ c ≠ '+') :
    (splitSign (sign ++ body)).2 = body := by
  cases hsign with
  | plus | minus => rfl
  | absent =>
    cases body with
    | nil => rfl
    | cons c body =>
      obtain ⟨hminus, hplus⟩ := hbody c rfl
      simp [splitSign, hminus, hplus]

/-- What does not begin with a sign can have one in front. -/
theorem splitSign_iff (P : List Char → Prop)
    (hP : ∀ body, P body → ∀ c ∈ body.head?, c ≠ '-' ∧ c ≠ '+') :
    P (splitSign cs).2 ↔ ∃ sign body, Sign sign ∧ P body ∧ cs = sign ++ body := by
  constructor
  · intro h
    obtain ⟨sign, hsign, hcs⟩ := exists_sign cs
    exact ⟨sign, _, hsign, h, hcs⟩
  · rintro ⟨sign, body, hsign, hbody, rfl⟩
    rwa [splitSign_append hsign (hP body hbody)]

/-- A row of plain digits is one or more ASCII digits. -/
theorem plainDigits_iff :
    PlainDigits row ↔ row ≠ [] ∧ ∀ c ∈ row, isAsciiDigit c = true := by
  simp [PlainDigits, isDigits]

theorem PlainDigits.ne_nil (h : PlainDigits row) : row ≠ [] :=
  (plainDigits_iff.mp h).1

theorem PlainDigits.isAsciiDigit (h : PlainDigits row) : ∀ c ∈ row, isAsciiDigit c = true :=
  (plainDigits_iff.mp h).2

theorem not_sign_of_isAsciiDigit {c : Char} (h : isAsciiDigit c = true) : c ≠ '-' ∧ c ≠ '+' := by
  constructor <;> rintro rfl <;> exact absurd h (by decide)

/-- A row of digits does not begin with a sign. -/
theorem PlainDigits.not_sign (h : PlainDigits row) : ∀ c ∈ row.head?, c ≠ '-' ∧ c ≠ '+' := by
  intro c hc
  exact not_sign_of_isAsciiDigit (h.isAsciiDigit c (List.mem_of_mem_head? hc))

/-- The plain texts that are read as integers are those of the grammar. -/
theorem readInteger?_ne_none_iff : readInteger? cs ≠ none ↔ IsInteger PlainDigits cs := by
  have hread : readInteger? cs ≠ none ↔
      PlainDigits (splitSign cs).2 ∧ (splitSign cs).2.length ≤ maxIntegerDigits := by
    simp [readInteger?, PlainDigits]
  rw [hread, splitSign_iff (fun row => PlainDigits row ∧ row.length ≤ maxIntegerDigits)
    fun row hrow => hrow.1.not_sign]
  constructor
  · rintro ⟨sign, row, hsign, ⟨hrow, hcount⟩, rfl⟩
    exact .intro hsign hrow (by rwa [digitCount_of_plain hrow])
  · rintro @⟨sign, row, hsign, hrow, hcount⟩
    exact ⟨sign, row, hsign, ⟨hrow, by rwa [digitCount_of_plain hrow] at hcount⟩, rfl⟩

/-- The plain texts that are read as exponents are those of the grammar. The absent exponent is one
of them. -/
theorem readExponent?_ne_none_iff :
    readExponent? cs ≠ none ↔ Exponent PlainDigits cs := by
  cases cs with
  | nil => simp [readExponent?, Exponent.absent]
  | cons c cs =>
    have hread : readExponent? (c :: cs) ≠ none ↔
        (c = 'e' ∨ c = 'E') ∧ PlainDigits (splitSign cs).2 := by
      simp [readExponent?, PlainDigits]
    rw [hread, splitSign_iff PlainDigits fun row hrow => hrow.not_sign]
    constructor
    · rintro ⟨hc, sign, row, hsign, hrow, rfl⟩
      exact .present hc hsign hrow
    · intro h
      cases h with
      | present hc hsign hrow => exact ⟨hc, _, _, hsign, hrow, rfl⟩

/-- The words that are read are those of the grammar, in any letter case. -/
theorem readWord?_ne_none_iff :
    readWord? negative (String.ofList (cs.map Char.toLower)) ≠ none ↔ IsWord cs := by
  unfold readWord? IsWord
  rw [List.mem_cons, List.mem_cons, List.mem_singleton]
  split_ifs <;> simp <;> tauto

/-- An exponent does not begin with a point, so there is no fraction to split off. -/
theorem splitFraction_of_exponent {Row : List Char → Prop} (h : Exponent Row exponent) :
    splitFraction exponent = ([], exponent) := by
  unfold splitFraction
  split
  · exact absurd rfl (h.not_digit _ rfl).2
  · rfl

/-- The digits in front of a text are a row, if there are any. -/
theorem plainDigits_of_span (hspan : cs.span isAsciiDigit = (row, rest)) (hne : row ≠ []) :
    PlainDigits row := by
  rw [List.span_eq_takeWhile_dropWhile] at hspan
  obtain ⟨rfl, -⟩ := Prod.mk.inj hspan
  have hall : ∀ c ∈ cs.takeWhile isAsciiDigit, isAsciiDigit c = true :=
    fun c hc => List.mem_takeWhile_imp hc
  exact plainDigits_iff.mpr ⟨hne, hall⟩

/-- A text is the digits in front of it followed by the rest. -/
theorem eq_append_of_span (hspan : cs.span isAsciiDigit = (row, rest)) : cs = row ++ rest := by
  rw [List.span_eq_takeWhile_dropWhile] at hspan
  obtain ⟨rfl, rfl⟩ := Prod.mk.inj hspan
  exact List.takeWhile_append_dropWhile.symm

/-- A mantissa begins with a digit or a point, never with a sign. -/
theorem Mantissa.not_sign (h : Mantissa PlainDigits mantissa) :
    ∀ c ∈ (mantissa ++ rest).head?, c ≠ '-' ∧ c ≠ '+' := by
  have hfirst {row rest : List Char} (hrow : PlainDigits row) :
      ∀ c ∈ (row ++ rest).head?, c ≠ '-' ∧ c ≠ '+' := by
    rw [List.head?_append_of_ne_nil _ hrow.ne_nil]
    exact hrow.not_sign
  cases h with
  | whole hrow => exact hfirst hrow
  | fraction hrow => simp
  | point hrow | both hrow _ =>
    rw [List.append_assoc]
    exact hfirst hrow

/-- Once the whole digits and the fraction are split off, a decimal number is read if there is a
digit in either of them and the rest is an exponent. -/
theorem readDecimal?_ne_none_iff_of_span {whole after fraction : List Char}
    (hspan : cs.span isAsciiDigit = (whole, after))
    (hfraction : splitFraction after = (fraction, rest)) :
    readDecimal? negative cs ≠ none ↔
      (whole ≠ [] ∨ fraction ≠ []) ∧ readExponent? rest ≠ none := by
  rw [readDecimal?, hspan]
  dsimp only
  rw [hfraction]
  dsimp only
  by_cases hnil : whole = [] ∧ fraction = []
  · simp [hnil]
  · have hisEmpty : ¬ (whole.isEmpty && fraction.isEmpty) = true := by simpa using hnil
    rw [if_neg hisEmpty, and_iff_right (by tauto)]
    cases readExponent? rest <;> simp

/-- The plain texts that are read as decimal numbers are a mantissa followed by an exponent. -/
theorem readDecimal?_ne_none_iff :
    readDecimal? negative cs ≠ none ↔ ∃ mantissa exponent, Mantissa PlainDigits mantissa ∧
      Exponent PlainDigits exponent ∧ cs = mantissa ++ exponent := by
  constructor
  · intro h
    rcases hspan : cs.span isAsciiDigit with ⟨whole, after⟩
    rcases hfraction : splitFraction after with ⟨fraction, rest⟩
    obtain ⟨hne, hrest⟩ := (readDecimal?_ne_none_iff_of_span hspan hfraction).mp h
    rw [readExponent?_ne_none_iff] at hrest
    obtain rfl := eq_append_of_span hspan
    have hwhole := plainDigits_of_span hspan
    unfold splitFraction at hfraction
    split at hfraction
    · next behind =>
      obtain rfl := eq_append_of_span hfraction
      have hdigits := plainDigits_of_span hfraction
      by_cases hnil : whole = []
      · subst hnil
        exact ⟨_, rest, .fraction (hdigits (by simpa using hne)), hrest, rfl⟩
      · by_cases hnil' : fraction = []
        · subst hnil'
          exact ⟨_, rest, .point (hwhole hnil), hrest, by simp⟩
        · exact ⟨_, rest, .both (hwhole hnil) (hdigits hnil'), hrest, by simp⟩
    · obtain ⟨rfl, rfl⟩ := Prod.mk.inj hfraction
      exact ⟨whole, _, .whole (hwhole (by simpa using hne)), hrest, rfl⟩
  · rintro ⟨mantissa, exponent, hmantissa, hexponent, rfl⟩
    have hrest : ∀ c ∈ exponent.head?, isAsciiDigit c = false :=
      fun c hc => (hexponent.not_digit c hc).1
    have hread := readExponent?_ne_none_iff.mpr hexponent
    have hpoint : ∀ {rest : List Char}, ∀ c ∈ ('.' :: rest).head?, isAsciiDigit c = false := by
      simp [Text.isAsciiDigit]
    cases hmantissa with
    | whole hrow =>
      refine (readDecimal?_ne_none_iff_of_span (span_append_rest hrow.isAsciiDigit hrest)
        (splitFraction_of_exponent hexponent)).mpr ⟨.inl hrow.ne_nil, hread⟩
    | point hrow =>
      rw [List.append_assoc]
      exact (readDecimal?_ne_none_iff_of_span (span_append_rest hrow.isAsciiDigit hpoint)
        (span_append_rest (List.forall_mem_nil _) hrest)).mpr ⟨.inl hrow.ne_nil, hread⟩
    | fraction hrow =>
      exact (readDecimal?_ne_none_iff_of_span (span_append_rest (List.forall_mem_nil _) hpoint)
        (span_append_rest hrow.isAsciiDigit hrest)).mpr ⟨.inr hrow.ne_nil, hread⟩
    | both hrow hrow' =>
      rw [List.append_assoc]
      exact (readDecimal?_ne_none_iff_of_span (span_append_rest hrow.isAsciiDigit hpoint)
        (span_append_rest hrow'.isAsciiDigit hrest)).mpr ⟨.inl hrow.ne_nil, hread⟩

/-- The plain texts that are read as floating-point numbers are those of the grammar. -/
theorem readFloat?_ne_none_iff : readFloat? cs ≠ none ↔ IsFloat PlainDigits cs := by
  have hread : readFloat? cs ≠ none ↔ IsWord (splitSign cs).2 ∨
      ∃ mantissa exponent, Mantissa PlainDigits mantissa ∧ Exponent PlainDigits exponent ∧
        (splitSign cs).2 = mantissa ++ exponent := by
    rw [← @readWord?_ne_none_iff (splitSign cs).1, ← @readDecimal?_ne_none_iff (splitSign cs).1]
    rw [← not_and_or, not_iff_not, ← Option.or_eq_none_iff, Option.or_eq_orElse]
    rfl
  rw [hread, splitSign_iff fun body => IsWord body ∨ ∃ mantissa exponent,
    Mantissa PlainDigits mantissa ∧ Exponent PlainDigits exponent ∧ body = mantissa ++ exponent]
  · constructor
    · rintro ⟨sign, body, hsign, hword | ⟨mantissa, exponent, hm, he, rfl⟩, rfl⟩
      · exact .word hsign hword
      · exact .decimal hsign hm he
    · intro h
      cases h with
      | word hsign hword => exact ⟨_, _, hsign, .inl hword, rfl⟩
      | decimal hsign hm he => exact ⟨_, _, hsign, .inr ⟨_, _, hm, he, rfl⟩, rfl⟩
  · rintro body (hword | ⟨mantissa, exponent, hm, he, rfl⟩) c hc
    · have hletter := hword.of_mem (List.mem_of_mem_head? hc)
      constructor <;> rintro rfl <;> exact absurd hletter (by decide)
    · exact hm.not_sign c hc

end Read

end Spelling

namespace Number

/-- A text is not read exactly if it is neither the text of an integer nor that of a floating-point
number. Blanks around it do not matter. -/
theorem read?_eq_none_iff {s : String} :
    read? s = none ↔ ¬ Spelling.IsInteger Spelling.Digits (strip s.toList) ∧
      ¬ Spelling.IsFloat Spelling.Digits (strip s.toList) := by
  rw [Spelling.isInteger_iff, Spelling.isFloat_iff]
  unfold read? plain?
  simp only [← Spelling.readInteger?_ne_none_iff, ← Spelling.readFloat?_ne_none_iff,
    ← Spelling.withoutSeparators?_eq_some_iff]
  cases withoutSeparators? false ((strip s.toList).map toAsciiDigit) with
  | none => simp
  | some ds => simp

/-! ## Integers -/

variable {n : Int}

/-- There is no blank around the text of an integer. -/
theorem trimmed_integerText (n : Int) : Trimmed (integerText n).toList := by
  have hdigits : ∀ d < 10, isBlank (Nat.digitChar d) = false := by decide
  have hblank : ∀ c ∈ (integerText n).toList, isBlank c = false := by
    intro c hc
    rcases mem_integerText hc with hdigit | rfl
    · obtain ⟨d, hd, rfl⟩ := exists_digitChar hdigit
      exact hdigits d hd
    · decide
  exact ⟨fun c hc => hblank c (List.mem_of_mem_head? hc),
    fun c hc => hblank c (List.mem_of_getLast? hc)⟩

/-- The text of an integer is plain already. -/
theorem reduces_integerText (n : Int) :
    Spelling.Reduces (integerText n).toList (integerText n).toList := by
  refine .self fun c hc => (mem_integerText hc).imp_right ?_
  rintro rfl
  exact Spelling.Sign.minus.outside _ List.mem_cons_self

/-- The sign of an integer is split off and tells whether the integer is negative. -/
theorem splitSign_signOf {row : List Char} (hrow : Spelling.PlainDigits row) (n : Int) :
    splitSign (signOf n ++ row) = (decide (n < 0), row) := by
  by_cases hn : n < 0
  · simp [signOf, hn, splitSign]
  · obtain ⟨c, cs, rfl⟩ := List.exists_cons_of_ne_nil hrow.ne_nil
    obtain ⟨hminus, hplus⟩ := hrow.not_sign c rfl
    simp [signOf, hn, splitSign, hminus, hplus]

/-- An integer is its absolute value with its sign. -/
theorem signed_natAbs (n : Int) : Binary64.signed (decide (n < 0)) n.natAbs = n := by
  unfold Binary64.signed
  split
  · next hn =>
    have hneg : n < 0 := of_decide_eq_true hn
    omega
  · next hn =>
    have hnonneg : ¬ n < 0 := of_decide_eq_false (by simpa using hn)
    omega

/-- The text of an integer is read as this integer, if it does not have too many digits. -/
theorem readInteger?_integerText (hfits : fitsDisplay n = true) :
    readInteger? (integerText n).toList = some n := by
  have hdigits : Spelling.PlainDigits (Nat.toDigits 10 n.natAbs) :=
    Spelling.plainDigits_iff.mpr ⟨Nat.toDigits_ne_nil, fun _ => isAsciiDigit_of_mem_toDigits⟩
  have hlength : (Nat.toDigits 10 n.natAbs).length ≤ maxIntegerDigits :=
    Nat.toDigits_length 10 _ _ (by decide) (fitsDisplay_iff.mp hfits)
  have hread : (isDigits (Nat.toDigits 10 n.natAbs) &&
      decide ((Nat.toDigits 10 n.natAbs).length ≤ maxIntegerDigits)) = true := by
    rw [Bool.and_eq_true]
    exact ⟨hdigits, decide_eq_true hlength⟩
  rw [toList_integerText, readInteger?, splitSign_signOf hdigits]
  dsimp only
  rw [if_pos hread, digitsValue_toDigits, signed_natAbs]

/-- The text of an integer is read as this integer, whatever blanks are around it. -/
theorem read?_integerText (hfits : fitsDisplay n = true) {blanks blanks' : List Char}
    (hblanks : allBlank blanks = true) (hblanks' : allBlank blanks' = true) :
    read? (String.ofList (blanks ++ (integerText n).toList ++ blanks')) = some (.int n) := by
  unfold read? plain?
  rw [String.toList_ofList, strip_append hblanks hblanks' (trimmed_integerText n),
    Spelling.withoutSeparators?_eq_some_iff.mpr (reduces_integerText n)]
  simp [readInteger?_integerText hfits]

end Number

end Formulary
