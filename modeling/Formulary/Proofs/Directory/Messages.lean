import Mathlib.Data.Bool.AllAny
import Mathlib.Tactic.Tauto
import Formulary.Directory.Notice
import Formulary.Proofs.Expression.Fault
import Formulary.Proofs.Number.Integers
import Formulary.Proofs.Text.Quoted

/-!
# Messages

Every message of a directory begins with what was done, followed by the handle that it was done to
and by the details. No two reports of changes have the same message, and the message is one line of
printable ASCII whatever blanks are in the text that it shows.
-/

namespace Formulary

open Text

namespace Notice

/-- The words that a message begins with. -/
def heading : Notice → String
  | created _ _ => "Created equation "
  | edited _ _ => "Edited equation "
  | merged _ _ _ _ => "Created composite "
  | deleted _ => "Deleted equation "
  | solved _ _ => "Solved equation "

/-- The handle that a message is about. -/
def handle : Notice → Int
  | created id _ | edited id _ | merged id _ _ _ | deleted id | solved id _ => id

/-- What a message says behind the handle. -/
def details : Notice → String
  | created _ text | edited _ text => ": " ++ quoted text
  | merged _ left operator right =>
    " = " ++ ("(" ++ integerText left ++ ") " ++ operator.text ++ " (" ++ integerText right ++ ")")
  | deleted _ => ""
  | solved _ value => " -> " ++ value.text

/-- A message is made of these parts. -/
theorem message_eq (n : Notice) :
    n.message = n.heading ++ integerText n.handle ++ n.details := by
  cases n with
  | deleted id => exact String.append_empty.symm
  | created | edited | merged | solved => exact String.append_assoc

theorem toList_message (n : Notice) :
    n.message.toList =
      n.heading.toList ++ ((integerText n.handle).toList ++ n.details.toList) := by
  rw [message_eq, String.toList_append, String.toList_append, List.append_assoc]

/-- The details do not begin like the end of a handle. -/
theorem head_details (n : Notice) :
    ∀ c ∈ n.details.toList.head?, isAsciiDigit c = false ∧ c ≠ '-' := by
  cases n with
  | deleted id => simp [details]
  | created | edited | merged | solved =>
    simp only [details, String.toList_append]
    intro c hc
    obtain rfl := Option.some.inj hc
    decide

/-- What was done can be told from the beginning of the heading. -/
theorem heading_eq_of_append {m n : Notice} {xs ys : List Char}
    (h : m.heading.toList ++ xs = n.heading.toList ++ ys) : m.heading = n.heading := by
  have hlength (n : Notice) : 9 ≤ n.heading.toList.length := by
    cases n <;> simp only [heading] <;> decide
  have htake := congrArg (List.take 9) h
  rw [List.take_append_of_le_length (hlength m), List.take_append_of_le_length (hlength n)] at htake
  cases m <;> cases n <;> simp only [heading] at htake ⊢ <;> exact absurd htake (by decide)

/-- The text that a message shows can be told from its details. -/
theorem text_eq_of_details {text text' : String}
    (h : (": " ++ quoted text).toList = (": " ++ quoted text').toList) : text = text' := by
  rw [String.toList_append, String.toList_append] at h
  exact quoted_injective (String.toList_inj.mp (List.append_cancel_left h))

/-- The details of a merge, character by character. -/
theorem toList_details_merged (id left right : Int) (o : Operator) :
    (merged id left o right).details.toList =
      ' ' :: '=' :: ' ' :: '(' :: ((integerText left).toList ++
        ')' :: ' ' :: o.symbol :: ' ' :: '(' :: ((integerText right).toList ++ [')'])) := by
  simp only [details, Operator.text, String.toList_append, String.toList_singleton,
    List.append_assoc, List.singleton_append]
  rfl

/-- The operands and the operator of a merge can be told from its details. The handles end where a
bracket is closed. -/
theorem merged_eq_of_details {id id' left left' right right' : Int} {o o' : Operator}
    (h : (merged id left o right).details.toList = (merged id' left' o' right').details.toList) :
    left = left' ∧ o = o' ∧ right = right' := by
  have hclose {xs : List Char} :
      ∀ c ∈ (')' :: xs).head?, isAsciiDigit c = false ∧ c ≠ '-' := by
    rintro c hc
    obtain rfl := Option.some.inj hc
    decide
  rw [toList_details_merged, toList_details_merged] at h
  simp only [List.cons.injEq, true_and] at h
  obtain ⟨hleft, h⟩ := integerText_append_inj hclose hclose h
  simp only [List.cons.injEq, true_and] at h
  obtain ⟨hright, -⟩ := integerText_append_inj hclose hclose h.2
  have hsymbol := h.1
  exact ⟨hleft, Operator.symbol_injective hsymbol, hright⟩

/-- What was changed can be told from the message. -/
theorem message_injective {m n : Notice} (hm : m.level = .info) (hn : n.level = .info)
    (h : m.message = n.message) : m = n := by
  have hchars := congrArg String.toList h
  rw [toList_message, toList_message] at hchars
  have hheading := heading_eq_of_append hchars
  rw [hheading] at hchars
  obtain ⟨hhandle, hdetails⟩ :=
    integerText_append_inj m.head_details n.head_details (List.append_cancel_left hchars)
  cases m with
  | solved => cases hm
  | created id text =>
    cases n with
    | created id' text' =>
      obtain rfl : id = id' := hhandle
      rw [text_eq_of_details hdetails]
    | edited | merged | deleted | solved => exact absurd hheading (by simp only [heading]; decide)
  | edited id text =>
    cases n with
    | edited id' text' =>
      obtain rfl : id = id' := hhandle
      rw [text_eq_of_details hdetails]
    | created | merged | deleted | solved => exact absurd hheading (by simp only [heading]; decide)
  | merged id left o right =>
    cases n with
    | merged id' left' o' right' =>
      obtain rfl : id = id' := hhandle
      obtain ⟨rfl, rfl, rfl⟩ := merged_eq_of_details hdetails
      rfl
    | created | edited | deleted | solved => exact absurd hheading (by simp only [heading]; decide)
  | deleted id =>
    cases n with
    | deleted id' =>
      obtain rfl : id = id' := hhandle
      rfl
    | created | edited | merged | solved => exact absurd hheading (by simp only [heading]; decide)

/-- Reports of changes with the same messages are the same. -/
theorem eq_of_messages {ms ns : List Notice} (hms : ∀ n ∈ ms, n.level = .info)
    (hns : ∀ n ∈ ns, n.level = .info) (h : ms.map message = ns.map message) : ms = ns := by
  induction ms generalizing ns with
  | nil => exact (List.map_eq_nil_iff.mp h.symm).symm
  | cons m ms ih =>
    obtain ⟨n, ns, rfl, hhead, htail⟩ := List.map_eq_cons_iff.mp h.symm
    obtain ⟨hm, hms⟩ := List.forall_mem_cons.mp hms
    obtain ⟨hn, hns⟩ := List.forall_mem_cons.mp hns
    rw [message_injective hm hn hhead.symm, ih hms hns htail.symm]

/-! ## Printable ASCII -/

/-- Integers are written in printable ASCII. -/
theorem printableAscii_of_mem_integerText {n : Int} {c : Char} (hc : c ∈ (integerText n).toList) :
    PrintableAscii c := by
  have hdigits : ∀ d < 10, PrintableAscii (Nat.digitChar d) := by decide
  rcases mem_integerText hc with hdigit | rfl
  · obtain ⟨d, hd, rfl⟩ := exists_digitChar hdigit
    exact hdigits d hd
  · decide

/-- Blanks are not printable, except for the space. -/
theorem eq_space_of_isPrintable {c : Char} (hblank : isBlank c = true)
    (hprintable : isPrintable c = true) : c = ' ' := by
  -- where ranges of the two tables meet, they meet in the space
  have hmeet : ∀ r ∈ blankRanges, ∀ r' ∈ printableRanges,
      r.2 < r'.1 ∨ r'.2 < r.1 ∨ r.2 = ' '.toNat ∧ r'.1 = ' '.toNat := by
    decide +kernel
  obtain ⟨r, hr, hrange⟩ := List.any_eq_true.mp hblank
  obtain ⟨r', hr', hrange'⟩ := List.any_eq_true.mp hprintable
  simp only [Bool.and_eq_true, decide_eq_true_eq] at hrange hrange'
  apply Char.toNat_inj.mp
  rcases hmeet r hr r' hr' with hbelow | habove | ⟨hlast, hfirst⟩ <;> omega

/-- What may stand in an expression and is printable is printable ASCII. All other characters of an
expression are blanks, which are escaped. -/
theorem printableAscii_of_legal {c : Char} (hc : Legal c) (hprintable : isPrintable c = true) :
    PrintableAscii c := by
  rcases hc with hblank | hoperand | hsymbol
  · rw [eq_space_of_isPrintable hblank hprintable]
    decide
  · simp only [isOperandChar, Bool.or_eq_true, Bool.and_eq_true, decide_eq_true_eq] at hoperand
    rcases hoperand with (⟨hleast, hgreatest⟩ | ⟨hleast, hgreatest⟩) | ⟨hleast, hgreatest⟩
    · exact ⟨Char.le_trans (by decide) hleast, Char.le_trans hgreatest (by decide)⟩
    · exact ⟨Char.le_trans (by decide) hleast, Char.le_trans hgreatest (by decide)⟩
    · exact ⟨Char.le_trans (by decide) hleast, Char.le_trans hgreatest (by decide)⟩
  · have hsymbols : ∀ c ∈ ['(', ')', '^', '*', '/', '+', '-'], PrintableAscii c :=
      List.all_iff_forall_prop.mp (by decide)
    exact hsymbols c hsymbol

/-- The texts that a message shows hold legal characters only. -/
def ShowsLegal : Notice → Prop
  | created _ text | edited _ text => ∀ c ∈ text.toList, Legal c
  | _ => True

/-- The details of a report of a change are in printable ASCII. -/
theorem printableAscii_of_mem_details {n : Notice} (hlevel : n.level = .info) (hn : n.ShowsLegal) :
    ∀ c ∈ n.details.toList, PrintableAscii c := by
  cases n with
  | solved => cases hlevel
  | deleted => simp [details]
  | created id text | edited id text =>
    intro c hc
    rw [details, String.toList_append, List.mem_append] at hc
    rcases hc with hc | hc
    · have hseparator : ∀ c ∈ ": ".toList, PrintableAscii c :=
        List.all_iff_forall_prop.mp (by decide)
      exact hseparator c hc
    · exact printableAscii_of_mem_quoted (fun c hc => printableAscii_of_legal (hn c hc)) c hc
  | merged id left o right =>
    have hsigns : ∀ c ∈ [' ', '=', '(', ')', o.symbol], PrintableAscii c := by
      cases o <;> exact List.all_iff_forall_prop.mp (by decide)
    intro c hc
    simp only [toList_details_merged, List.mem_cons, List.mem_append, List.not_mem_nil,
      or_false] at hc
    by_cases hleft : c ∈ (integerText left).toList
    · exact printableAscii_of_mem_integerText hleft
    · by_cases hright : c ∈ (integerText right).toList
      · exact printableAscii_of_mem_integerText hright
      · exact hsigns c (by simp; tauto)

/-- Messages about changes are in printable ASCII. -/
theorem printableAscii_of_mem_message {n : Notice} (hlevel : n.level = .info) (hn : n.ShowsLegal) :
    ∀ c ∈ n.message.toList, PrintableAscii c := by
  intro c hc
  rw [toList_message, List.mem_append, List.mem_append] at hc
  rcases hc with hc | hc | hc
  · have hheadings : ∀ c ∈ n.heading.toList, PrintableAscii c := by
      cases n <;> exact List.all_iff_forall_prop.mp (by simp only [heading]; decide)
    exact hheadings c hc
  · exact printableAscii_of_mem_integerText hc
  · exact printableAscii_of_mem_details hlevel hn c hc

end Notice

end Formulary
