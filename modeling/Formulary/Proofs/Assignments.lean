import Mathlib.Data.List.Forall2
import Formulary.Assignment
import Formulary.Proofs.Number.Reading

/-!
# Assignments are read back

An integer that is shown and put behind a name and `=` is read back as the value of this name. Lists
of assignments are read up to the first one that is at fault, and what is a fault can be told from
one assignment alone.
-/

namespace Formulary

open Text

namespace Assignment

/-- A name that can be assigned to: there is something in it, it neither begins nor ends with a
blank, and there is no `=` in it. -/
structure Assignable (name : String) : Prop where
  ne_empty : name ≠ ""
  trimmed : Trimmed name.toList
  not_mem : '=' ∉ name.toList

/-- The text assigns to a name an integer as it is shown, with any blanks around the two. -/
def Spells (entry : String × Int) (pair : String) : Prop :=
  ∃ shown left right left' right', Number.display? (.int entry.2) = some shown ∧
    (allBlank left = true ∧ allBlank right = true) ∧
    (allBlank left' = true ∧ allBlank right' = true) ∧
    pair.toList = left ++ entry.1.toList ++ right ++ '=' :: (left' ++ shown.toList ++ right')

/-- A text with a number, and with blanks around it at will. -/
def IsNumber (cs : List Char) : Prop :=
  Spelling.IsInteger Spelling.Digits (strip cs) ∨ Spelling.IsFloat Spelling.Digits (strip cs)

/-- What is wrong with a text. The first `=` ends the name. -/
inductive Fault : String → AssignmentError → Prop
  | noEquals {pair : String} : '=' ∉ pair.toList → Fault pair (.noName pair)
  | blankName {pair : String} {name value : List Char} : pair.toList = name ++ '=' :: value →
      '=' ∉ name → allBlank name = true → Fault pair (.noName pair)
  | notNumber {pair : String} {name value : List Char} : pair.toList = name ++ '=' :: value →
      '=' ∉ name → allBlank name = false → ¬ IsNumber value →
      Fault pair (.notNumber (String.ofList (strip name)) (String.ofList value))

variable {pair : String} {cs before after : List Char}

/-! ## One assignment -/

/-- A text without `=` is not split. -/
theorem split?_of_not_mem (h : '=' ∉ cs) : split? cs = none := by
  have hdrop : cs.dropWhile (· ≠ '=') = [] := by
    rw [List.dropWhile_eq_nil_iff]
    rintro c hc
    exact decide_eq_true fun heq => h (heq ▸ hc)
  rw [split?, hdrop]

/-- A text is split at its first `=`. -/
theorem split?_append (hbefore : '=' ∉ before) :
    split? (before ++ '=' :: after) = some (before, after) := by
  have hall : ∀ c ∈ before, decide (c ≠ '=') = true :=
    fun c hc => decide_eq_true fun heq => hbefore (heq ▸ hc)
  have hstop : ∀ c ∈ ('=' :: after).head?, decide (c ≠ '=') = false := by simp
  rw [split?, dropWhile_append_rest hall hstop, takeWhile_append_rest hall hstop]

/-- The texts that are no numbers are not read. -/
theorem read?_eq_none_iff : Number.read? (String.ofList cs) = none ↔ ¬ IsNumber cs := by
  rw [Number.read?_eq_none_iff, String.toList_ofList, IsNumber, not_or]

/-- What reading a text with `=` comes to. -/
theorem read_of_toList (hpair : pair.toList = before ++ '=' :: after) (hbefore : '=' ∉ before) :
    read pair =
      if allBlank before = true then .error (.noName pair)
      else
        (Number.read? (String.ofList after)).elim
          (.error (.notNumber (String.ofList (strip before)) (String.ofList after)))
          fun v => .ok (String.ofList (strip before), v) := by
  have hempty : (strip before).isEmpty = allBlank before := by
    rw [Bool.eq_iff_iff, List.isEmpty_iff, strip_eq_nil_iff]
  rw [read, hpair, split?_append hbefore]
  dsimp only
  rw [hempty]
  cases Number.read? (String.ofList after) <;> rfl

/-- The texts that are refused are those with a fault. -/
theorem read_eq_error_iff {e : AssignmentError} : read pair = .error e ↔ Fault pair e := by
  constructor
  · intro h
    by_cases hmem : '=' ∈ pair.toList
    · obtain ⟨before, after, hpair, hbefore⟩ := List.eq_append_cons_of_mem hmem
      rw [read_of_toList hpair hbefore] at h
      split at h
      · next hblank =>
        cases h
        exact .blankName hpair hbefore hblank
      · next hblank =>
        cases hread : Number.read? (String.ofList after) with
        | none =>
          rw [hread] at h
          cases h
          exact .notNumber hpair hbefore (Bool.eq_false_iff.mpr hblank)
            (read?_eq_none_iff.mp hread)
        | some v =>
          rw [hread] at h
          cases h
    · rw [read, split?_of_not_mem hmem] at h
      cases h
      exact .noEquals hmem
  · intro h
    cases h with
    | noEquals hmem => rw [read, split?_of_not_mem hmem]
    | blankName hpair hname hblank => rw [read_of_toList hpair hname, if_pos hblank]
    | notNumber hpair hname hblank hnumber =>
      rw [read_of_toList hpair hname, if_neg (by simp [hblank]), read?_eq_none_iff.mpr hnumber]
      rfl

/-- There is no `=` among blanks. -/
theorem not_mem_of_allBlank (h : allBlank cs = true) : '=' ∉ cs :=
  fun hmem => absurd (List.all_eq_true.mp h _ hmem) (by decide)

/-- An integer that is shown is the value of the name that it is assigned to. -/
theorem read_of_spells {entry : String × Int} (hname : Assignable entry.1)
    (h : Spells entry pair) : read pair = .ok (entry.1, .int entry.2) := by
  obtain ⟨shown, left, right, left', right', hshown, ⟨hleft, hright⟩, ⟨hleft', hright'⟩, hpair⟩ := h
  obtain ⟨hfits, rfl⟩ := Number.display?_int_eq_some_iff.mp hshown
  have hbefore : '=' ∉ left ++ entry.1.toList ++ right := by
    simp [hname.not_mem, not_mem_of_allBlank hleft, not_mem_of_allBlank hright]
  have hstrip := strip_append hleft hright hname.trimmed
  have hnotBlank : ¬ allBlank (left ++ entry.1.toList ++ right) = true := by
    rw [← strip_eq_nil_iff, hstrip, String.toList_eq_nil_iff]
    exact hname.ne_empty
  rw [read_of_toList hpair hbefore, if_neg hnotBlank,
    Number.read?_integerText hfits hleft' hright', hstrip, String.ofList_toList]
  rfl

/-- Every integer that can be shown can be assigned to every name. -/
theorem exists_spells {entry : String × Int} (hfits : fitsDisplay entry.2 = true) :
    ∃ pair, Spells entry pair := by
  refine ⟨String.ofList (entry.1.toList ++ '=' :: (integerText entry.2).toList), _, [], [], [], [],
    Number.display?_int_eq_some_iff.mpr ⟨hfits, rfl⟩, ⟨rfl, rfl⟩, ⟨rfl, rfl⟩, ?_⟩
  simp

/-- Every list of integers that can be shown can be assigned to any names. -/
theorem exists_forall₂_spells {entries : List (String × Int)}
    (hfits : ∀ entry ∈ entries, fitsDisplay entry.2 = true) :
    ∃ pairs, List.Forall₂ Spells entries pairs := by
  induction entries with
  | nil => exact ⟨[], .nil⟩
  | cons entry entries ih =>
    obtain ⟨hentry, hentries⟩ := List.forall_mem_cons.mp hfits
    obtain ⟨pair, hpair⟩ := exists_spells hentry
    obtain ⟨pairs, hpairs⟩ := ih hentries
    exact ⟨pair :: pairs, .cons hpair hpairs⟩

end Assignment

namespace Bindings

open Assignment

/-! ## Lists of assignments -/

variable {pairs : List String} {entries : List (String × Int)} {b : Bindings}

/-- The value is that of the last entry with the name. -/
def LastValue (entries : List (String × Int)) (name : String) (n : Int) : Prop :=
  ∃ before after, entries = before ++ (name, n) :: after ∧ ∀ entry ∈ after, entry.1 ≠ name

/-- The first assignment with a fault, and this fault. -/
def FirstFault (pairs : List String) (e : AssignmentError) : Prop :=
  ∃ before pair after, pairs = before ++ pair :: after ∧ Fault pair e ∧
    ∀ earlier ∈ before, ∀ e', ¬ Fault earlier e'

/-- The first fault of a list is in its first text, or that text has none and it is the first of the
rest. -/
theorem firstFault_cons_iff {pair : String} {e : AssignmentError} :
    FirstFault (pair :: pairs) e ↔
      Fault pair e ∨ (∀ e', ¬ Fault pair e') ∧ FirstFault pairs e := by
  constructor
  · rintro ⟨before, pair', after, hpairs, hfault, hbefore⟩
    cases before with
    | nil =>
      obtain ⟨rfl, rfl⟩ := List.cons.inj hpairs
      exact .inl hfault
    | cons earlier before =>
      obtain ⟨rfl, rfl⟩ := List.cons.inj hpairs
      obtain ⟨hearlier, hbefore⟩ := List.forall_mem_cons.mp hbefore
      exact .inr ⟨hearlier, before, pair', after, rfl, hfault, hbefore⟩
  · rintro (hfault | ⟨hpair, before, pair', after, rfl, hfault, hbefore⟩)
    · exact ⟨[], pair, pairs, rfl, hfault, List.forall_mem_nil _⟩
    · exact ⟨pair :: before, pair', after, rfl, hfault, List.forall_mem_cons.mpr ⟨hpair, hbefore⟩⟩

/-- Reading stops at the first fault and reports it. -/
theorem addAssignments_eq_error_iff {e : AssignmentError} :
    addAssignments b pairs = .error e ↔ FirstFault pairs e := by
  induction pairs generalizing b with
  | nil => simp [addAssignments, FirstFault]
  | cons pair pairs ih =>
    rw [firstFault_cons_iff, addAssignments]
    cases hread : read pair with
    | error e' =>
      have hfault : ¬ ∀ e', ¬ Fault pair e' := fun h => h e' (read_eq_error_iff.mp hread)
      simp [← read_eq_error_iff (e := e), hread, hfault]
    | ok entry =>
      have hnone : ∀ e', ¬ Fault pair e' := by
        intro e' hfault
        cases hread.symm.trans (read_eq_error_iff.mpr hfault)
      simp [hnone, ih]

/-- There is a first fault if there is any. -/
theorem exists_firstFault_iff :
    (∃ e, FirstFault pairs e) ↔ ∃ pair ∈ pairs, ∃ e, Fault pair e := by
  induction pairs with
  | nil => simp [FirstFault]
  | cons pair pairs ih =>
    simp only [firstFault_cons_iff, List.exists_mem_cons_iff, ← ih]
    by_cases hpair : ∃ e, Fault pair e
    · simp [hpair, exists_or]
    · simp [not_exists.mp hpair]

/-- The entries are bound one after the other. -/
def bindAll (b : Bindings) (entries : List (String × Int)) : Bindings :=
  entries.foldl (fun b entry => b.bind entry.1 (.int entry.2)) b

/-- Texts that assign integers to names bind these names in their order. -/
theorem addAssignments_of_spells (hnames : ∀ entry ∈ entries, Assignable entry.1)
    (hspells : List.Forall₂ Spells entries pairs) :
    addAssignments b pairs = .ok (b.bindAll entries) := by
  induction hspells generalizing b with
  | nil => rfl
  | cons hspell _ ih =>
    obtain ⟨hname, hnames⟩ := List.forall_mem_cons.mp hnames
    rw [addAssignments, read_of_spells hname hspell]
    exact ih hnames

/-- The last value of a name is one further on, or the first one if there is none further on. -/
theorem lastValue_cons_iff {entry : String × Int} {name : String} {n : Int} :
    LastValue (entry :: entries) name n ↔
      LastValue entries name n ∨ entry = (name, n) ∧ ∀ later ∈ entries, later.1 ≠ name := by
  constructor
  · rintro ⟨before, after, hentries, hafter⟩
    cases before with
    | nil =>
      obtain ⟨rfl, rfl⟩ := List.cons.inj hentries
      exact .inr ⟨rfl, hafter⟩
    | cons _ before =>
      obtain ⟨rfl, rfl⟩ := List.cons.inj hentries
      exact .inl ⟨before, after, rfl, hafter⟩
  · rintro (⟨before, after, rfl, hafter⟩ | ⟨rfl, hafter⟩)
    · exact ⟨entry :: before, after, rfl, hafter⟩
    · exact ⟨[], entries, rfl, hafter⟩

/-- After a list of names with integers, a name has its last value there, or else its value before.
-/
theorem value?_bindAll {name : String} {v : Number} :
    (b.bindAll entries).value? name = some v ↔
      (∃ n, LastValue entries name n ∧ v = .int n) ∨
        (∀ entry ∈ entries, entry.1 ≠ name) ∧ b.value? name = some v := by
  induction entries generalizing b with
  | nil => simp [bindAll, LastValue]
  | cons entry entries ih =>
    obtain ⟨other, n⟩ := entry
    rw [bindAll, List.foldl_cons, ← bindAll, ih]
    simp only [lastValue_cons_iff, List.forall_mem_cons, Prod.mk.injEq]
    by_cases hname : other = name
    · subst hname
      rw [value?_bind_self, Option.some_inj]
      simp only [or_and_right, exists_or, true_and, ne_self_iff_false, false_and, or_false]
      refine or_congr_right ⟨?_, ?_⟩
      · rintro ⟨hlater, rfl⟩
        exact ⟨n, ⟨rfl, hlater⟩, rfl⟩
      · rintro ⟨_, ⟨rfl, hlater⟩, rfl⟩
        exact ⟨hlater, rfl⟩
    · rw [value?_bind_of_ne _ _ (Ne.symm hname)]
      simp [hname]

/-- Integers that are shown come back as the values of the names that they are assigned to, the last
one of each name, and no other name is bound. Whatever the assignments are, they are refused exactly
if one of them has a fault, and the first fault is the one that is reported. -/
theorem assignments_read_back :
    (∀ entries : List (String × Int),
      (∀ entry ∈ entries, Assignable entry.1 ∧
        (Nat.digits 10 entry.2.natAbs).length ≤ maxIntegerDigits) →
      (∃ pairs, List.Forall₂ Spells entries pairs) ∧
        ∀ pairs, List.Forall₂ Spells entries pairs →
          ∃ b, ofAssignments pairs = .ok b ∧
            ∀ name v, b.value? name = some v ↔ ∃ n, LastValue entries name n ∧ v = .int n) ∧
    ∀ pairs,
      ((∃ e, ofAssignments pairs = .error e) ↔ ∃ pair ∈ pairs, ∃ e, Fault pair e) ∧
        ∀ e, ofAssignments pairs = .error e ↔ FirstFault pairs e := by
  have herror (pairs : List String) (e : AssignmentError) :
      ofAssignments pairs = .error e ↔ FirstFault pairs e := addAssignments_eq_error_iff
  refine ⟨fun entries hentries => ⟨?_, fun pairs hspells => ?_⟩, fun pairs => ⟨?_, herror pairs⟩⟩
  · exact exists_forall₂_spells fun entry hentry =>
      Number.fitsDisplay_iff_length_digits.mpr (hentries entry hentry).2
  · refine ⟨_, addAssignments_of_spells (fun entry hentry => (hentries entry hentry).1) hspells, ?_⟩
    simp [value?_bindAll]
  · simp only [herror, exists_firstFault_iff]

/-- A name beyond ASCII is bound twice, with blanks of all kinds around it and its values. -/
theorem assignments_read_back_bound_twice :
    (∃ b, ofAssignments ["\u00a0größe =\t-12\n", "x y=0", "größe= 7"] = .ok b ∧
      b.value? "größe" = some (.int 7) ∧ b.value? "x y" = some (.int 0) ∧ b.value? "y" = none) ∧
    ofAssignments ["x=1", "\u2003=2", "y=0x1"] = .error (.noName "\u2003=2") := by
  have hfits : ∀ n ∈ [(-12 : Int), 0, 7], (Nat.digits 10 n.natAbs).length ≤ maxIntegerDigits := by
    simp [maxIntegerDigits]
  have hshown : ∀ n ∈ [(-12 : Int), 0, 7],
      Number.display? (.int n) = some (integerText n) := fun n hn =>
    Number.display?_int_eq_some_iff.mpr
      ⟨Number.fitsDisplay_iff_length_digits.mpr (hfits n hn), rfl⟩
  have hnames : Assignable "größe" ∧ Assignable "x y" := by
    refine ⟨⟨by decide, ?_, by decide⟩, ⟨by decide, ?_, by decide⟩⟩ <;>
      exact trimmed_of_ends rfl rfl rfl rfl
  have hbound := (assignments_read_back.1 [("größe", -12), ("x y", 0), ("größe", 7)]
    (by simp [hnames, maxIntegerDigits])).2 ["\u00a0größe =\t-12\n", "x y=0", "größe= 7"]
    (.cons ⟨_, ['\u00a0'], [' '], ['\t'], ['\n'], hshown _ (by simp), by decide, by decide, rfl⟩
      (.cons ⟨_, [], [], [], [], hshown _ (by simp), by decide, by decide, rfl⟩
        (.cons ⟨_, [], [], [' '], [], hshown _ (by simp), by decide, by decide, rfl⟩ .nil)))
  refine ⟨?_, ?_⟩
  · obtain ⟨b, hread, hvalue⟩ := hbound
    refine ⟨b, hread, ?_, ?_, ?_⟩
    · exact (hvalue _ _).mpr ⟨7, ⟨[("größe", -12), ("x y", 0)], [], rfl, by simp⟩, rfl⟩
    · exact (hvalue _ _).mpr ⟨0, ⟨[("größe", -12)], [("größe", 7)], rfl, by decide⟩, rfl⟩
    · rw [Option.eq_none_iff_forall_ne_some]
      rintro v hv
      obtain ⟨n, ⟨before, after, hentries, -⟩, -⟩ := (hvalue _ _).mp hv
      have hmem : ("y", n) ∈ [("größe", (-12 : Int)), ("x y", 0), ("größe", 7)] := by
        simp [hentries]
      simp at hmem
  · have hfault : Fault "\u2003=2" (.noName "\u2003=2") :=
      @Fault.blankName _ ['\u2003'] ['2'] rfl (by decide) (by decide)
    have hread : read "x=1" = .ok ("x", .int 1) := rfl
    refine ((assignments_read_back.2 _).2 _).mpr ⟨["x=1"], _, ["y=0x1"], rfl, hfault, ?_⟩
    intro earlier hearlier e h
    obtain rfl := List.mem_singleton.mp hearlier
    cases hread.symm.trans (read_eq_error_iff.mpr h)

end Bindings

end Formulary
