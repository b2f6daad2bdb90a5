import Formulary.Proofs.Directory.Messages
import Formulary.Proofs.Directory.Reachable

/-!
# The log of a run

A directory reports each of its changes and nothing else at the level of information. Carrying out
the reports one after the other rebuilds the directory, so a run cannot lead anywhere else than its
log tells.
-/

namespace Formulary

/-- The requests that change the directory when they are served. -/
def Operation.writes : Operation → Bool
  | .create _ | .edit _ _ | .merge _ _ _ | .delete _ => true
  | _ => false

/-- Requests that only ask do not change the directory. -/
theorem Operation.writes_eq_false_of_asks {op : Operation} (h : op.asks = true) :
    op.writes = false := by
  cases op <;> first | rfl | cases h

/-- What was reported at the level of information. -/
def Outcome.infoNotices {α : Type} (o : Outcome α) : List Notice :=
  o.notices.filter fun n => n.level = .info

/-- The messages of a request at the level of information. -/
def Outcome.infoMessages {α : Type} (o : Outcome α) : List String :=
  o.infoNotices.map Notice.message

namespace Directory

variable {d : Directory} {op : Operation} {outcome : Outcome Answer}

/-- The reports of a run at the level of information. -/
def infoNotices (d : Directory) (ops : List Operation) : List Notice :=
  (d.run ops).flatMap Outcome.infoNotices

/-- The messages of a run at the level of information. -/
def log (d : Directory) (ops : List Operation) : List String :=
  (d.run ops).flatMap Outcome.infoMessages

/-- The log of a run is made of the messages of these reports. -/
theorem log_eq (d : Directory) (ops : List Operation) :
    d.log ops = (d.infoNotices ops).map Notice.message := by
  rw [log, infoNotices, List.map_flatMap]
  rfl

/-! ## What is logged -/

/-- The change was made. -/
def Logged (op : Operation) (outcome : Outcome Answer) : Prop :=
  op.writes = true ∧ ∃ a, outcome.result = .ok a

/-- A change is logged with one message, and nothing else is logged. -/
theorem Served.infoMessages (h : d.Served op outcome) :
    (Logged op outcome ∧ ∃ message, outcome.infoMessages = [message]) ∨
      ¬ Logged op outcome ∧ outcome.infoMessages = [] := by
  cases h with
  | created | edited | merged | deleted => exact .inl ⟨⟨rfl, _, rfl⟩, _, rfl⟩
  | refused =>
    refine .inr ⟨?_, rfl⟩
    rintro ⟨-, a, ha⟩
    cases ha
  | evaluated => exact .inr ⟨fun h => Bool.false_ne_true h.1, rfl⟩
  | asked a hasks =>
    refine .inr ⟨fun h => ?_, rfl⟩
    exact Bool.false_ne_true ((Operation.writes_eq_false_of_asks hasks).symm.trans h.1)

/-- A text is shown after it was read without failure. -/
theorem Served.showsLegal (h : d.Served op outcome) : ∀ n ∈ outcome.notices, n.ShowsLegal := by
  have hlegal {f : Formula} (hf : Formula.parse f.text = .ok f) : ∀ c ∈ f.text.toList, Legal c := by
    obtain ⟨t, hscan, -⟩ := Formula.parse_eq_ok_iff.mp hf
    exact fun c hc => (exists_scan_iff_balanced.mp ⟨_, hscan⟩).1.legal hc
  intro n hn
  cases h with
  | refused | asked => cases hn
  | created hf | edited _ hf =>
    obtain rfl := List.mem_singleton.mp hn
    exact hlegal hf
  | merged | deleted | evaluated =>
    obtain rfl := List.mem_singleton.mp hn
    trivial

/-- Everything in a log is in printable ASCII. -/
theorem printableAscii_of_mem_log {ops : List Operation} {message : String}
    (h : message ∈ d.log ops) : ∀ c ∈ message.toList, Text.PrintableAscii c := by
  induction ops generalizing d with
  | nil => cases h
  | cons op ops ih =>
    rcases List.mem_append.mp h with h | h
    · obtain ⟨n, hn, rfl⟩ := List.mem_map.mp h
      obtain ⟨hn, hlevel⟩ := List.mem_filter.mp hn
      exact Notice.printableAscii_of_mem_message (of_decide_eq_true hlevel)
        ((d.perform_served op).showsLegal n hn)
    · exact ih h

/-! ## Carrying out the reports -/

/-- What a report says was done. The equation with a text is read from the text again. -/
def replay (d : Directory) : Notice → Directory
  | .created id text =>
    match Formula.parse text with
    | .ok f => d.keep (.simple ⟨id, f⟩)
    | .error _ => d
  | .edited id text =>
    match Formula.parse text with
    | .ok f => { d with table := d.table.insert id (.simple ⟨id, f⟩) }
    | .error _ => d
  | .merged id left operator right => d.keep (.composite ⟨id, left, right, operator⟩)
  | .deleted id => { d with table := d.table.erase id }
  | .solved _ _ => d

/-- The reports about one request tell what became of the directory. -/
theorem Served.replay_infoNotices (h : d.Served op outcome) (hd : d.WellFormed) :
    outcome.infoNotices.foldl replay d = outcome.directory := by
  cases h with
  | refused | asked | evaluated => rfl
  | @created f hf =>
    show replay d (.created (d.lastHandle + 1) f.text) = _
    rw [replay, hf]
  | @edited h e f hfind hf =>
    show replay d (.edited h f.text) = _
    rw [replay, hf]
    -- the equation has the handle as its id
    obtain ⟨-, -, hproper⟩ := hd.stored hfind
    cases hproper
    rfl
  | merged | deleted => rfl

/-- The reports of a run rebuild the directory that it leads to. -/
theorem replay_run (hd : d.WellFormed) (ops : List Operation) :
    (d.infoNotices ops).foldl replay d = d.after ops := by
  induction ops generalizing d with
  | nil => rfl
  | cons op ops ih =>
    rw [infoNotices, run, List.flatMap_cons, List.foldl_append,
      (d.perform_served op).replay_infoNotices hd]
    exact ih (hd.perform op)

/-- All these reports are at the level of information. -/
theorem level_of_mem_infoNotices {ops : List Operation} {n : Notice} (h : n ∈ d.infoNotices ops) :
    n.level = .info := by
  obtain ⟨o, -, hn⟩ := List.mem_flatMap.mp h
  exact of_decide_eq_true (List.mem_filter.mp hn).2

/-- What was reported can be told from the log. -/
theorem infoNotices_eq_of_log_eq {d' : Directory} {ops ops' : List Operation}
    (h : d.log ops = d'.log ops') : d.infoNotices ops = d'.infoNotices ops' := by
  rw [log_eq, log_eq] at h
  exact Notice.eq_of_messages (fun _ => level_of_mem_infoNotices)
    (fun _ => level_of_mem_infoNotices) h

/-- Whatever is asked of a directory, the requests that change it are logged with one message each
and the others are not logged. Messages are in printable ASCII, so each is on one line. Runs from
the empty directory that are logged alike lead to the same directory. -/
theorem log_determines_directory :
    (∀ (d : Directory) (op : Operation),
      (Logged op (d.perform op) ∧ ∃ message, (d.perform op).infoMessages = [message]) ∨
        ¬ Logged op (d.perform op) ∧ (d.perform op).infoMessages = []) ∧
    (∀ ops, ∀ message ∈ empty.log ops, ∀ c ∈ message.toList, Text.PrintableAscii c) ∧
    ∀ ops ops', empty.log ops = empty.log ops' → empty.after ops = empty.after ops' := by
  refine ⟨fun d op => (d.perform_served op).infoMessages,
    fun ops message h => printableAscii_of_mem_log h, fun ops ops' h => ?_⟩
  rw [← replay_run .empty ops, infoNotices_eq_of_log_eq h, replay_run .empty ops']

/-- Line breaks in the texts do not get into the log. Failures and questions leave no trace. -/
theorem log_determines_directory_line_breaks :
    empty.log [.create (some "a\n+\u2028b"), .create (some "a b"), .evaluate (some 1) .empty,
        .edit (some 1) (some "\tx*y"), .merge (some 1) (some 1) (some "-"), .delete (some 1)] =
      ["Created equation 1: 'a\\n+\\u2028b'", "Edited equation 1: '\\tx*y'",
        "Created composite 2 = (1) - (1)", "Deleted equation 1"] ∧
    empty.after [.create (some "a\n+\u2028b"), .create (some "a b"), .evaluate (some 1) .empty,
        .edit (some 1) (some "\tx*y"), .merge (some 1) (some 1) (some "-"), .delete (some 1)] =
      empty.after [.create (some "a\n+\u2028b"), .list, .edit (some 1) (some "\tx*y"),
        .delete (some 2), .merge (some 1) (some 1) (some "-"), .delete (some 1)] := by
  refine ⟨by decide +kernel, log_determines_directory.2.2 _ _ ?_⟩
  decide +kernel

end Directory

end Formulary
