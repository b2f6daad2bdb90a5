import Mathlib.Data.List.Induction
import Mathlib.Data.List.Sort
import Formulary.Proofs.Directory.Lifecycle
import Formulary.Proofs.Directory.Locality

/-!
# Clients that keep apart

Several clients send requests about equations to one directory, in any order. If none of them writes
to an equation that another one names, or to one below it, then each client is answered as if it
were alone, and the directory in the end does not depend on the order.
-/

namespace Formulary

namespace Table

/-- The entries of a table are what is found under its handles. -/
theorem entries_eq_filterMap {t : Table} (hnodup : t.handles.Nodup) :
    t.entries = t.handles.filterMap fun h => (t.find? h).map fun e => (h, e) := by
  rw [handles, List.filterMap_map]
  have hentry : ∀ p ∈ t.entries,
      ((fun h => (t.find? h).map fun e => (h, e)) ∘ (·.1)) p = some p := by
    intro p hp
    simp [find?_of_mem_entries hnodup hp]
  rw [List.filterMap_congr hentry, List.filterMap_some]

/-- A table is made of its handles, each used once, and what is found under them. -/
theorem eq_of_find?_eq {t t' : Table} (hnodup : t.handles.Nodup) (hhandles : t.handles = t'.handles)
    (hfind : ∀ h, t.find? h = t'.find? h) : t = t' := by
  have hentries : t.entries = t'.entries := by
    rw [entries_eq_filterMap hnodup, entries_eq_filterMap (hhandles ▸ hnodup), hhandles]
    simp only [hfind]
  cases t
  cases t'
  exact congrArg Table.mk hentries

end Table

namespace Directory

/-- A reachable directory is made of its counter and what is found under the handles. -/
theorem Reachable.ext {d d' : Directory} (hd : d.Reachable) (hd' : d'.Reachable)
    (hlast : d.lastHandle = d'.lastHandle) (hfind : ∀ h, d.table.find? h = d'.table.find? h) :
    d = d' := by
  have hhandles : d.handles = d'.handles := by
    apply hd.pairwise_handles.eq_of_mem_iff hd'.pairwise_handles
    intro h
    rw [mem_handles, mem_handles, hfind]
  have htable : d.table = d'.table :=
    Table.eq_of_find?_eq (hd.pairwise_handles.imp fun hlt => Int.ne_of_lt hlt) hhandles hfind
  obtain ⟨last, table⟩ := d
  exact congrArg₂ Directory.mk hlast htable

end Directory

variable {ι : Type}

/-- All requests of a schedule, in their order. -/
def requests (schedule : List (ι × Operation)) : List Operation :=
  schedule.map (·.2)

theorem requests_append (schedule later : List (ι × Operation)) :
    requests (schedule ++ later) = requests schedule ++ requests later :=
  List.map_append

variable [DecidableEq ι]

/-- The requests of one client in a schedule, in their order. -/
def requestsOf (c : ι) (schedule : List (ι × Operation)) : List Operation :=
  schedule.filterMap fun p => if p.1 = c then some p.2 else none

theorem requestsOf_append (c : ι) (schedule later : List (ι × Operation)) :
    requestsOf c (schedule ++ later) = requestsOf c schedule ++ requestsOf c later :=
  List.filterMap_append

theorem requestsOf_singleton_self (c : ι) (op : Operation) : requestsOf c [(c, op)] = [op] := by
  simp [requestsOf]

theorem requestsOf_singleton_of_ne {c c' : ι} (hc : c' ≠ c) (op : Operation) :
    requestsOf c [(c', op)] = [] := by
  simp [requestsOf, hc]

/-- The requests of a client are those with its mark. -/
theorem mem_requestsOf {c : ι} {op : Operation} {schedule : List (ι × Operation)} :
    op ∈ requestsOf c schedule ↔ (c, op) ∈ schedule := by
  simp [requestsOf]

namespace Directory

variable {d : Directory}

/-- The requests of a list, each with its outcome when the list is run from first to last. -/
def served (d : Directory) (ops : List Operation) : List (Operation × Outcome Answer) :=
  ops.zip (d.run ops)

/-- The handles whose equations the requests of a list change or remove. -/
def written (d : Directory) (ops : List Operation) : List Int :=
  (d.served ops).filterMap fun p => p.1.written? p.2

/-- The answers to the requests of one client in a schedule, in their order. -/
def answersTo (d : Directory) (c : ι) (schedule : List (ι × Operation)) :
    List (Except Failure Answer) :=
  (schedule.zip (d.run (requests schedule))).filterMap fun p =>
    if p.1.1 = c then some p.2.result else none

/-- A list of requests names the handle, or a composite that it lies below. -/
def Reaches (d : Directory) (ops : List Operation) (h : Int) : Prop :=
  ∃ op ∈ ops, ∃ k, op.subject? = some (some k) ∧ Relation.ReflTransGen d.Refers k h

theorem written_append (d : Directory) (ops later : List Operation) :
    d.written (ops ++ later) = d.written ops ++ (d.after ops).written later := by
  rw [written, served, run_append, List.zip_append (d.length_run ops).symm, List.filterMap_append]
  rfl

theorem written_singleton (d : Directory) (op : Operation) :
    d.written [op] = (op.written? (d.perform op)).toList := by
  cases hop : op.written? (d.perform op) <;> simp [written, served, run, hop]

theorem answersTo_append (d : Directory) (c : ι) (schedule later : List (ι × Operation)) :
    d.answersTo c (schedule ++ later) =
      d.answersTo c schedule ++ (d.after (requests schedule)).answersTo c later := by
  have hlen : schedule.length = (d.run (requests schedule)).length := by
    rw [length_run, requests, List.length_map]
  rw [answersTo, requests_append, run_append, List.zip_append hlen, List.filterMap_append]
  rfl

theorem answersTo_singleton_self (d : Directory) (c : ι) (op : Operation) :
    d.answersTo c [(c, op)] = [(d.perform op).result] := by
  simp [answersTo, requests, run]

theorem answersTo_singleton_of_ne (d : Directory) {c c' : ι} (hc : c' ≠ c) (op : Operation) :
    d.answersTo c [(c', op)] = [] := by
  simp [answersTo, requests, run, hc]

/-- What a client reaches has the operands of its composites. -/
theorem closed_reaches (d : Directory) (ops : List Operation) : Closed {h | d.Reaches ops h} d := by
  rintro h ⟨op, hop, k, hk, hchain⟩ j hj
  exact ⟨op, hop, k, hk, hchain.tail hj⟩

/-- A set that has the operands of its composites has all that is reached from its members. -/
theorem Reaches.mem_of_closed {hs : Set Int} (hclosed : Closed hs d) {ops : List Operation}
    (hops : ∀ op ∈ ops, ∀ k, op.subject? = some (some k) → k ∈ hs) {h : Int}
    (hh : d.Reaches ops h) : h ∈ hs := by
  obtain ⟨op, hop, k, hk, hchain⟩ := hh
  induction hchain with
  | refl => exact hops op hop k hk
  | tail _ hrefers ih => exact hclosed _ ih _ hrefers

/-- Every request of a schedule is about an equation that its client reaches, and what a client
alone would write to is out of reach of all others. -/
structure Apart (d : Directory) (reach : ι → Set Int) (schedule : List (ι × Operation)) : Prop where
  subject : ∀ c op, (c, op) ∈ schedule →
    ∃ r, op.subject? = some r ∧ ∀ h, r = some h → h ∈ reach c
  written : ∀ c c', c' ≠ c → ∀ h ∈ d.written (requestsOf c schedule), h ∉ reach c'

/-- After a schedule, every client has been answered as if it were alone and finds what it reaches
as if it were alone. What nobody reaches is unchanged, and so is the counter. -/
structure AsAlone (d : Directory) (reach : ι → Set Int) (schedule : List (ι × Operation)) :
    Prop where
  answers : ∀ c, d.answersTo c schedule = (d.run (requestsOf c schedule)).map (·.result)
  agrees : ∀ c, AgreesOn (reach c) (d.after (requests schedule)) (d.after (requestsOf c schedule))
  closed : ∀ c, Closed (reach c) (d.after (requests schedule))
  outside : ∀ h, (∀ c, h ∉ reach c) →
    (d.after (requests schedule)).table.find? h = d.table.find? h
  counter : (d.after (requests schedule)).lastHandle = d.lastHandle

variable {reach : ι → Set Int} {schedule : List (ι × Operation)}

/-- Clients that keep apart in a schedule keep apart in the front of it. -/
theorem Apart.of_append {later : List (ι × Operation)} (h : d.Apart reach (schedule ++ later)) :
    d.Apart reach schedule := by
  refine ⟨fun c op hop => h.subject c op (List.mem_append_left _ hop), fun c c' hc k hk => ?_⟩
  apply h.written c c' hc k
  rw [requestsOf_append, written_append]
  exact List.mem_append_left _ hk

/-- One more request keeps it so: its client sees nothing of the others, and they see nothing of
what it writes. -/
theorem AsAlone.append_singleton {c : ι} {op : Operation} (hs : d.AsAlone reach schedule)
    (hapart : d.Apart reach (schedule ++ [(c, op)])) :
    d.AsAlone reach (schedule ++ [(c, op)]) := by
  obtain ⟨r, hop, hr⟩ := hapart.subject c op (by simp)
  obtain ⟨hanswer, hagree⟩ := perform_congr (hs.agrees c) (hs.closed c) hop hr
  obtain ⟨hlast, hframe⟩ :=
    ((d.after (requests schedule)).perform_served op).find?_of_not_written hop
  have hafter : d.after (requests (schedule ++ [(c, op)])) =
      ((d.after (requests schedule)).perform op).directory := by
    rw [requests_append, after_append]
    rfl
  have hown : requestsOf c (schedule ++ [(c, op)]) = requestsOf c schedule ++ [op] := by
    rw [requestsOf_append, requestsOf_singleton_self]
  have hother (c' : ι) (hc : c' ≠ c) :
      requestsOf c' (schedule ++ [(c, op)]) = requestsOf c' schedule := by
    rw [requestsOf_append, requestsOf_singleton_of_ne (Ne.symm hc), List.append_nil]
  -- what the request writes to is what it would write to if its client were alone
  have hwritten {h : Int} (hh : op.written? ((d.after (requests schedule)).perform op) = some h) :
      h ∈ reach c ∧ ∀ c', c' ≠ c → h ∉ reach c' := by
    refine ⟨hr h ?_, fun c' hc => hapart.written c c' hc h ?_⟩
    · exact Option.some.inj (hop.symm.trans (Operation.subject?_of_written? hh))
    · rw [Operation.written?_congr hanswer] at hh
      rw [hown, written_append, written_singleton, hh]
      exact List.mem_append_right _ (List.mem_singleton_self h)
  refine ⟨fun c' => ?_, fun c' => ?_, fun c' => ?_, fun h hh => ?_, ?_⟩
  · rw [answersTo_append, hs.answers c']
    by_cases hc : c' = c
    · subst hc
      rw [answersTo_singleton_self, hown, run_append, List.map_append, hanswer]
      rfl
    · rw [answersTo_singleton_of_ne _ (Ne.symm hc), hother c' hc, List.append_nil]
  · rw [hafter]
    by_cases hc : c' = c
    · subst hc
      rw [hown, after_append]
      exact hagree
    · rw [hother c' hc]
      intro h hh
      exact (hframe h fun hw => (hwritten hw).2 c' hc hh).trans (hs.agrees c' h hh)
  · rw [hafter]
    exact (hs.closed c').perform hop
  · rw [hafter, hframe h fun hw => hh c (hwritten hw).1, hs.outside h hh]
  · rw [hafter, hlast, hs.counter]

/-- Where clients keep apart, each of them finds what it would find alone. The induction is on the
schedule, from its end. -/
theorem Apart.asAlone (hclosed : ∀ c, Closed (reach c) d) (hapart : d.Apart reach schedule) :
    d.AsAlone reach schedule := by
  induction schedule using List.reverseRecOn with
  | nil => exact ⟨fun _ => rfl, fun _ _ _ => rfl, hclosed, fun _ _ => rfl, rfl⟩
  | append_singleton schedule p ih => exact (ih hapart.of_append).append_singleton hapart

/-- Clients that keep apart do not see each other. Let every request be an edit, a deletion, an
evaluation, a look-up or a description, and let no client, if it were alone, change or remove an
equation that another one names or that lies below one it names. Then, whatever the order in which
the requests of all clients are served, each client gets the answers that it would get alone, and
the directory in the end is always the same. -/
theorem clients_apart (hd : d.Reachable) (ops : ι → List Operation)
    (hsubject : ∀ c, ∀ op ∈ ops c, (op.subject?).isSome)
    (hapart : ∀ c c', c' ≠ c → ∀ h ∈ d.written (ops c), ¬ d.Reaches (ops c') h) :
    (∀ schedule, (∀ c, requestsOf c schedule = ops c) →
      ∀ c, d.answersTo c schedule = (d.run (ops c)).map (·.result)) ∧
    ∀ schedule schedule', (∀ c, requestsOf c schedule = ops c) →
      (∀ c, requestsOf c schedule' = ops c) →
      d.after (requests schedule) = d.after (requests schedule') := by
  have hclosed (c : ι) : Closed {h | d.Reaches (ops c) h} d := d.closed_reaches (ops c)
  have halone (schedule : List (ι × Operation)) (hops : ∀ c, requestsOf c schedule = ops c) :
      d.AsAlone (fun c => {h | d.Reaches (ops c) h}) schedule := by
    apply Apart.asAlone hclosed
    refine ⟨fun c op hop => ?_, fun c c' hc h hh => ?_⟩
    · have hmem : op ∈ ops c := hops c ▸ mem_requestsOf.mpr hop
      obtain ⟨r, hr⟩ := Option.isSome_iff_exists.mp (hsubject c op hmem)
      refine ⟨r, hr, ?_⟩
      rintro h rfl
      exact ⟨op, hmem, h, hr, .refl⟩
    · rw [hops c] at hh
      exact hapart c c' hc h hh
  refine ⟨fun schedule hops c => ?_, fun schedule schedule' hops hops' => ?_⟩
  · rw [(halone schedule hops).answers c, hops c]
  · have h := halone schedule hops
    have h' := halone schedule' hops'
    refine (hd.after _).ext (hd.after _) (h.counter.trans h'.counter.symm) fun k => ?_
    by_cases hk : ∃ c, d.Reaches (ops c) k
    · obtain ⟨c, hc⟩ := hk
      rw [h.agrees c k hc, h'.agrees c k hc, hops c, hops' c]
    · have hout : ∀ c, ¬ d.Reaches (ops c) k := fun c hc => hk ⟨c, hc⟩
      rw [h.outside k hout, h'.outside k hout]

/-- Two clients, each with an equation and a composite over it, take turns. -/
theorem clients_apart_composites :
    let d := empty.after [.create (some "a"), .create (some "b"),
      .merge (some 1) (some 1) (some "+"), .merge (some 2) (some 2) (some "*")]
    let b := Bindings.ofList [("x", .int 3), ("b", .int 5)]
    let mine := [.edit (some 1) (some "x"), .evaluate (some 3) b, .delete (some 1)]
    let theirs := [.evaluate (some 4) b, .edit (some 2) (some "y^z"), .edit (some 4) (some "x")]
    let mixed := [(false, .evaluate (some 4) b), (true, .edit (some 1) (some "x")),
      (false, .edit (some 2) (some "y^z")), (true, .evaluate (some 3) b),
      (true, .delete (some 1)), (false, .edit (some 4) (some "x"))]
    let ops := fun c : Bool => if c then mine else theirs
    d.Reachable ∧ (∀ c, ∀ op ∈ ops c, (op.subject?).isSome) ∧
      (∀ c c', c' ≠ c → ∀ h ∈ d.written (ops c), ¬ d.Reaches (ops c') h) ∧
      (∀ c, requestsOf c mixed = ops c) ∧
      d.answersTo true mixed = (d.run mine).map (·.result) ∧
      d.answersTo false mixed = (d.run theirs).map (·.result) ∧
      d.after (requests mixed) = d.after (mine ++ theirs) := by
  intro d b mine theirs mixed ops
  have hd : d.Reachable := Reachable.empty.after _
  have hsubject : ∀ c, ∀ op ∈ ops c, (op.subject?).isSome := by
    intro c
    cases c <;> decide
  have hmine : Closed {1, 3} d := by
    rintro h (rfl | rfl) k ⟨e, he, rfl | rfl⟩ <;> cases he <;> simp
  have htheirs : Closed {2, 4} d := by
    rintro h (rfl | rfl) k ⟨e, he, rfl | rfl⟩ <;> cases he <;> simp
  have hapart : ∀ c c', c' ≠ c → ∀ h ∈ d.written (ops c), ¬ d.Reaches (ops c') h := by
    have hwritten : d.written mine = [1, 1] ∧ d.written theirs = [2] := by constructor <;> rfl
    rintro (_ | _) (_ | _) hc h hh hreach
    · exact hc rfl
    · have hmem := hreach.mem_of_closed hmine (by simp [ops, mine, Operation.subject?])
      have hh : h ∈ d.written theirs := hh
      rw [hwritten.2, List.mem_singleton] at hh
      subst hh
      simp at hmem
    · have hmem := hreach.mem_of_closed htheirs (by simp [ops, theirs, Operation.subject?])
      have hh : h ∈ d.written mine := hh
      rw [hwritten.1] at hh
      obtain rfl : h = 1 := by simpa using hh
      simp at hmem
    · exact hc rfl
  have hmixed : ∀ c, requestsOf c mixed = ops c := by
    intro c
    cases c <;> rfl
  obtain ⟨hanswers, hend⟩ := clients_apart hd ops hsubject hapart
  refine ⟨hd, hsubject, hapart, hmixed, hanswers mixed hmixed true, hanswers mixed hmixed false, ?_⟩
  have hinTurn : ∀ c, requestsOf c (mine.map (true, ·) ++ theirs.map (false, ·)) = ops c := by
    intro c
    cases c <;> rfl
  have hrequests : requests (mine.map (true, ·) ++ theirs.map (false, ·)) = mine ++ theirs := rfl
  rw [hend mixed _ hmixed hinTurn, hrequests]

end Directory

end Formulary
