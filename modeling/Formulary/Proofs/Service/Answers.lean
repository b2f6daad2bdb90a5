import Formulary.Proofs.Directory.Broken
import Formulary.Proofs.Directory.Described
import Formulary.Proofs.Directory.Merging
import Formulary.Proofs.Number.Shown
import Formulary.Proofs.Service.Front

/-!
# What a call is answered with

A call asks the directory for one operation. What the directory makes of it decides the answer: a
failure is answered by the handler of its class, a value is only sent if it is finite, and
everything else is sent with the status of a success. The equation that was made, merged or edited
is described after that, which cannot fail any more.

A directory only fails in ways for which there is a handler, with one exception that is due to the
wording: a handle may have too many digits to be named.
-/

namespace Formulary

/-! ## Failures of a directory -/

/-- The causes for which a directory refuses an operation. An answer that is not finite is none of
them, since only the service objects to it. -/
def Failure.isRefusal : Failure → Bool
  | notFinite _ | malformed _ | unboundToken _ | circular => false
  | _ => true

/-- The classes of what a directory fails with, as far as it can be named. -/
def ErrorKind.isRefusal : ErrorKind → Bool
  | notFinite | malformed | unboundToken | circular | unwritable => false
  | _ => true

namespace Failure

variable {e : Failure}

/-- What is behind a refusal is a refusal. -/
theorem isRefusal_cause (he : e.isRefusal = true) : e.cause.isRefusal = true := by
  cases e with
  | parse e => cases e <;> rfl
  | arithmetic e => cases e <;> rfl
  | notFinite | malformed | unboundToken | circular => cases he
  | _ => rfl

/-- A failure whose handle can be written is seen as what it is. -/
theorem kind_of_isWritable (h : e.isWritable = true) : e.kind = e.cause :=
  congrArg Raised.kind (if_pos h)

/-- A failure whose message cannot be written is of the class for that. -/
theorem kind_of_not_isWritable (h : e.isWritable = false) : e.kind = .unwritable :=
  congrArg Raised.kind (if_neg (Bool.eq_false_iff.mp h))

/-- What a directory refuses has one of the classes that are meant for that, unless it names a
handle of too many digits. -/
theorem isRefusal_kind (he : e.isRefusal = true) :
    e.kind = .unwritable ∨ e.kind.isRefusal = true := by
  cases h : e.isWritable with
  | true => exact .inr ((kind_of_isWritable h).symm ▸ isRefusal_cause he)
  | false => exact .inl (kind_of_not_isWritable h)

/-- A refusal is of that class exactly if the handle that it names has too many digits. -/
theorem kind_eq_unwritable_iff (he : e.isRefusal = true) :
    e.kind = .unwritable ↔ e.handle.isWritable = false := by
  constructor
  · intro hkind
    by_contra h
    have hcause : e.kind = e.cause := kind_of_isWritable (by simpa [isWritable] using h)
    have hrefusal := isRefusal_cause he
    rw [← hcause, hkind] at hrefusal
    cases hrefusal
  · exact kind_of_not_isWritable

/-- The class of a failure with a name is that of a variable that is not bound. -/
theorem unboundName?_eq_some_iff {name : String} :
    e.unboundName? = some name ↔ e = .unboundVariable name := by
  cases e <;> simp [unboundName?]

end Failure

/-- The positions that a mistake in a text has. -/
theorem ParseError.index?_eq_some_iff {e : ParseError} {i : Nat} :
    e.index? = some i ↔ (∃ c, e = .invalidCharacter c i) ∨ e = .unmatchedClose i := by
  cases e <;> simp [index?]

/-- A failure has a position exactly if the character there is at fault. -/
theorem Failure.index?_eq_some_iff {e : Failure} {i : Nat} :
    e.index? = some i ↔
      (∃ c, e = .parse (.invalidCharacter c i)) ∨ e = .parse (.unmatchedClose i) := by
  cases e <;> simp [index?, ParseError.index?_eq_some_iff]

/-! ## Refusals -/

/-- Refusing a text is a refusal. -/
theorem Equation.Simple.isRefusal_of_readText {text : Option String} {e : Failure}
    (h : readText Formula.parse text = .error e) : e.isRefusal = true := by
  unfold readText at h
  split at h
  · cases h; rfl
  · split at h
    · cases h; rfl
    · next s _ =>
      cases hs : Formula.parse s with
      | ok f => rw [hs] at h; cases h
      | error refusal => rw [hs] at h; cases h; rfl

namespace Directory

variable {d : Directory} {e : Failure}

/-- Not finding an equation is a refusal. -/
theorem isRefusal_of_locate {r : Reference} (h : d.locate r = .error e) : e.isRefusal = true := by
  rw [locate_eq_error h]
  rfl

/-- Making an equation fails with a refusal. -/
theorem isRefusal_of_create {text : Option String} (h : (d.create text).result = .error e) :
    e.isRefusal = true := by
  unfold create at h
  split at h
  · next failure hmake =>
    cases h
    exact Equation.Simple.isRefusal_of_readText (map_eq_error_iff.mp hmake)
  · cases h

/-- Editing an equation fails with a refusal. -/
theorem isRefusal_of_edit {r : Reference} {text : Option String}
    (h : (d.edit r text).result = .error e) : e.isRefusal = true := by
  unfold edit at h
  split at h
  · next failure hlocate => cases h; exact isRefusal_of_locate hlocate
  · cases h; rfl
  · split at h
    · next failure hrevise =>
      cases h
      exact Equation.Simple.isRefusal_of_readText (map_eq_error_iff.mp hrevise)
    · cases h

/-- Merging equations fails with a refusal: the operands that were found are not the composite. -/
theorem WellFormed.isRefusal_of_merge (hd : d.WellFormed) {left right : Reference}
    {symbol : Option String} (h : (d.merge left right symbol).result = .error e) :
    e.isRefusal = true := by
  rcases hd.eq_of_merge_eq_error h with rfl | rfl | rfl <;> rfl

/-- Removing an equation fails with a refusal. -/
theorem isRefusal_of_delete {r : Reference} (h : (d.delete r).result = .error e) :
    e.isRefusal = true := by
  unfold delete at h
  split at h
  · next failure hlocate => cases h; exact isRefusal_of_locate hlocate
  · cases h

/-- An evaluation fails in one of its steps. -/
theorem WellFormed.isRefusal_of_valueAt (hd : d.WellFormed) {b : Bindings} {h : Int}
    (hfail : d.valueAt b h = .error e) : e.isRefusal = true := by
  obtain ⟨visits, hvisits⟩ := hd.exists_visits h
  have hfirst : visits.findSome? (d.failureAt? b) = some e := by
    rw [← hd.failureOf?_valueAt hvisits, hfail]
    rfl
  obtain ⟨visit, -, hvisit⟩ := List.exists_of_findSome?_eq_some hfirst
  cases visit with
  | look k =>
    simp only [failureAt?] at hvisit
    split at hvisit <;> cases hvisit
    rfl
  | solve k =>
    rcases hd.failureAt?_solve hvisit with ⟨name, rfl⟩ | ⟨a, rfl⟩ <;> rfl

/-- Evaluating an equation fails with a refusal: there is no circle, and accepted tokens are neither
malformed nor without a binding after their names were looked up. -/
theorem WellFormed.isRefusal_of_evaluate (hd : d.WellFormed) {r : Reference} {b : Bindings}
    (hfail : (d.evaluate r b).result = .error e) : e.isRefusal = true := by
  cases r with
  | none => cases hfail; rfl
  | some h => exact hd.isRefusal_of_valueAt hfail

/-- A description only fails for an equation that is not there. -/
theorem WellFormed.isRefusal_of_describe (hd : d.WellFormed) {r : Reference}
    (hfail : d.describe r = .error e) : e.isRefusal = true := by
  cases hlocate : d.locate r with
  | error failure =>
    rw [describe, hlocate, error_bind] at hfail
    exact Except.error.inj hfail ▸ isRefusal_of_locate hlocate
  | ok found =>
    obtain ⟨rfl, he⟩ := locate_eq_ok_iff.mp hlocate
    obtain ⟨names, hnames⟩ := hd.exists_describe he
    cases hnames.symm.trans hfail

/-- Whatever a directory is asked for, it gives an answer or refuses with one of the causes that are
meant for that. -/
theorem Reachable.isRefusal_of_perform (hd : d.Reachable) {op : Operation}
    (h : (d.perform op).result = .error e) : e.isRefusal = true := by
  have hwf := hd.wellFormed
  cases op with
  | create text => exact isRefusal_of_create (Outcome.map_eq_error_iff.mp h)
  | edit r text => exact isRefusal_of_edit (Outcome.map_eq_error_iff.mp h)
  | merge left right symbol => exact hwf.isRefusal_of_merge (Outcome.map_eq_error_iff.mp h)
  | delete r => exact isRefusal_of_delete (Outcome.map_eq_error_iff.mp h)
  | evaluate r b => exact hwf.isRefusal_of_evaluate (Outcome.map_eq_error_iff.mp h)
  | get r => exact isRefusal_of_locate (map_eq_error_iff.mp (map_eq_error_iff.mp h))
  | describe r => exact hwf.isRefusal_of_describe (map_eq_error_iff.mp h)
  | list =>
    obtain ⟨ds, hlist, -⟩ := hwf.list_eq (hd.pairwise_handles.imp Int.ne_of_lt)
    cases hlist.symm.trans (map_eq_error_iff.mp h)
  | handles | contains => cases h

end Directory

namespace Service

/-! ## Handlers -/

section Handlers

variable {kind : ErrorKind} {handling : Handling}

/-- There is a handler for everything that a directory refuses. -/
theorem exists_handling? (h : kind.isRefusal = true) :
    ∃ handling, handling? kind = some handling := by
  cases kind <;> first | exact ⟨_, rfl⟩ | cases h

/-- The one class that is answered with 404. -/
theorem handling_status_eq_notFound_iff (h : handling? kind = some handling) :
    handling.status = 404 ↔ kind = .notFound := by
  cases kind <;> cases h <;> simp

/-- The classes that are answered with 422. -/
theorem handling_status_eq_unprocessable_iff (h : handling? kind = some handling)
    (hkind : kind.isRefusal = true) :
    handling.status = 422 ↔ kind = .unboundVariable ∨ kind = .notReal ∨ kind = .divisionByZero ∨
      kind = .overflow := by
  cases kind <;> cases h <;> simp_all [ErrorKind.isRefusal]

/-- The classes that are answered with 400: those with a code of their own, except for the ones
above. -/
theorem handling_status_eq_badRequest_iff (h : handling? kind = some handling)
    (hkind : kind.isRefusal = true) :
    handling.status = 400 ↔ kind.code?.isSome = true ∧ kind ≠ .notFound ∧
      kind ≠ .unboundVariable ∧ kind ≠ .notReal := by
  cases kind <;> cases h <;> simp_all [ErrorKind.isRefusal, ErrorKind.code?]

/-- The code in an answer is the one of the class, or tells what kind of arithmetic failed. -/
theorem handling_code (h : handling? kind = some handling) :
    kind.code? = some handling.code ∨ (kind = .divisionByZero ∧ handling.code = "ZERO_DIVISION") ∨
      (kind = .overflow ∧ handling.code = "OVERFLOW") := by
  cases kind <;> cases h <;> simp [ErrorKind.code?]

end Handlers

/-- The error body of a failure. -/
def errorBody (e : Failure) (code : String) : ErrorBody :=
  ⟨e.message, code, e.unboundName?, e.index?⟩

/-- A failure of a directory is answered by the handler of its class, or escapes since it cannot be
named. -/
theorem handle_cases {e : Failure} (he : e.isRefusal = true) :
    (e.kind = .unwritable ∧ handle e = .error e) ∨
    ∃ handling, e.kind.isRefusal = true ∧ handling? e.kind = some handling ∧
      handle e = .ok ⟨handling.status, .error (errorBody e handling.code)⟩ := by
  rcases e.isRefusal_kind he with hkind | hkind
  · exact .inl ⟨hkind, by rw [handle, hkind]; rfl⟩
  · obtain ⟨handling, hhandling⟩ := exists_handling? hkind
    exact .inr ⟨handling, hkind, hhandling, by rw [handle, hhandling]; rfl⟩

/-- The field for a variable is there exactly if there is one. -/
theorem ErrorBody.field_variable_eq_some_iff {b : ErrorBody} {j : Json} :
    b.json.field? "variable" = some j ↔ ∃ name, b.unbound = some name ∧ j = .text name := by
  obtain ⟨detail, error, unbound, index⟩ := b
  cases unbound <;> cases index <;>
    simp [json, json.field, Json.field?, Json.lastField?, eq_comm]

/-- The field for a position is there exactly if there is one, also if it is zero. -/
theorem ErrorBody.field_index_eq_some_iff {b : ErrorBody} {j : Json} :
    b.json.field? "index" = some j ↔ ∃ i : Nat, b.index = some i ∧ j = .number (.int i) := by
  obtain ⟨detail, error, unbound, index⟩ := b
  cases unbound <;> cases index <;>
    simp [json, json.field, Json.field?, Json.lastField?, eq_comm]

/-- The error body of an answer with a given status. -/
def Response.error? (status : Nat) : Response → Option ErrorBody
  | ⟨actual, .error b⟩ => if actual = status then some b else none
  | _ => none

/-- An answer with an error body and a status is the response of both. -/
theorem eq_of_error? {answer : Except Failure Response} {status : Nat} {b : ErrorBody}
    (h : answer.toOption.bind (Response.error? status) = some b) :
    answer = .ok ⟨status, .error b⟩ := by
  cases answer with
  | error => cases h
  | ok response =>
    obtain ⟨actual, body⟩ := response
    cases body with
    | error b' =>
      have herror : (if actual = status then some b' else none) = some b := h
      split at herror
      · next hstatus => cases herror; rw [hstatus]
      · cases herror
    | _ => cases h

/-! ## Calls and answers -/

/-- The operation that a call asks the directory for. -/
def Call.operation? : Call → Option Operation
  | .health => none
  | .create expression => some (.create (some expression))
  | .list => some .list
  | .merge left right operator => some (.merge (some left) (some right) (some operator))
  | .read handle => some (.describe (some handle))
  | .edit handle expression => some (.edit (some handle) (some expression))
  | .delete handle => some (.delete (some handle))
  | .solve handle b => some (.evaluate (some handle) b)

/-- The failure that comes out of the operation of a call. -/
def Call.raised? (call : Call) (d : Directory) : Option Failure :=
  call.operation?.bind fun op => failureOf? (d.perform op).result

/-- The value that is computed for a call, if it solves an equation that has one. -/
def Call.computed? (call : Call) (d : Directory) : Option Number :=
  match call with
  | .solve handle b => (d.evaluate (some handle) b).result.toOption
  | _ => none

/-- Only a call to solve computes a number. -/
theorem Call.computed?_eq_none {call : Call} (d : Directory) (h : ∀ k b, call ≠ .solve k b) :
    call.computed? d = none := by
  cases call with
  | solve k b => exact absurd rfl (h k b)
  | _ => rfl

/-- The number that a call computes is the value of its equation. -/
theorem Call.computed?_eq_some_iff {call : Call} {d : Directory} {v : Number} :
    call.computed? d = some v ↔
      ∃ h b, call = .solve h b ∧ (d.evaluate (some h) b).result = .ok v := by
  cases call with
  | solve h b =>
    constructor
    · intro hv
      cases hresult : (d.evaluate (some h) b).result with
      | error e => simp [computed?, hresult, Except.toOption] at hv
      | ok w => exact ⟨h, b, rfl, by simpa [computed?, hresult, Except.toOption] using hv⟩
    · rintro ⟨h', b', hcall, hresult⟩
      obtain ⟨rfl, rfl⟩ := Call.solve.inj hcall
      simp [computed?, hresult, Except.toOption]
  | _ => simp [computed?]

/-- What a call raises is a refusal. -/
theorem Call.isRefusal_of_raised? {call : Call} {d : Directory} (hd : d.Reachable) {e : Failure}
    (he : call.raised? d = some e) : e.isRefusal = true := by
  obtain ⟨op, -, hop⟩ := Option.bind_eq_some_iff.mp he
  exact hd.isRefusal_of_perform (failureOf?_eq_some_iff.mp hop)

/-- What can come out of a call, by what comes out of its operation. -/
inductive CarriedOut (d : Directory) (call : Call) : Except Failure Body → Prop
  | refused {e : Failure} : call.raised? d = some e → call.computed? d = none →
      CarriedOut d call (.error e)
  | withheld {v : Number} : call.raised? d = none → call.computed? d = some v →
      v.isFinite = false → CarriedOut d call (.error (.notFinite v))
  | solved {h : Int} {b : Bindings} {v : Number} : call = .solve h b → call.raised? d = none →
      call.computed? d = some v → v.isFinite = true → CarriedOut d call (.ok (.solution h v b))
  | done {body : Body} : (∀ h b, call ≠ .solve h b) → call.raised? d = none →
      call.computed? d = none → (∀ b, body ≠ .error b) → CarriedOut d call (.ok body)

/-- A result that is passed on is refused or done as it is. -/
theorem CarriedOut.of_result {α : Type} {d : Directory} {call : Call} {result : Except Failure α}
    {body : α → Body} (hsolve : ∀ h b, call ≠ .solve h b)
    (hraised : call.raised? d = failureOf? result) (hbody : ∀ a b, body a ≠ .error b) :
    CarriedOut d call (result.map body) := by
  have hcomputed := Call.computed?_eq_none d hsolve
  cases result with
  | error e => exact .refused hraised hcomputed
  | ok a => exact .done hsolve hraised hcomputed (hbody a)

/-- A change of an equation that leaves the equation there is refused or done. -/
theorem CarriedOut.changed {d : Directory} {call : Call} {o : Outcome Int}
    (hsolve : ∀ h b, call ≠ .solve h b) (hraised : call.raised? d = failureOf? o.result)
    (hd : o.directory.WellFormed)
    (hserved : ∀ k, o.result = .ok k → ∃ e, o.directory.table.find? k = some e) :
    CarriedOut d call (State.changed o).1 := by
  have hcomputed := Call.computed?_eq_none d hsolve
  rcases State.changed_cases hd hserved with ⟨e, hresult, hanswer⟩ | ⟨k, told, hresult, -, hanswer⟩
  · rw [hanswer]
    exact .refused (hraised.trans (failureOf?_eq_some_iff.mpr hresult)) hcomputed
  · rw [hanswer]
    exact .done hsolve (hraised.trans (failureOf?_eq_none_iff.mpr ⟨k, hresult⟩)) hcomputed nofun

/-- A call is refused, or its value is withheld, or it is done. -/
theorem State.carryOut_cases (s : State) (hd : s.directory.WellFormed) (call : Call) :
    CarriedOut s.directory call (s.carryOut call).1 := by
  have hraised {op : Operation} (hop : call.operation? = some op) :
      call.raised? s.directory = failureOf? (s.directory.perform op).result := by
    rw [Call.raised?, hop, Option.bind_some]
  cases call with
  | health => exact .done (by simp) rfl rfl nofun
  | list => exact .of_result (by simp) ((hraised rfl).trans (failureOf?_map _ _)) nofun
  | read handle => exact .of_result (by simp) ((hraised rfl).trans (failureOf?_map _ _)) nofun
  | delete handle => exact .of_result (by simp) ((hraised rfl).trans (failureOf?_map _ _)) nofun
  | create expression =>
    exact .changed (by simp) ((hraised rfl).trans (failureOf?_map _ _))
      (hd.perform (.create (some expression))) fun _ h => Directory.find?_of_create h
  | merge left right operator =>
    exact .changed (by simp) ((hraised rfl).trans (failureOf?_map _ _))
      (hd.perform (.merge (some left) (some right) (some operator)))
      fun _ h => Directory.find?_of_merge h
  | edit handle expression =>
    have hfailure := (failureOf?_map (s.directory.edit (some handle) (some expression)).result
      fun _ => Answer.done).trans (failureOf?_map _ fun _ => handle).symm
    exact .changed (by simp) ((hraised rfl).trans hfailure)
      (hd.perform (.edit (some handle) (some expression))) fun _ h => Directory.find?_of_edit h
  | solve handle b =>
    have hfailure := (hraised rfl).trans (failureOf?_map _ _)
    have hcomputed : (Call.solve handle b).computed? s.directory =
        (s.directory.evaluate (some handle) b).result.toOption := rfl
    show CarriedOut _ _ ((s.directory.evaluate (some handle) b).result.bind (solution handle b))
    cases hresult : (s.directory.evaluate (some handle) b).result with
    | error e =>
      rw [hresult] at hcomputed
      exact .refused (hfailure.trans (failureOf?_eq_some_iff.mpr hresult)) hcomputed
    | ok v =>
      rw [hresult] at hcomputed
      have hnone := hfailure.trans (failureOf?_eq_none_iff.mpr ⟨v, hresult⟩)
      show CarriedOut _ _ (solution handle b v)
      unfold solution
      cases hfinite : v.isFinite with
      | true => exact .solved rfl hnone hcomputed hfinite
      | false => exact .withheld hnone hcomputed hfinite

/-- The answers that a call can get, by what comes out of its operation. A failure that cannot be
named escapes. -/
inductive Answered (d : Directory) (call : Call) : Except Failure Response → Prop
  | escaped {e : Failure} : call.raised? d = some e → e.kind = .unwritable →
      Answered d call (.error e)
  | refused {e : Failure} {handling : Handling} : call.raised? d = some e →
      call.computed? d = none → e.kind.isRefusal = true → handling? e.kind = some handling →
      Answered d call (.ok ⟨handling.status, .error (errorBody e handling.code)⟩)
  | withheld {v : Number} : call.raised? d = none → call.computed? d = some v →
      v.isFinite = false →
      Answered d call (.ok ⟨422, .error (errorBody (.notFinite v) "NON_FINITE_RESULT")⟩)
  | solved {h : Int} {b : Bindings} {v : Number} : call = .solve h b → call.raised? d = none →
      call.computed? d = some v → v.isFinite = true →
      Answered d call (.ok ⟨call.successStatus, .solution h v b⟩)
  | done {body : Body} : (∀ h b, call ≠ .solve h b) → call.raised? d = none →
      call.computed? d = none → (∀ b, body ≠ .error b) →
      Answered d call (.ok ⟨call.successStatus, body⟩)

/-- Every call gets one of these answers. -/
theorem State.serve_answered (s : State) (hd : s.directory.Reachable) (call : Call) :
    Answered s.directory call (s.serve call).1 := by
  have hcarried := s.carryOut_cases hd.wellFormed call
  show Answered s.directory call (call.answer (s.carryOut call).1)
  generalize (s.carryOut call).1 = result at hcarried
  cases hcarried with
  | @refused e hraised hcomputed =>
    show Answered s.directory call (handle e)
    rcases handle_cases (Call.isRefusal_of_raised? hd hraised) with
      ⟨hkind, hhandle⟩ | ⟨handling, hkind, hhandling, hhandle⟩
    · rw [hhandle]
      exact .escaped hraised hkind
    · rw [hhandle]
      exact .refused hraised hcomputed hkind hhandling
  | withheld hraised hcomputed hinfinite => exact .withheld hraised hcomputed hinfinite
  | solved hcall hraised hcomputed hfinite => exact .solved hcall hraised hcomputed hfinite
  | done hsolve hraised hcomputed hbody => exact .done hsolve hraised hcomputed hbody

section Answered

variable {d : Directory} {call : Call} {answer : Except Failure Response} {response : Response}

/-- Nothing escapes but what cannot be named. -/
theorem Answered.eq_error_iff (h : Answered d call answer) {e : Failure} :
    answer = .error e ↔ call.raised? d = some e ∧ e.kind = .unwritable := by
  cases h with
  | escaped hraised hkind =>
    constructor
    · intro heq
      obtain rfl := Except.error.inj heq
      exact ⟨hraised, hkind⟩
    · rintro ⟨hraised', -⟩
      exact congrArg Except.error (Option.some.inj (hraised.symm.trans hraised'))
  | refused hraised _ hkind =>
    refine iff_of_false nofun ?_
    rintro ⟨hraised', hunwritable⟩
    obtain rfl := Option.some.inj (hraised.symm.trans hraised')
    rw [hunwritable] at hkind
    cases hkind
  | withheld hnone | solved _ hnone | done _ hnone => simp [hnone]

variable (h : Answered d call (.ok response))

include h

/-- An answer has the status 404 exactly if the call failed for a missing equation. -/
theorem Answered.status_eq_notFound_iff :
    response.status = 404 ↔ ∃ e, call.raised? d = some e ∧ e.kind = .notFound := by
  cases h with
  | refused hraised _ _ hhandling => simp [hraised, handling_status_eq_notFound_iff hhandling]
  | withheld hraised => simp [hraised]
  | solved _ hraised | done _ hraised =>
    simp [hraised, Nat.ne_of_lt (call.successStatus_lt.trans (by decide : 400 < 404))]

/-- The classes of failures that are answered as those of a request that was understood. -/
theorem Answered.status_eq_unprocessable_iff :
    response.status = 422 ↔
      (∃ e, call.raised? d = some e ∧ (e.kind = .unboundVariable ∨ e.kind = .notReal ∨
        e.kind = .divisionByZero ∨ e.kind = .overflow)) ∨
      ∃ x, call.computed? d = some (.float x) ∧ x.isFinite = false := by
  cases h with
  | refused hraised hcomputed hkind hhandling =>
    simp [hraised, hcomputed, handling_status_eq_unprocessable_iff hhandling hkind]
  | withheld hraised hcomputed hinfinite =>
    obtain ⟨x, rfl, hx⟩ := Number.isFinite_eq_false_iff.mp hinfinite
    simp [hcomputed, hx]
  | @solved _ _ v _ hraised hcomputed hfinite =>
    have hne := Nat.ne_of_lt (call.successStatus_lt.trans (by decide : 400 < 422))
    simp only [hraised, hcomputed, hne, false_iff]
    rintro (⟨e, he, -⟩ | ⟨x, hx, hinfinite⟩)
    · cases he
    · have hv := Number.isFinite_eq_false_iff.mpr ⟨x, Option.some.inj hx, hinfinite⟩
      cases hv.symm.trans hfinite
  | done _ hraised hcomputed =>
    simp [hraised, hcomputed, Nat.ne_of_lt (call.successStatus_lt.trans (by decide : 400 < 422))]

/-- Every other failure with a code is answered as a mistake of the request. -/
theorem Answered.status_eq_badRequest_iff :
    response.status = 400 ↔ ∃ e, call.raised? d = some e ∧ e.kind.code?.isSome = true ∧
      e.kind ≠ .notFound ∧ e.kind ≠ .unboundVariable ∧ e.kind ≠ .notReal := by
  cases h with
  | refused hraised _ hkind hhandling =>
    simp [hraised, handling_status_eq_badRequest_iff hhandling hkind]
  | withheld hraised => simp [hraised]
  | solved _ hraised | done _ hraised => simp [hraised, Nat.ne_of_lt call.successStatus_lt]

/-- A call that does not fail, and whose number is finite, is answered with success. -/
theorem Answered.succeeds (hraised : call.raised? d = none)
    (hfinite : ∀ x, call.computed? d = some (.float x) → x.isFinite = true) :
    response.status = call.successStatus ∧ ∀ b, response.body ≠ .error b := by
  cases h with
  | refused hfailure => cases hfailure.symm.trans hraised
  | withheld _ hcomputed hinfinite =>
    obtain ⟨x, rfl, hx⟩ := Number.isFinite_eq_false_iff.mp hinfinite
    cases hx.symm.trans (hfinite x hcomputed)
  | solved => exact ⟨rfl, nofun⟩
  | done _ _ _ hbody => exact ⟨rfl, hbody⟩

/-- A failure is told with its message and its code. -/
theorem Answered.body_of_raised? {e : Failure} (hraised : call.raised? d = some e) :
    ∃ code, response.body = .error (errorBody e code) ∧
      (e.kind.code? = some code ∨ (e.kind = .divisionByZero ∧ code = "ZERO_DIVISION") ∨
        (e.kind = .overflow ∧ code = "OVERFLOW")) := by
  cases h with
  | refused hfailure _ _ hhandling =>
    cases hfailure.symm.trans hraised
    exact ⟨_, rfl, handling_code hhandling⟩
  | withheld hnone | solved _ hnone | done _ hnone => cases hnone.symm.trans hraised

/-- The answer in place of a number that is not finite. -/
theorem Answered.eq_of_not_isFinite {v : Number} (hcomputed : call.computed? d = some v)
    (hv : v.isFinite = false) :
    response = ⟨422, .error (errorBody (.notFinite v) "NON_FINITE_RESULT")⟩ := by
  cases h with
  | withheld _ hvalue =>
    cases hvalue.symm.trans hcomputed
    rfl
  | solved _ _ hvalue hfinite =>
    cases hvalue.symm.trans hcomputed
    cases hv.symm.trans hfinite
  | refused _ hnone | done _ _ hnone => cases hnone.symm.trans hcomputed

/-- A solution that is sent has the value of the equation, which is finite. -/
theorem Answered.solution {k : Int} {b : Bindings} (hcall : call = .solve k b)
    (hstatus : response.status = 200) :
    ∃ v, call.computed? d = some v ∧ response.body = .solution k v b ∧ v.isFinite = true := by
  cases h with
  | solved hsolve _ hcomputed hfinite =>
    cases hcall.symm.trans hsolve
    exact ⟨_, hcomputed, rfl, hfinite⟩
  | done hother => exact absurd hcall (hother k b)
  | refused _ _ _ hhandling =>
    have hge := status_of_handling? hhandling
    dsimp only at hstatus
    omega
  | withheld => cases hstatus

/-- The variable and the position in an error body are those of the failure. -/
theorem Answered.mentions {b : ErrorBody} (hbody : response.body = .error b) :
    (∀ name, b.unbound = some name ↔ call.raised? d = some (.unboundVariable name)) ∧
    ∀ i, b.index = some i ↔
      (∃ c, call.raised? d = some (.parse (.invalidCharacter c i))) ∨
        call.raised? d = some (.parse (.unmatchedClose i)) := by
  cases h with
  | refused hraised =>
    obtain rfl := Body.error.inj hbody
    simp [hraised, errorBody, Failure.unboundName?_eq_some_iff, Failure.index?_eq_some_iff]
  | withheld hraised =>
    obtain rfl := Body.error.inj hbody
    simp [hraised, errorBody, Failure.unboundName?, Failure.index?]
  | solved => cases hbody
  | done _ _ _ hother => exact absurd hbody (hother b)

end Answered

end Service

end Formulary
