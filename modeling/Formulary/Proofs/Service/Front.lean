import Formulary.Proofs.Directory.Lifecycle
import Formulary.Proofs.Directory.Locality
import Formulary.Proofs.Directory.Refused
import Formulary.Proofs.Service.Methods

/-!
# The service in front of the directory

What a run of requests leaves behind is what their changes leave behind in a directory that has no
service in front of it, whatever framework reads the requests. A request that is refused, for
whatever reason, changes nothing: making, merging and editing write first and describe what they
have written after that, but the description never fails, since the equation is there and a
composite whose operands are missing has one too.
-/

namespace Formulary

/-- A function on answers leaves failures as they are. -/
theorem Outcome.map_eq_error_iff {α β : Type} {o : Outcome α} {f : α → β} {failure : Failure} :
    (o.map f).result = .error failure ↔ o.result = .error failure :=
  Formulary.map_eq_error_iff

namespace Directory

variable {d : Directory} {k : Int}

/-- An equation that was made is there. -/
theorem find?_of_create {text : Option String} (h : (d.create text).result = .ok k) :
    ∃ e, (d.create text).directory.table.find? k = some e := by
  unfold create at h ⊢
  split at h
  · cases h
  · next e he =>
    obtain rfl := Except.ok.inj h
    exact ⟨.simple e, (find?_keep d (.simple e) _).trans (if_pos rfl)⟩

/-- A composite that was made is there. -/
theorem find?_of_merge {left right : Reference} {symbol : Option String}
    (h : (d.merge left right symbol).result = .ok k) :
    ∃ e, (d.merge left right symbol).directory.table.find? k = some e := by
  unfold merge at h ⊢
  split at h
  · cases h
  · cases h
  · split at h
    · cases h
    · next e he =>
      obtain rfl := Except.ok.inj h
      exact ⟨.composite e, (find?_keep d (.composite e) _).trans (if_pos rfl)⟩

/-- The outcome of an edit that is answered with the handle of the edited equation. -/
theorem find?_of_edit {handle : Int} {text : Option String}
    (h : ((d.edit (some handle) text).map fun _ => handle).result = .ok k) :
    ∃ e, ((d.edit (some handle) text).map fun _ => handle).directory.table.find? k = some e := by
  obtain ⟨_, h, rfl⟩ := map_eq_ok_iff.mp h
  show ∃ e, (d.edit (some handle) text).directory.table.find? handle = some e
  unfold edit at h ⊢
  split at h
  · cases h
  · cases h
  · next k e hlocate =>
    obtain ⟨hk, -⟩ := locate_eq_ok_iff.mp hlocate
    obtain rfl := Option.some.inj hk
    split at h
    · cases h
    · next e' he' => exact ⟨.simple e', (Table.find?_insert _ _ _ _).trans (if_pos rfl)⟩

end Directory

namespace Service

/-! ## Changes -/

/-- The change that a call asks the directory for. -/
def Call.change? : Call → Option Operation
  | .create expression => some (.create (some expression))
  | .merge left right operator => some (.merge (some left) (some right) (some operator))
  | .edit handle expression => some (.edit (some handle) (some expression))
  | .delete handle => some (.delete (some handle))
  | .health | .list | .read _ | .solve _ _ => none

/-- The calls that are answered with the equation that they made or edited. -/
def Call.tells : Call → Bool
  | .create _ | .merge _ _ _ | .edit _ _ => true
  | _ => false

/-- The change that a request asks the directory for, if the framework reads it as a call that has
one. -/
def Framework.change? {ρ : Type} (f : Framework ρ) (r : ρ) : Option Operation :=
  (f.read r).toOption.bind Call.change?

/-- The equation that an answer describes. -/
def Response.told? : Response → Option Description
  | ⟨_, .description told⟩ => some told
  | _ => none

/-- The handle of the equation that a call reads. -/
def Call.read? : Call → Option Int
  | .read k => some k
  | _ => none

/-- A result that holds a call to read is that call. -/
theorem eq_of_read? {result : Except Response Call} {k : Int}
    (h : result.toOption.bind Call.read? = some k) : result = .ok (.read k) := by
  cases result with
  | error => cases h
  | ok call => cases call <;> cases h; rfl

/-- No call that is declared for GET changes anything. -/
theorem Call.change?_of_get {call : Call} (h : call.method = "GET") : call.change? = none := by
  cases call with
  | health | list | read => rfl
  | create | merge | edit | delete | solve => simp [method] at h

/-- No call is declared with the status of an error. -/
theorem Call.successStatus_lt (call : Call) : call.successStatus < 400 := by
  cases call <;> simp [successStatus]

/-- Every handler has the status of an error. -/
theorem status_of_handling? {kind : ErrorKind} {handling : Handling}
    (h : handling? kind = some handling) : 400 ≤ handling.status := by
  cases kind <;> cases h <;> decide

/-- What a handler answers has the status of an error. -/
theorem status_of_handle {e : Failure} {response : Response} (h : handle e = .ok response) :
    400 ≤ response.status := by
  unfold handle at h
  split at h
  · next handling hkind =>
    obtain rfl := Except.ok.inj h
    exact status_of_handling? hkind
  · cases h

namespace State

variable {s : State} {call : Call}

/-- Carrying out a call makes the change that the call asks for, and no other. -/
theorem carryOut_directory (s : State) (call : Call) :
    (s.carryOut call).2 = s.directory.after call.change?.toList := by
  cases call with
  | solve handle b => exact Directory.evaluate_directory s.directory (some handle) b
  | _ => rfl

/-- A change of an equation that leaves the equation there is refused, or it gives the equation as
it is stored afterwards. -/
theorem changed_cases {o : Outcome Int} (hd : o.directory.WellFormed)
    (hserved : ∀ k, o.result = .ok k → ∃ e, o.directory.table.find? k = some e) :
    (∃ e, o.result = .error e ∧ (changed o).1 = .error e) ∨
    ∃ k told, o.result = .ok k ∧ o.directory.describe (some k) = .ok told ∧
      (changed o).1 = .ok (.description told) := by
  unfold changed
  cases hresult : o.result with
  | error e => exact .inl ⟨e, rfl, rfl⟩
  | ok k =>
    obtain ⟨e, he⟩ := hserved k hresult
    obtain ⟨names, hnames⟩ := hd.exists_describe he
    exact .inr ⟨k, ⟨e, names⟩, rfl, hnames, by rw [ok_bind, hnames]; rfl⟩

/-- A call that is answered with an equation is refused and changes nothing, or gives the
description of the equation that is stored afterwards, under its own handle if it was edited. -/
theorem carryOut_tells (hd : s.directory.WellFormed) (hcall : call.tells = true) :
    (∃ e, (s.carryOut call).1 = .error e ∧ (s.carryOut call).2 = s.directory) ∨
    ∃ k told, (s.carryOut call).2.describe (some k) = .ok told ∧
      (s.carryOut call).1 = .ok (.description told) ∧
      ∀ handle expression, call = .edit handle expression → k = handle := by
  have hrefused (op : Operation) {e : Failure}
      (hfailure : (s.directory.perform op).result = .error e) :
      (s.directory.perform op).directory = s.directory :=
    Directory.perform_directory_eq hfailure
  cases call with
  | create expression =>
    rcases changed_cases (hd.perform (.create (some expression)))
      fun _ h => Directory.find?_of_create h with
      ⟨e, hresult, hanswer⟩ | ⟨k, told, -, htold, hanswer⟩
    · exact .inl ⟨e, hanswer,
        hrefused (.create (some expression)) (Outcome.map_eq_error_iff.mpr hresult)⟩
    · exact .inr ⟨k, told, htold, hanswer, fun _ _ h => by cases h⟩
  | merge left right operator =>
    rcases changed_cases (hd.perform (.merge (some left) (some right) (some operator)))
      fun _ h => Directory.find?_of_merge h with
      ⟨e, hresult, hanswer⟩ | ⟨k, told, -, htold, hanswer⟩
    · exact .inl ⟨e, hanswer, hrefused (.merge (some left) (some right) (some operator))
        (Outcome.map_eq_error_iff.mpr hresult)⟩
    · exact .inr ⟨k, told, htold, hanswer, fun _ _ h => by cases h⟩
  | edit handle expression =>
    rcases changed_cases (hd.perform (.edit (some handle) (some expression)))
      fun _ h => Directory.find?_of_edit h with
      ⟨e, hresult, hanswer⟩ | ⟨k, told, hk, htold, hanswer⟩
    · exact .inl ⟨e, hanswer, hrefused (.edit (some handle) (some expression))
        (Outcome.map_eq_error_iff.mpr (Outcome.map_eq_error_iff.mp hresult))⟩
    · obtain ⟨-, -, rfl⟩ := map_eq_ok_iff.mp hk
      exact .inr ⟨handle, told, htold, hanswer, fun _ _ h => (Call.edit.inj h).1⟩
  | health | list | read | delete | solve => cases hcall

/-- A call that fails changes nothing. -/
theorem carryOut_of_error (hd : s.directory.WellFormed) {e : Failure}
    (hfail : (s.carryOut call).1 = .error e) : (s.carryOut call).2 = s.directory := by
  cases htells : call.tells with
  | true =>
    rcases s.carryOut_tells hd htells with ⟨_, -, hdirectory⟩ | ⟨_, _, -, hanswer, -⟩
    · exact hdirectory
    · cases hanswer.symm.trans hfail
  | false =>
    cases call with
    | create | merge | edit => cases htells
    | health | list | read => rfl
    | solve handle b => exact s.carryOut_directory (.solve handle b)
    | delete handle =>
      have hfailure : (s.directory.perform (.delete (some handle))).result = .error e :=
        Outcome.map_eq_error_iff.mpr (map_eq_error_iff.mp hfail)
      exact Directory.perform_directory_eq hfailure

/-- A call that succeeds is answered with the status that it is declared with. -/
theorem serve_of_ok {body : Body} (h : (s.carryOut call).1 = .ok body) :
    (s.serve call).1 = .ok ⟨call.successStatus, body⟩ :=
  congrArg call.answer h

/-- A call that fails is answered by the handler of the failure, if there is one. -/
theorem serve_of_error {e : Failure} (h : (s.carryOut call).1 = .error e) :
    (s.serve call).1 = handle e :=
  congrArg call.answer h

/-- What a call leaves behind is what its change, if it is one, leaves behind in the directory. -/
theorem serve_state (s : State) (call : Call) :
    (s.serve call).2 = { s with directory := s.directory.after call.change?.toList } :=
  congrArg (State.mk s.settings) (s.carryOut_directory call)

/-- A call that is not answered with success changes nothing. -/
theorem serve_of_refused (hd : s.directory.WellFormed)
    (hrefused : ∀ response, (s.serve call).1 = .ok response → 400 ≤ response.status) :
    (s.serve call).2 = s := by
  cases hresult : (s.carryOut call).1 with
  | error e => exact congrArg (State.mk s.settings) (s.carryOut_of_error hd hresult)
  | ok body =>
    have hsuccess := hrefused _ (serve_of_ok hresult)
    exact absurd call.successStatus_lt (Nat.not_lt.mpr hsuccess)

section Requests

variable {ρ : Type} {f : Framework ρ} {r : ρ}

/-- A request that is read as a call is answered as the call. -/
theorem respond_of_read (hcall : f.read r = .ok call) : s.respond f r = s.serve call := by
  unfold respond
  rw [hcall]

/-- The framework answers alone. -/
theorem respond_of_answered {response : Response} (hanswer : f.read r = .error response) :
    s.respond f r = (.ok response, s) := by
  unfold respond
  rw [hanswer]

/-- What a request leaves behind is what its change, if it has one, leaves behind in the directory.
-/
theorem respond_state (f : Framework ρ) (s : State) (r : ρ) :
    (s.respond f r).2 = { s with directory := s.directory.after (f.change? r).toList } := by
  unfold Framework.change?
  cases hcall : f.read r with
  | error response => rw [respond_of_answered hcall]; rfl
  | ok call =>
    rw [respond_of_read hcall]
    exact s.serve_state call

/-- A run of requests is a run of their changes. -/
theorem after_eq (f : Framework ρ) (s : State) (requests : List ρ) :
    s.after f requests =
      { s with directory := s.directory.after (requests.filterMap f.change?) } := by
  induction requests generalizing s with
  | nil => rfl
  | cons r requests ih =>
    have hstep : s.after f (r :: requests) = (s.respond f r).2.after f requests := rfl
    have hchanges : (r :: requests).filterMap f.change? =
        (f.change? r).toList ++ requests.filterMap f.change? := by
      cases hr : f.change? r <;> simp [hr]
    rw [hstep, ih, respond_state, hchanges, Directory.after_append]

/-- What a service holds after any requests can be reached without a service as well. -/
theorem reachable_after (f : Framework ρ) (settings : Settings) (requests : List ρ) :
    ((fresh settings).after f requests).directory.Reachable := by
  rw [after_eq]
  exact Directory.Reachable.empty.after _

/-- A request without a change leaves everything as it is. -/
theorem respond_of_change?_eq_none (s : State) (hr : f.change? r = none) :
    (s.respond f r).2 = s := by
  rw [respond_state, hr]
  rfl

/-- A request that is answered with an error, or not at all, leaves everything as it is. -/
theorem respond_of_refused (hd : s.directory.WellFormed)
    (hrefused : ∀ response, (s.respond f r).1 = .ok response → 400 ≤ response.status) :
    (s.respond f r).2 = s := by
  cases hcall : f.read r with
  | error response => rw [respond_of_answered hcall]
  | ok call =>
    rw [respond_of_read hcall] at hrefused ⊢
    exact serve_of_refused hd hrefused

/-- Reading an equation is answered with its description. -/
theorem respond_of_describe {k : Int} {told : Description} (hr : f.read r = .ok (.read k))
    (htold : s.directory.describe (some k) = .ok told) :
    (s.respond f r).1 = .ok ⟨200, .description told⟩ := by
  rw [respond_of_read hr]
  exact serve_of_ok (congrArg (Except.map Body.description) htold)

end Requests

end State

section Front

variable {ρ : Type} {f : Framework ρ}

/-- A fresh service after any requests holds the directory that the changes among the requests, in
their order, make out of the empty one. Of the next request it holds: if it is refused, for whatever
reason, or answered by the framework alone, or only reads or solves an equation, nothing changes. If
it makes, merges or edits an equation, the answer is what every way of reading the equation next
will be answered with. All of this holds for every framework that reads requests as calls of their
own method. -/
theorem requests_change_directory (hf : f.KeepsMethod) (settings : Settings) (requests : List ρ) :
    let s := (State.fresh settings).after f requests
    s = ⟨settings, Directory.empty.after (requests.filterMap f.change?)⟩ ∧
    ∀ r,
      ((∀ response, (s.respond f r).1 = .ok response → 400 ≤ response.status) →
        (s.respond f r).2 = s) ∧
      (∀ response, f.read r = .error response → s.respond f r = (.ok response, s)) ∧
      (f.method r = "GET" → (s.respond f r).2 = s) ∧
      (∀ handle b, f.read r = .ok (.solve handle b) → (s.respond f r).2 = s) ∧
      ∀ call response, f.read r = .ok call → call.tells = true →
        (s.respond f r).1 = .ok response → response.status < 400 →
        ∃ told, response.body = .description told ∧
          (∀ handle expression, call = .edit handle expression → told.equation.id = handle) ∧
          ∀ r', f.read r' = .ok (.read told.equation.id) →
            ((s.respond f r).2.respond f r').1 = .ok ⟨200, .description told⟩ := by
  intro s
  have hs : s = ⟨settings, Directory.empty.after (requests.filterMap f.change?)⟩ :=
    State.after_eq f (State.fresh settings) requests
  have hd : s.directory.WellFormed := (State.reachable_after f settings requests).wellFormed
  refine ⟨hs, fun r => ⟨State.respond_of_refused hd, fun _ => State.respond_of_answered,
    fun hget => ?_, fun handle b hsolve => ?_,
    fun call response hcall htells hanswer hstatus => ?_⟩⟩
  · refine s.respond_of_change?_eq_none ?_
    unfold Framework.change?
    cases hcall : f.read r with
    | error response => rfl
    | ok call => exact Call.change?_of_get ((hf r call hcall).trans hget)
  · refine s.respond_of_change?_eq_none ?_
    rw [Framework.change?, hsolve]
    rfl
  · have hd' : (s.carryOut call).2.WellFormed := by
      rw [s.carryOut_directory call]
      exact hd.after _
    rw [State.respond_of_read hcall] at hanswer ⊢
    rcases s.carryOut_tells hd htells with ⟨e, hfail, -⟩ | ⟨k, told, htold, hbody, hedit⟩
    · have herror := status_of_handle ((State.serve_of_error hfail).symm.trans hanswer)
      exact absurd hstatus (Nat.not_lt.mpr herror)
    · obtain rfl := Except.ok.inj ((State.serve_of_ok hbody).symm.trans hanswer)
      have hid : told.equation.id = k :=
        (hd'.stored (Directory.find?_of_describe htold)).2.2.id_eq
      refine ⟨told, rfl, fun handle expression hcall => ?_, fun r' hr' => ?_⟩
      · exact hid.trans (hedit handle expression hcall)
      · rw [hid] at hr'
        exact State.respond_of_describe hr' htold

end Front

/-- A run of requests, one of which makes a composite whose operand is deleted. -/
theorem requests_change_directory_dangling :
    let f := framework 4
    let requests : List Request := [
      ⟨"POST", "/equations", some "\x7b\"expression\": \"a+b\"\x7d"⟩,
      ⟨"POST", "/equations/merge",
        some "\x7b\"left_id\": 1, \"right_id\": \"1\", \"operator\": \"*\"\x7d"⟩,
      ⟨"DELETE", "/equations/1", none⟩]
    let s := (State.fresh {}).after f requests
    let edit : Request := ⟨"PUT", "/equations/2", some "\x7b\"expression\": \"c\"\x7d"⟩
    let merge : Request := ⟨"POST", "/equations/merge",
      some "\x7b\"left_id\": 2, \"right_id\": 2, \"operator\": \"^\"\x7d"⟩
    let read : Request := ⟨"GET", "/equations/3", none⟩
    f.KeepsMethod ∧ (s.respond f edit).2 = s ∧
      ∃ told, (s.respond f merge).1 = .ok ⟨201, .description told⟩ ∧
        ((s.respond f merge).2.respond f read).1 = .ok ⟨200, .description told⟩ := by
  intro f requests s edit merge read
  have hf : f.KeepsMethod := keepsMethod_framework 4
  have hs : (State.fresh {}).after f requests = s := rfl
  have hnext := (requests_change_directory hf {} requests).2
  rw [hs] at hnext
  obtain ⟨hedit, htells, hmerge, hid, hread⟩ :
      (s.respond f edit).1.toOption.all (·.status = 400) = true ∧
      (f.read merge).toOption.any Call.tells = true ∧
      (s.respond f merge).1.toOption.any (·.status = 201) = true ∧
      ((s.respond f merge).1.toOption.bind Response.told?).map (·.equation.id) = some 3 ∧
      (f.read read).toOption.bind Call.read? = some 3 := by
    decide +kernel
  clear_value s edit merge read
  obtain ⟨call, hcall, htells⟩ := exists_of_any htells
  obtain ⟨⟨status, body⟩, hanswer, hstatus⟩ := exists_of_any hmerge
  obtain rfl : status = 201 := of_decide_eq_true hstatus
  refine ⟨hf, (hnext edit).1 fun response hresponse => ?_, ?_⟩
  · rw [hresponse] at hedit
    exact Nat.le_of_eq (of_decide_eq_true hedit).symm
  · obtain ⟨told, rfl, -, hnextRead⟩ :=
      (hnext merge).2.2.2.2 call _ hcall htells hanswer (by simp)
    rw [hanswer] at hid
    have hthree : told.equation.id = 3 := Option.some.inj hid
    rw [hthree] at hnextRead
    exact ⟨told, hanswer, hnextRead read (eq_of_read? hread)⟩

end Service

end Formulary
