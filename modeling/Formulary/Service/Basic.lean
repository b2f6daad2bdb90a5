import Formulary.Directory.Operation
import Formulary.Json.Value
import Formulary.Service.Complaint
import Formulary.Settings

/-!
# The web service

A directory behind a web interface. The service is built on a framework that owns the form of
requests: it reads a request as one of a few calls, or answers the request itself. A call is carried
out on the directory. If it succeeds, its answer has the status that the call is declared with; if
it fails, the class of the failure chooses the handler that answers it, and a failure of a class
without a handler escapes to the framework.

## Design notes

The framework is a parameter. What it makes of paths, bodies and characters decides which calls a
service is asked for, and nothing else: the framework never sees the directory.
-/

namespace Formulary.Service

/-! ## Calls -/

/-- A request whose form was found correct. -/
inductive Call
  | health
  | create (expression : String)
  | list
  | merge (left right : Int) (operator : String)
  | read (handle : Int)
  | edit (handle : Int) (expression : String)
  | delete (handle : Int)
  | solve (handle : Int) (bindings : Bindings)

namespace Call

/-- The method that a call is declared for. -/
def method : Call → String
  | health | list | read _ => "GET"
  | create _ | merge _ _ _ | solve _ _ => "POST"
  | edit _ _ => "PUT"
  | delete _ => "DELETE"

/-- The status that the success of a call is declared with. -/
def successStatus : Call → Nat
  | create _ | merge _ _ _ => 201
  | delete _ => 204
  | _ => 200

end Call

/-! ## Answers -/

/-- What is told about a failure. -/
structure ErrorBody where
  detail : String
  error : String
  unbound : Option String
  index : Option Nat
deriving DecidableEq

/-- A failure as it is sent. What has no value is left out. -/
def ErrorBody.json (b : ErrorBody) : Json :=
  .object ([(.text "detail", .text b.detail), (.text "error", .text b.error)]
    ++ field "variable" (b.unbound.map .text)
    ++ field "index" (b.index.map fun i => .number (.int i)))
where
  /-- The field of a key, if there is a value for it. -/
  field (key : String) (value : Option Json) : List (Json.Key × Json) :=
    value.toList.map fun j => (.text key, j)

/-- What an answer holds. -/
inductive Body
  | empty
  /-- A short explanation by the framework. -/
  | detail (text : String)
  /-- What the framework finds wrong with the form of a request. -/
  | complaints (cs : List Complaint)
  /-- Nothing but the path at which the framework would take the request. -/
  | moved (path : String)
  | error (b : ErrorBody)
  /-- The service is up, with the count of equations and the version. -/
  | health (equations : Nat) (version : String)
  | description (d : Description)
  | descriptions (ds : List Description)
  | solution (id : Int) (value : Number) (bindings : Bindings)

/-- An answer with its status. -/
structure Response where
  status : Nat
  body : Body

/-- What stands in front of the service: it knows the method of a request, and reads the request as
a call or answers it itself. -/
structure Framework (ρ : Type) where
  method : ρ → String
  read : ρ → Except Response Call

/-- A request is only read as a call that is declared for its method. -/
def Framework.KeepsMethod {ρ : Type} (f : Framework ρ) : Prop :=
  ∀ r call, f.read r = .ok call → call.method = f.method r

/-! ## Failures -/

/-- The status and the code that a failure is answered with. -/
structure Handling where
  status : Nat
  code : String

/-- The handler of a class. There is none for what cannot come out of a sound directory. -/
def handling? (kind : ErrorKind) : Option Handling :=
  match kind with
  | .notFound => coded 404
  | .unboundVariable | .notReal | .notFinite => coded 422
  | .missingId | .emptyExpression | .invalidExpression | .invalidOperator | .missingOperand
  | .selfReference | .notSimple => coded 400
  | .divisionByZero => some ⟨422, "ZERO_DIVISION"⟩
  | .overflow => some ⟨422, "OVERFLOW"⟩
  | .malformed | .unboundToken | .circular | .unwritable => none
where
  /-- A status with the code of the class itself. -/
  coded (status : Nat) : Option Handling :=
    kind.code?.map (Handling.mk status)

end Service

/-- The variable that is not bound. -/
def Failure.unboundName? : Failure → Option String
  | unboundVariable name => some name
  | _ => none

/-- The position of the character at which a text was refused. -/
def Failure.index? : Failure → Option Nat
  | parse e => e.index?
  | _ => none

namespace Service

/-- The answer to a failure, or the failure itself if it has no handler. -/
def handle (e : Failure) : Except Failure Response :=
  match handling? e.kind with
  | some h => .ok ⟨h.status, .error ⟨e.message, h.code, e.unboundName?, e.index?⟩⟩
  | none => .error e

/-- The answer to what came out of a call. -/
def Call.answer (call : Call) : Except Failure Body → Except Failure Response
  | .ok body => .ok ⟨call.successStatus, body⟩
  | .error e => handle e

/-! ## The service -/

/-- The service in between two requests. -/
structure State where
  settings : Settings
  directory : Directory

namespace State

/-- The service at its start. -/
def fresh (settings : Settings) : State :=
  ⟨settings, Directory.empty⟩

/-- A change of an equation gives the equation as it is afterwards. -/
def changed (o : Outcome Int) : Except Failure Body × Directory :=
  (do return .description (← o.directory.describe (some (← o.result))), o.directory)

/-- The value of an equation as it is sent. JSON has numbers only for finite values. -/
def solution (handle : Int) (b : Bindings) (v : Number) : Except Failure Body :=
  if v.isFinite then .ok (.solution handle v b) else .error (.notFinite v)

/-- Carries out a call: what it gives, and the directory after it. -/
def carryOut (s : State) : Call → Except Failure Body × Directory
  | .health => (.ok (.health s.directory.size s.settings.appVersion), s.directory)
  | .list => (s.directory.list.map .descriptions, s.directory)
  | .read handle => ((s.directory.describe (some handle)).map .description, s.directory)
  | .create expression => changed (s.directory.create (some expression))
  | .merge left right operator =>
    changed (s.directory.merge (some left) (some right) (some operator))
  | .edit handle expression =>
    changed ((s.directory.edit (some handle) (some expression)).map fun _ => handle)
  | .delete handle =>
    let o := s.directory.delete (some handle)
    (o.result.map fun _ => .empty, o.directory)
  | .solve handle b =>
    let o := s.directory.evaluate (some handle) b
    (o.result.bind (solution handle b), o.directory)

/-- The answer to a call, or a failure that escapes, and the state after it. -/
def serve (s : State) (call : Call) : Except Failure Response × State :=
  let carried := s.carryOut call
  (call.answer carried.1, { s with directory := carried.2 })

section Requests

variable {ρ : Type}

/-- The answer to a request, or a failure that escapes, and the state after it. -/
def respond (f : Framework ρ) (s : State) (r : ρ) : Except Failure Response × State :=
  match f.read r with
  | .ok call => s.serve call
  | .error answer => (.ok answer, s)

/-- The state after requests. -/
def after (f : Framework ρ) (s : State) (requests : List ρ) : State :=
  requests.foldl (fun s r => (s.respond f r).2) s

end Requests

end State

end Service

end Formulary
