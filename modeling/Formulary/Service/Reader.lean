import Formulary.Service.Basic
import Formulary.Service.Field
import Formulary.Service.Route

/-!
# Reading requests

A framework for the service to run on. A request is routed by its method and its path, and then the
form of the path and of the body is checked. Pages that are not about equations are unknown to it.
-/

namespace Formulary.Service

/-- A request as it arrives: its method in upper case, its path without percent signs and, if it has
one, the text of its body. -/
structure Request where
  method : String
  path : String
  body : Option String

/-- Why a request does not become a call. -/
inductive Refusal
  | route (e : RouteError)
  | complaints (cs : List Complaint)
  /-- The body cannot be decoded, or is JSON that cannot be held. -/
  | unreadableBody

/-- The greatest number of characters in an expression. -/
def maxExpressionLength : Nat := 10000

/-- Reads a handle from a path. -/
def readHandle (handle : String) : Checked Int :=
  located ["path", "equation_id"] (integerOfText handle)

/-- The value of a body, in which at most `depth` lists and objects are nested; `none` if there is
no body or it is the null value. -/
def readBody (depth : Nat) (body : Option String) : Except Refusal (Option Json) :=
  match body with
  | none => .ok none
  | some text =>
    if text.isEmpty then .ok none
    else
      match Json.read depth text with
      | .ok .null => .ok none
      | .ok j => .ok (some j)
      | .error .malformed => .error (.complaints [⟨.invalidJson, ["body"]⟩])
      | .error _ => .error .unreadableBody

/-- Reads a body that has to be an object. -/
def readObject {α : Type} (read : (String → Option Json) → Checked α) :
    Option Json → Checked α
  | none => Checked.fail .missing ["body"]
  | some (.object fields) => read fun key => Json.lastField? key fields
  | some _ => Checked.fail .notObject ["body"]

/-- Reads the expression from a body. -/
def readExpression : Option Json → Checked String :=
  readObject fun field =>
    let location := ["body", "expression"]
    required (readText 0 maxExpressionLength location) location (field "expression")

/-- Reads two handles and an operator of one character in a body. -/
def readMerge : Option Json → Checked Call :=
  readObject fun field =>
    let handle (key : String) : Checked Int :=
      required (readInteger ["body", key]) ["body", key] (field key)
    let location := ["body", "operator"]
    let operator := required (readText 1 1 location) location (field "operator")
    Checked.both (fun (left, right) operator => Call.merge left right operator)
      (Checked.both Prod.mk (handle "left_id") (handle "right_id")) operator

/-- Reads the bindings in a body; without them nothing is bound. -/
def readSolve : Option Json → Checked Bindings :=
  readObject fun field =>
    match field "bindings" with
    | some j => readBindings ["body", "bindings"] j
    | none => .ok Bindings.empty

/-- Faults in a request are a refusal of it. -/
def refuse {α : Type} (c : Checked α) : Except Refusal α :=
  c.mapError .complaints

/-- The call that an endpoint gives with a body. -/
def callOf (body : Except Refusal (Option Json)) : Endpoint → Except Refusal Call
  | .health => pure .health
  | .list => pure .list
  | .create => do refuse ((readExpression (← body)).map .create)
  | .merge => do refuse (readMerge (← body))
  | .read handle => refuse ((readHandle handle).map .read)
  | .delete handle => refuse ((readHandle handle).map .delete)
  | .edit handle => do
    refuse (Checked.both .edit (readHandle handle) (readExpression (← body)))
  | .solve handle => do
    refuse (Checked.both .solve (readHandle handle) (readSolve (← body)))

/-- The call that a request makes. -/
def readCall (depth : Nat) (r : Request) : Except Refusal Call := do
  let endpoint ← (route r.method r.path.toList).mapError Refusal.route
  callOf (readBody depth r.body) endpoint

/-- The answer that reports a refusal. Answers to the method `HEAD` have no body. -/
def Response.ofRefusal (method : String) : Refusal → Response
  | .route .unknownPath => ⟨404, explain "Not Found"⟩
  | .route .wrongMethod => ⟨405, explain "Method Not Allowed"⟩
  | .route (.endsInSlash shorter) => ⟨307, .moved (String.ofList shorter)⟩
  | .complaints cs => ⟨422, .complaints cs⟩
  | .unreadableBody => ⟨400, explain "There was an error parsing the body"⟩
where
  /-- The explanation as a body. -/
  explain (text : String) : Body :=
    if method = "HEAD" then .empty else .detail text

/-- The framework that reads bodies with at most `depth` lists and objects nested in each other. -/
def framework (depth : Nat) : Framework Request :=
  ⟨Request.method, fun r => (readCall depth r).mapError (Response.ofRefusal r.method)⟩

end Formulary.Service
