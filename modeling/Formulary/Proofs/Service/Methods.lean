import Formulary.Proofs.Result
import Formulary.Service.Reader

/-!
# Requests are read as calls of their method

A request is routed to an endpoint that is for its method, and the endpoint gives calls that are
declared for the same method. So the framework that reads paths and bodies keeps the method of every
request, however deep it reads.
-/

namespace Formulary.Service

/-- The method that an endpoint is for. -/
def Endpoint.method : Endpoint → String
  | .health | .list | .read _ => "GET"
  | .create | .merge | .solve _ => "POST"
  | .edit _ => "PUT"
  | .delete _ => "DELETE"

/-- The resources that are no single equations are found by the method of the request. -/
theorem method_of_topEndpoint {method name : String} {endpoint : Endpoint}
    (h : topEndpoint method name = .ok endpoint) : endpoint.method = method := by
  unfold topEndpoint at h
  split at h <;> cases h <;> rfl

/-- A single equation is found by the method of the request. -/
theorem method_of_equationEndpoint {method : String} {handle : List Char} {endpoint : Endpoint}
    (h : equationEndpoint method handle = .ok endpoint) : endpoint.method = method := by
  unfold equationEndpoint at h
  split at h
  · cases h; rfl
  · cases h; rfl
  · cases h; rfl
  · split at h <;> cases h; rfl
  · cases h

/-- The endpoint that a request is routed to is for its method. -/
theorem method_of_endpointOf {method : String} {parts : List (List Char)} {endpoint : Endpoint}
    (h : endpointOf method parts = .ok endpoint) : endpoint.method = method := by
  unfold endpointOf at h
  split at h
  · exact method_of_topEndpoint h
  · split at h
    · exact method_of_equationEndpoint h
    · cases h
  · split at h
    · split at h
      · next hmethod => cases h; exact hmethod.symm
      · cases h
    · cases h
  · cases h

/-- A request is routed by its method. -/
theorem method_of_route {method : String} {path : List Char} {endpoint : Endpoint}
    (h : route method path = .ok endpoint) : endpoint.method = method := by
  unfold route at h
  dsimp only at h
  split at h
  · cases h
  · exact method_of_endpointOf h

/-- A check that is refused as a whole succeeds exactly if it finds nothing. -/
theorem refuse_eq_ok_iff {α : Type} {c : Checked α} {a : α} : refuse c = .ok a ↔ c = .ok a :=
  mapError_eq_ok_iff

/-- Checks side by side succeed exactly if each of them does. -/
theorem both_eq_ok_iff {α β γ : Type} {f : α → β → γ} {x : Checked α} {y : Checked β} {c : γ} :
    Checked.both f x y = .ok c ↔ ∃ a b, x = .ok a ∧ y = .ok b ∧ f a b = c := by
  cases x <;> cases y <;> simp [Checked.both]

/-- A body that is read for a merge gives a merge. -/
theorem method_of_readMerge {body : Option Json} {call : Call} (h : readMerge body = .ok call) :
    call.method = "POST" := by
  unfold readMerge readObject at h
  split at h
  · cases h
  · obtain ⟨_, operator, -, -, rfl⟩ := both_eq_ok_iff.mp h
    rfl
  · cases h

/-- An endpoint gives calls of its own method, whatever the body is. -/
theorem method_of_callOf {body : Except Refusal (Option Json)} {endpoint : Endpoint} {call : Call}
    (h : callOf body endpoint = .ok call) : call.method = endpoint.method := by
  cases endpoint with
  | health | list => cases h; rfl
  | create =>
    obtain ⟨_, -, h⟩ := bind_eq_ok_iff.mp h
    obtain ⟨expression, -, rfl⟩ := map_eq_ok_iff.mp (refuse_eq_ok_iff.mp h)
    rfl
  | merge =>
    obtain ⟨_, -, h⟩ := bind_eq_ok_iff.mp h
    exact method_of_readMerge (refuse_eq_ok_iff.mp h)
  | read | delete =>
    obtain ⟨k, -, rfl⟩ := map_eq_ok_iff.mp (refuse_eq_ok_iff.mp h)
    rfl
  | edit | solve =>
    obtain ⟨_, -, h⟩ := bind_eq_ok_iff.mp h
    obtain ⟨k, _, -, -, rfl⟩ := both_eq_ok_iff.mp (refuse_eq_ok_iff.mp h)
    rfl

/-- A request is only read as a call that is declared for its method, however deep bodies are
read. -/
theorem keepsMethod_framework (depth : Nat) : (framework depth).KeepsMethod := by
  intro r call h
  obtain ⟨endpoint, hroute, hcall⟩ := bind_eq_ok_iff.mp (mapError_eq_ok_iff.mp h)
  exact (method_of_callOf hcall).trans (method_of_route (mapError_eq_ok_iff.mp hroute))

end Formulary.Service
