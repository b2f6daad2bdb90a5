import Formulary.Directory.Basic

/-!
# Operations as data

The requests that a directory can serve, as values, with their answers. A run works through a
list of operations and goes on after a failure.
-/

namespace Formulary

/-- A request to a directory. The symbol of a merge is a text or missing: a value of any other kind
names no operator either, and is refused where a missing one is. -/
inductive Operation
  | create (text : Option String)
  | edit (handle : Reference) (text : Option String)
  | merge (left right : Reference) (symbol : Option String)
  | delete (handle : Reference)
  | evaluate (handle : Reference) (b : Bindings)
  | get (handle : Reference)
  | describe (handle : Reference)
  | list
  | handles
  | contains (handle : Reference)

/-- What an operation is answered with. -/
inductive Answer
  | done
  | handle (h : Int)
  | number (v : Number)
  | equation (e : Equation)
  | description (d : Description)
  | descriptions (ds : List Description)
  | handles (hs : List Int)
  | flag (b : Bool)

/-- An outcome with a function on its answer. -/
def Outcome.map {α β : Type} (f : α → β) (o : Outcome α) : Outcome β :=
  ⟨o.result.map f, o.directory, o.notices⟩

namespace Directory

/-- An answer that leaves the directory as it is and reports nothing. -/
def answered (d : Directory) (result : Except Failure Answer) : Outcome Answer :=
  ⟨result, d, []⟩

/-- Serves one request. -/
def perform (d : Directory) : Operation → Outcome Answer
  | .create text => (d.create text).map .handle
  | .edit handle text => (d.edit handle text).map fun _ => .done
  | .merge left right symbol => (d.merge left right symbol).map .handle
  | .delete handle => (d.delete handle).map fun _ => .done
  | .evaluate handle b => (d.evaluate handle b).map .number
  | .get handle => d.answered ((d.get handle).map .equation)
  | .describe handle => d.answered ((d.describe handle).map .description)
  | .list => d.answered (d.list.map .descriptions)
  | .handles => d.answered (.ok (.handles d.handles))
  | .contains handle => d.answered (.ok (.flag (d.contains handle)))

/-- Serves requests from first to last, and gives the outcome of each one. -/
def run (d : Directory) : List Operation → List (Outcome Answer)
  | [] => []
  | op :: ops =>
    let outcome := d.perform op
    outcome :: run outcome.directory ops

end Directory

end Formulary
