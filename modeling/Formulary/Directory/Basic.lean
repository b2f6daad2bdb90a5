import Formulary.Directory.Notice
import Formulary.Equation.Table

/-!
# The directory of equations

A directory keeps equations under handles that it gives out itself: 1, 2, 3 and so on, each only
once. A handle is used up only when its equation was made without failure, and it is never given
out again, so a handle always names the same equation or nothing.

## Main definitions

* `Directory` — the last handle given out and the equations
* `Outcome` — the result of an operation, the directory after it and what it reports
* `Directory.create`, `edit`, `merge`, `delete` — the operations that change a directory
* `Directory.evaluate`, `get`, `describe`, `list`, `handles` — the operations that ask it

## Design notes

A new equation gets the next handle, so it goes to the end of the table and the table stays in
ascending order of handles. A composite can only name equations that are there when it is made,
so its operands have smaller handles, and its own handle bounds how deep it is nested.
-/

namespace Formulary

/-- Equations under handles that were given out in ascending order. -/
structure Directory where
  lastHandle : Int
  table : Table
deriving DecidableEq, Inhabited

/-- The result of an operation on a directory, the directory after it, and what it reports. -/
structure Outcome (α : Type) where
  result : Except Failure α
  directory : Directory
  notices : List Notice

namespace Directory

/-- No equations, and no handle given out. -/
def empty : Directory := ⟨0, Table.empty⟩

/-- The outcome of a request that is refused. -/
def failed {α : Type} (d : Directory) (e : Failure) : Outcome α :=
  ⟨.error e, d, []⟩

/-- How many equations there are. -/
def size (d : Directory) : Nat :=
  d.table.size

/-- The handles in use, in ascending order. -/
def handles (d : Directory) : List Int :=
  d.table.handles

/-- Whether there is an equation under a handle. -/
def contains (d : Directory) : Reference → Bool
  | some handle => d.table.contains handle
  | none => false

/-- The equation under a handle, with the handle. -/
def locate (d : Directory) : Reference → Except Failure (Int × Equation)
  | some handle => (d.table.get handle).map fun e => (handle, e)
  | none => .error (.notFound none)

/-- The equation under a handle. -/
def get (d : Directory) (r : Reference) : Except Failure Equation :=
  (d.locate r).map (·.2)

/-- How deep the equation with a handle can be nested. -/
def depthBound (handle : Int) : Nat :=
  handle.toNat

/-- Keeps an equation under its own id, which becomes the last handle given out. -/
def keep (d : Directory) (e : Equation) : Directory :=
  ⟨e.id, d.table.insert e.id e⟩

/-- Makes a simple equation of a text. -/
def create (d : Directory) (text : Option String) : Outcome Int :=
  match Equation.Simple.make (some (d.lastHandle + 1)) text with
  | .error e => d.failed e
  | .ok e => ⟨.ok e.id, d.keep (.simple e), [.created e.id e.formula.text]⟩

/-- Gives a simple equation a new text. -/
def edit (d : Directory) (r : Reference) (text : Option String) : Outcome Unit :=
  match d.locate r with
  | .error e => d.failed e
  | .ok (handle, .composite _) => d.failed (.notSimple handle)
  | .ok (handle, .simple e) =>
    match e.revise text with
    | .error failure => d.failed failure
    | .ok e' =>
      ⟨.ok (), { d with table := d.table.insert handle (.simple e') },
        [.edited handle e'.formula.text]⟩

/-- Joins two equations into a composite and gives it the next handle. -/
def merge (d : Directory) (left right : Reference) (symbol : Option String) : Outcome Int :=
  match d.locate left, d.locate right with
  | .error e, _ => d.failed e
  | .ok _, .error e => d.failed e
  | .ok _, .ok _ =>
    match Equation.Composite.make d.table.find? (some (d.lastHandle + 1)) left right symbol with
    | .error e => d.failed e
    | .ok e =>
      ⟨.ok e.id, d.keep (.composite e), [.merged e.id e.left e.operator e.right]⟩

/-- Removes an equation. Composites that name it stay and fail when they are evaluated. -/
def delete (d : Directory) (r : Reference) : Outcome Unit :=
  match d.locate r with
  | .error e => d.failed e
  | .ok (handle, _) =>
    ⟨.ok (), { d with table := d.table.erase handle }, [.deleted handle]⟩

/-- The value of a stored equation. Its handle bounds how deep it is nested. -/
def valueOf (d : Directory) (b : Bindings) (handle : Int) (e : Equation) :
    Except Failure Number :=
  e.value d.table.find? b (depthBound handle)

/-- The value of an equation for given bindings. -/
def evaluate (d : Directory) (r : Reference) (b : Bindings) : Outcome Number :=
  match d.locate r with
  | .error e => d.failed e
  | .ok (handle, e) =>
    match d.valueOf b handle e with
    | .error failure => d.failed failure
    | .ok v => ⟨.ok v, d, [.solved handle v]⟩

/-- The description of a stored equation. -/
def descriptionOf (d : Directory) (handle : Int) (e : Equation) : Except Failure Description :=
  e.describe d.table.find? (depthBound handle)

/-- What is told about an equation. -/
def describe (d : Directory) (r : Reference) : Except Failure Description := do
  let (handle, e) ← d.locate r
  d.descriptionOf handle e

/-- The descriptions of all equations, in ascending order of handles. -/
def list (d : Directory) : Except Failure (List Description) :=
  d.table.entries.mapM fun (handle, e) => d.descriptionOf handle e

end Directory

end Formulary
