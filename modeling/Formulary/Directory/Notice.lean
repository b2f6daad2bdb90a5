import Formulary.Expression.Evaluate

/-!
# Notices

What a directory reports about its work, and the levels of importance by which reports are
filtered. A report is a message of one line.
-/

namespace Formulary

/-- How important a report is. -/
inductive Level
  | unset
  | debug
  | info
  | warning
  | error
  | critical
deriving DecidableEq, Inhabited

namespace Level

/-- The levels as numbers, where more is more important. -/
def rank : Level → Nat
  | unset => 0
  | debug => 10
  | info => 20
  | warning => 30
  | error => 40
  | critical => 50

/-- The name of a level. -/
def text : Level → String
  | unset => "NOTSET"
  | debug => "DEBUG"
  | info => "INFO"
  | warning => "WARNING"
  | error => "ERROR"
  | critical => "CRITICAL"

/-- The level with a name in upper case; two levels have a second name. -/
def ofName? : String → Option Level
  | "NOTSET" => some unset
  | "DEBUG" => some debug
  | "INFO" => some info
  | "WARNING" => some warning
  | "WARN" => some warning
  | "ERROR" => some error
  | "CRITICAL" => some critical
  | "FATAL" => some critical
  | _ => none

/-- A message of a level is written if the level reaches the threshold. -/
def passes (threshold level : Level) : Bool :=
  threshold.rank ≤ level.rank

end Level

/-- A report of a directory about one piece of work that succeeded. -/
inductive Notice
  | created (id : Int) (text : String)
  | edited (id : Int) (text : String)
  | merged (id left : Int) (operator : Operator) (right : Int)
  | deleted (id : Int)
  | solved (id : Int) (value : Number)

namespace Notice

/-- Changes are information, solutions are for debugging. -/
def level : Notice → Level
  | solved _ _ => .debug
  | _ => .info

/-- The message of a report. -/
def message : Notice → String
  | created id text =>
    let shown := Text.quoted text
    s!"Created equation {integerText id}: {shown}"
  | edited id text =>
    let shown := Text.quoted text
    s!"Edited equation {integerText id}: {shown}"
  | merged id left operator right =>
    let operands := s!"({integerText left}) {operator.text} ({integerText right})"
    s!"Created composite {integerText id} = {operands}"
  | deleted id => s!"Deleted equation {integerText id}"
  | solved id value => s!"Solved equation {integerText id} -> {value.text}"

/-- A report is shown if it is at least as important as the threshold. -/
def passes (threshold : Level) (n : Notice) : Bool :=
  threshold.passes n.level

end Notice

end Formulary
