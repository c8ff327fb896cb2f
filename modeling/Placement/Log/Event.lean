import Placement.ConstraintError
import Placement.Text.Quoted

/-!
# What is logged

Every event has a level, a target that says which part it comes from, and a text. Compiling reports
each reduction and then whether the text was compiled or rejected; evaluating reports every node, if
the context asks for it.
-/

namespace Placement

/-- How important an event is. -/
inductive LogLevel
  | trace
  | debug
  | info
  | warn
  | error
  deriving DecidableEq, Repr

namespace LogLevel

/-- Higher for what is logged less readily. -/
def rank : LogLevel → Nat
  | trace => 0
  | debug => 1
  | info => 2
  | warn => 3
  | error => 4

def name : LogLevel → Text
  | trace => "TRACE".toList
  | debug => "DEBUG".toList
  | info => "INFO".toList
  | warn => "WARN".toList
  | error => "ERROR".toList

end LogLevel

/-- Something that is logged. -/
inductive LogEvent
  | reduced (op : Operator) (node : Node)
  | compiled (text : Text) (forPrimary : Bool)
  | rejected (text : Text) (error : ParseError)
  | loadedProperties (path : Text) (count : Nat)
  | checking (properties : Nat) (primary : Bool)
  | evaluated (node : Node) (value : Value)
  | evaluationFailed (node : Node) (error : EvalError)
  deriving DecidableEq, Repr

/-- The target that all others begin with. -/
def rootTarget : Text := "fabric_constraint".toList

namespace LogEvent

def level : LogEvent → LogLevel
  | reduced _ _ | evaluated _ _ | evaluationFailed _ _ => .trace
  | compiled _ _ | rejected _ _ | loadedProperties _ _ | checking _ _ => .debug

def target : LogEvent → Text
  | reduced _ _ | compiled _ _ | rejected _ _ => rootTarget ++ "::parser".toList
  | evaluated _ _ | evaluationFailed _ _ => rootTarget ++ "::eval".toList
  | loadedProperties _ _ => rootTarget ++ "::props".toList
  | checking _ _ => rootTarget

/-- The wording of an event. -/
def text : LogEvent → Text
  | reduced op node =>
    "reduced operator=".toList ++ op.symbol.quoted ++ " node=".toList ++ node.render
  | compiled t forPrimary =>
    "compiled constraint constraint=".toList ++ t.quoted ++ " for_primary=".toList
      ++ .ofBool forPrimary
  | rejected t error =>
    "rejected constraint constraint=".toList ++ t.quoted ++ " error=".toList ++ error.message
  | loadedProperties path count =>
    "loaded properties file path=".toList ++ path ++ " count=".toList ++ .ofNat count
  | checking properties primary =>
    "checking constraint properties=".toList ++ .ofNat properties ++ " primary=".toList
      ++ .ofBool primary
  | evaluated node value =>
    "evaluated node=".toList ++ node.render ++ " value=".toList ++ value.render
  | evaluationFailed node error =>
    "evaluation failed node=".toList ++ node.render ++ " error=".toList ++ error.message

end LogEvent

/-! ## Events of the library -/

/-- The report of an evaluated node. -/
def NodeEvent.logged (e : NodeEvent) : LogEvent :=
  match e.outcome with
  | .ok value => .evaluated e.node value
  | .error error => .evaluationFailed e.node error

/-- What evaluating logs. -/
def Evaluation.logged (e : Evaluation) : List LogEvent := e.events.map NodeEvent.logged

/-- What compiling a text logs. A text of nothing but blanks is not compiled and logs nothing. -/
def Compilation.logged (text : Text) (c : Compilation) : List LogEvent :=
  if text.trimBlanks.isEmpty then []
  else
    c.reductions.map (fun r ↦ .reduced r.op r.node) ++
      [match c.outcome with
      | .ok e => .compiled text e.forPrimary
      | .error e => .rejected text e]

end Placement
