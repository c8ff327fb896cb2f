import Placement.Comparison
import Placement.Environment
import Placement.Node

/-!
# Evaluating a constraint

Evaluation uses properties up. A comparison that takes part removes the property it names from the
environment, so what is left afterwards was never asked for; and both operands of every node are
evaluated, also when the first one failed, so that what is left does not depend on how the
comparisons turn out.

With tracing on, every node is reported after its operands, together with its own outcome.
-/

namespace Placement

/-- For which replica a constraint is evaluated. -/
inductive Role
  | primary
  | secondary
  deriving DecidableEq, Repr

/-- The role for the primary replica if `b`. -/
def Role.ofBool (b : Bool) : Role := if b then primary else secondary

def Role.isPrimary : Role → Bool
  | primary => true
  | secondary => false

/-- How to evaluate: for which replica, and whether to report every node. -/
structure EvalContext where
  role : Role
  trace : Bool
  deriving DecidableEq, Repr

/-- Whether a comparison takes part for a replica: the primary variants for the primary one, the
others for the rest, and `~` never. -/
def Comparison.takesPart (op : Comparison) (role : Role) : Bool :=
  op.isPrimaryVariant == role.isPrimary && op != .policy

/-- A node that was evaluated, and its outcome. -/
structure NodeEvent where
  node : Node
  outcome : Except EvalError Value

/-- What evaluating a node yields: a value or an error, what is left of the environment, and the
nodes reported, in order. -/
structure Evaluation where
  outcome : Except EvalError Value
  remaining : Environment
  events : List NodeEvent

/-- A truth value, as an operand of the operator. -/
def expectBool (op : Operator) : Value → Except EvalError Bool
  | .boolean b => .ok b
  | found => .error (.nonBooleanOperand op found)

/-- Two truth values joined. -/
def Connective.apply : Connective → Bool → Bool → Bool
  | .and, a, b => a && b
  | .or, a, b => a || b

/-- The outcome of a connective. The error of the left operand comes first, then that of the right
one, then an operand that is no truth value. -/
def joinOutcomes (op : Connective) (left right : Except EvalError Value) :
    Except EvalError Value := do
  let l ← left
  let r ← right
  let a ← expectBool (.connective op) l
  let b ← expectBool (.connective op) r
  return .boolean (op.apply a b)

/-- The outcome of a negation. -/
def negateOutcome (operand : Except EvalError Value) : Except EvalError Value := do
  let b ← expectBool .not (← operand)
  return .boolean (!b)

/-- The outcome of a comparison whose operands are evaluated, and what it leaves of the
environment. A comparison that takes no part holds and leaves everything. -/
def compareOutcomes (op : Comparison) (role : Role) (left right : Except EvalError Value)
    (env : Environment) : Except EvalError Value × Environment :=
  match left, right with
  | .error e, _ => (.error e, env)
  | .ok _, .error e => (.error e, env)
  | .ok (.literal name), .ok (.literal expected) =>
    if op.takesPart role then
      match env.take name with
      | (some actual, env) =>
        ((compareTexts (.comparison op) actual expected).map .boolean, env)
      | (none, env) => (.error (.propertyNotDefined name), env)
    else (.ok (.boolean true), env)
  | .ok _, .ok _ => (.error (.nonLiteralOperand (.comparison op)), env)

namespace Node

/-- The report of a node, if reports are asked for. -/
def report (ctx : EvalContext) (n : Node) (outcome : Except EvalError Value) : List NodeEvent :=
  if ctx.trace then [⟨n, outcome⟩] else []

/-- Evaluate a node. -/
def evaluate (ctx : EvalContext) (n : Node) (env : Environment) : Evaluation :=
  match n with
  | literal text =>
    let outcome := .ok (.literal text)
    ⟨outcome, env, report ctx n outcome⟩
  | not x =>
    let operand := x.evaluate ctx env
    let outcome := negateOutcome operand.outcome
    ⟨outcome, operand.remaining, operand.events ++ report ctx n outcome⟩
  | connective op l r =>
    let left := l.evaluate ctx env
    let right := r.evaluate ctx left.remaining
    let outcome := joinOutcomes op left.outcome right.outcome
    ⟨outcome, right.remaining, left.events ++ right.events ++ report ctx n outcome⟩
  | comparison op l r =>
    let left := l.evaluate ctx env
    let right := r.evaluate ctx left.remaining
    let (outcome, remaining) :=
      compareOutcomes op ctx.role left.outcome right.outcome right.remaining
    ⟨outcome, remaining, left.events ++ right.events ++ report ctx n outcome⟩

end Node

namespace Expression

/-- Evaluate a constraint. -/
def evaluate (e : Expression) (ctx : EvalContext) (env : Environment) : Evaluation :=
  e.root.evaluate ctx env

/-- Whether a constraint is satisfied, and what is left of the environment. -/
def satisfied (e : Expression) (role : Role) (env : Environment) :
    Except EvalError Bool × Environment :=
  let evaluation := e.evaluate ⟨role, false⟩ env
  (evaluation.outcome.map Value.isTruthy, evaluation.remaining)

end Expression

end Placement
