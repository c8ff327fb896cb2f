import Placement.Text.Basic

/-!
# Values

What a node of a constraint evaluates to: literals stand for themselves, everything else is a
truth value.
-/

namespace Placement

/-- The result of evaluating a node. -/
inductive Value
  | literal (text : Text)
  | boolean (b : Bool)
  deriving DecidableEq, Repr

namespace Value

def bool? : Value → Option Bool
  | boolean b => some b
  | literal _ => none

def literal? : Value → Option Text
  | literal text => some text
  | boolean _ => none

/-- Whether the value counts as a yes: a truth value is itself, and of the literals only `true`
counts. -/
def isTruthy : Value → Bool
  | boolean b => b
  | literal text => text == .ofBool true

/-- The word for the sort of a value. -/
def typeName : Value → Text
  | literal _ => "literal".toList
  | boolean _ => "boolean".toList

/-- The value as it is printed. -/
def render : Value → Text
  | literal text => text
  | boolean b => .ofBool b

end Value

end Placement
