import Placement.Number.Numeral
import Placement.Operator
import Placement.Uri
import Placement.Value

/-!
# Comparing a property with a text

Two texts that are both numbers are compared as numbers; else, if both are identifiers, as
identifiers; else as texts. Ordering needs numbers, and the relation *under* (`^`) needs anything
but numbers: on identifiers it is the hierarchy, on texts a common beginning.
-/

namespace Placement

/-- Why a constraint has no value. -/
inductive EvalError
  /-- A comparison names a property that is not there. -/
  | propertyNotDefined (name : Text)
  /-- An operand of a comparison is no literal. -/
  | nonLiteralOperand (op : Operator)
  /-- An operand of a connective or of `!` is no truth value but this. -/
  | nonBooleanOperand (op : Operator) (found : Value)
  /-- Numbers do not lie under one another. -/
  | numericPrefix (op : Operator)
  /-- Only numbers have an order. -/
  | nonNumericOrdering (op : Operator) (left right : Text)
  /-- The operator compares nothing. -/
  | unknownOperator (op : Operator)
  deriving DecidableEq, Repr

/-- The wording of an error. -/
def EvalError.message : EvalError → Text
  | propertyNotDefined name => "property `".toList ++ name ++ "` is not defined".toList
  | nonLiteralOperand op =>
    "comparison operator `".toList ++ op.symbol ++ "` is receiving a non-literal operand".toList
  | nonBooleanOperand op found =>
    "boolean operator `".toList ++ op.symbol ++ "` expected a boolean operand, got ".toList
      ++ found.typeName
  | numericPrefix op =>
    "numeric operands are not supported by the `".toList ++ op.symbol ++ "` operator".toList
  | nonNumericOrdering op left right =>
    "operator `".toList ++ op.symbol ++ "` requires numeric operands, got `".toList ++ left
      ++ "` and `".toList ++ right ++ ['`']
  | unknownOperator op => "unknown operator `".toList ++ op.symbol ++ ['`']

/-! ## What is compared -/

/-- Two texts, read as what they are compared as. -/
inductive Sides
  | numbers (actual expected : Number)
  | uris (actual expected : Uri)
  | texts (actual expected : Text)
  deriving DecidableEq, Repr

namespace Sides

/-- Both as numbers if both are numbers, else both as identifiers if both are, else as texts. -/
def ofTexts (actual expected : Text) : Sides :=
  match Number.ofText? actual, Number.ofText? expected with
  | some m, some n => numbers m n
  | _, _ =>
    match Uri.ofText actual, Uri.ofText expected with
    | .ok u, .ok v => uris u v
    | _, _ => texts actual expected

/-- Equality of the two sides. -/
def equal : Sides → Bool
  | numbers m n => m == n
  | uris u v => u.same v
  | texts a e => a == e

/-- Whether the actual side lies under the expected one. Numbers have no answer. -/
def under : Sides → Option Bool
  | numbers _ _ => none
  | uris u v => some (v.isPrefixOf u || v.same u)
  | texts a e => some (e.isPrefixOf a)

/-- The order of the two sides, which only numbers have. -/
def order : Sides → Option Ordering
  | numbers m n => some (m.compare n)
  | _ => none

end Sides

/-- Compare the value of a property with the text it is expected to match. Operators that compare
nothing have no answer. -/
def compareTexts (op : Operator) (actual expected : Text) : Except EvalError Bool :=
  let sides := Sides.ofTexts actual expected
  let under : Except EvalError Bool :=
    match sides.under with
    | some b => .ok b
    | none => .error (.numericPrefix op)
  let order : Except EvalError Ordering :=
    match sides.order with
    | some o => .ok o
    | none => .error (.nonNumericOrdering op actual expected)
  match op with
  | .comparison c =>
    match c.base with
    | .equal => .ok sides.equal
    | .notEqual => .ok (!sides.equal)
    | .under => under
    | .notUnder => under.map (!·)
    | .atLeast => order.map (·.isGE)
    | .atMost => order.map (·.isLE)
    | .less => order.map (·.isLT)
    | .greater => order.map (·.isGT)
    | .policy | .primaryUnder | .primaryNotUnder => .error (.unknownOperator op)
  | _ => .error (.unknownOperator op)

end Placement
