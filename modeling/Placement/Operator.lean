import Placement.Text.Basic

/-!
# The operator catalog

Sixteen operators in a fixed order. Their kinds are kept apart by type — connectives join truth
values, comparisons relate a property to a text — so that a tree can only be built from an
operator that has two operands.

The order of `Operator.catalog` matters to `Operator.lookup`, which takes the first symbol that
begins a text: `!=`, `!^P` and `!^` come before the bare `!`, and `^P` before `^`, which makes the
first match the longest one.
-/

namespace Placement

/-- The connectives `||` and `&&`. -/
inductive Connective
  | or
  | and
  deriving DecidableEq, Repr

/-- The comparisons. Those named `primary…` take part only when a constraint is evaluated for the
primary replica, all others only when it is not. `policy` declares and never compares. -/
inductive Comparison
  | equal
  | notEqual
  | atLeast
  | atMost
  | less
  | greater
  | primaryUnder
  | primaryNotUnder
  | under
  | notUnder
  | policy
  deriving DecidableEq, Repr

/-- An entry of the catalog. -/
inductive Operator
  | openParen
  | closeParen
  | connective (op : Connective)
  | comparison (op : Comparison)
  | not
  deriving DecidableEq, Repr

/-- What an operator does: group, join, compare or negate. -/
inductive Category
  | paren
  | boolean
  | comparison
  | not
  deriving DecidableEq, Repr

/-! ## Comparisons -/

namespace Comparison

/-- The written form. -/
def symbol : Comparison → Text
  | equal => ['=', '=']
  | notEqual => ['!', '=']
  | atLeast => ['>', '=']
  | atMost => ['<', '=']
  | less => ['<']
  | greater => ['>']
  | primaryUnder => ['^', 'P']
  | primaryNotUnder => ['!', '^', 'P']
  | under => ['^']
  | notUnder => ['!', '^']
  | policy => ['~']

/-- A comparison that takes part only for the primary replica. -/
def isPrimaryVariant : Comparison → Bool
  | primaryUnder | primaryNotUnder => true
  | _ => false

/-- The comparison that a primary variant stands for; any other stands for itself. -/
def base : Comparison → Comparison
  | primaryUnder => under
  | primaryNotUnder => notUnder
  | op => op

end Comparison

/-! ## Operators -/

/-- The precedence that literals are given, so that every node has one. -/
def literalLevel : Nat := 5

namespace Operator

/-- The written form. -/
def symbol : Operator → Text
  | openParen => ['(']
  | closeParen => [')']
  | connective .or => ['|', '|']
  | connective .and => ['&', '&']
  | comparison op => op.symbol
  | not => ['!']

/-- The precedence: a higher level binds tighter. -/
def level : Operator → Nat
  | openParen | closeParen => 1
  | connective .or => 2
  | connective .and => 3
  | comparison _ => 4
  | not => 6

def category : Operator → Category
  | openParen | closeParen => .paren
  | connective _ => .boolean
  | comparison _ => .comparison
  | not => .not

/-- True of the comparisons that take part only for the primary replica. -/
def isPrimaryVariant : Operator → Bool
  | comparison op => op.isPrimaryVariant
  | _ => false

/-- The symbol without the mark of a primary variant. -/
def baseSymbol : Operator → Text
  | comparison op => op.base.symbol
  | op => op.symbol

/-- True of `~` alone. -/
def isPolicy (op : Operator) : Bool := op == comparison .policy

/-- Whether a literal is looked for after this operator. Only a closing parenthesis completes an
operand, so only after it must another operator follow at once. -/
def expectsLiteral (op : Operator) : Bool := op != closeParen

/-! ## The catalog -/

/-- All operators, in the order in which they are tried. -/
def catalog : List Operator :=
  [openParen, closeParen, connective .or, connective .and,
    comparison .equal, comparison .notEqual, comparison .atLeast, comparison .atMost,
    comparison .less, comparison .greater, comparison .primaryUnder, comparison .primaryNotUnder,
    comparison .under, comparison .notUnder, comparison .policy, not]

/-- The catalog leaves nothing out. -/
theorem mem_catalog (op : Operator) : op ∈ catalog := by
  cases op with
  | connective c => cases c <;> decide
  | comparison c => cases c <;> decide
  | _ => decide

/-- The operator with exactly this symbol. -/
def ofSymbol? (symbol : Text) : Option Operator :=
  catalog.find? (·.symbol == symbol)

/-- Whether the text begins with the operator's symbol. -/
def begins (op : Operator) (text : Text) : Bool := op.symbol.isPrefixOf text

/-- The first operator of the catalog that begins the text. -/
def lookup (text : Text) : Option Operator := catalog.find? (·.begins text)

/-- The operators that occur at a byte offset, in catalog order. -/
def occurringAt (text : Text) (offset : Nat) : List Operator :=
  match text.dropBytes offset with
  | some rest => catalog.filter (·.begins rest)
  | none => []

/-- The first operator of the catalog that occurs at a byte offset. -/
def lookupAt (text : Text) (offset : Nat) : Option Operator :=
  (text.dropBytes offset).bind lookup

theorem symbol_ne_nil (op : Operator) : op.symbol ≠ [] := by
  cases op with
  | connective c => cases c <;> exact List.cons_ne_nil _ _
  | comparison c => cases c <;> exact List.cons_ne_nil _ _
  | _ => exact List.cons_ne_nil _ _

theorem symbol_length_pos (op : Operator) : 0 < op.symbol.length :=
  List.length_pos_iff.2 op.symbol_ne_nil

/-- What is looked up really begins the text. -/
theorem isPrefixOf_of_lookup {text : Text} {op : Operator} (h : lookup text = some op) :
    op.symbol.isPrefixOf text = true := by
  have hbegins := List.find?_some h
  exact hbegins

end Operator

end Placement
