import Placement.Node
import Placement.Scanner

/-!
# Compiling a constraint

The tree is built with two stacks: operands, and operators still waiting for their right operand.
Before a binary operator is put on the second stack, everything on it that binds at least as
tightly is reduced, which makes comparisons bind tighter than `&&` and `&&` tighter than `||`, all
of them to the left. A `!` is put there without reducing anything, together with a placeholder
where a left operand would be, and so binds tightest.

The stacks hold their top first. The bottom of the operator stack is the end of the list.

Nothing checks on the way that operands and operators alternate. What is missing shows when the
operator that needs it is reduced, and what is left over shows at the end.
-/

namespace Placement

/-- Why a text is not a constraint. Offsets are in bytes. -/
inductive ParseError
  /-- A `(` that nothing closes, or a `)` that closes nothing. -/
  | unbalancedParenthesis (position : Nat)
  /-- An operator was reduced without the operands it needs. -/
  | missingOperand (op : Operator)
  /-- Something else stands where an operator has to follow. -/
  | expectedOperator (position : Nat) (found : Text)
  /-- More or fewer than one operand is left at the end. -/
  | danglingOperands (count : Nat)
  deriving DecidableEq, Repr

/-- The wording of an error. -/
def ParseError.message : ParseError → Text
  | unbalancedParenthesis position =>
    "unbalanced parenthesis at offset ".toList ++ .ofNat position
  | missingOperand op =>
    "operator `".toList ++ op.symbol ++ "` is missing an operand".toList
  | expectedOperator position found =>
    "expected an operator at offset ".toList ++ .ofNat position ++ ", found `".toList ++ found
      ++ ['`']
  | danglingOperands count =>
    "expression did not reduce to a single operand (".toList ++ .ofNat count ++ " left)".toList

/-- An entry of the operand stack. -/
inductive Operand
  /-- Stands where the left operand of a `!` would be. -/
  | placeholder
  | node (n : Node)
  deriving DecidableEq, Repr

/-- An operator that was given its operands, and the node this made. -/
structure Reduction where
  op : Operator
  node : Node
  deriving DecidableEq, Repr

/-- A failed compilation: its error, and the reductions made before it, newest first. -/
structure Rejection where
  error : ParseError
  reductions : List Reduction
  deriving DecidableEq, Repr

/-- The state of the compilation between two readings. -/
structure Machine where
  /-- Operands not yet used, newest first. -/
  operands : List Operand
  /-- Operators not yet reduced, newest first. -/
  pending : List Operator
  /-- Whether a comparison for the primary replica was read. -/
  forPrimary : Bool
  /-- The reductions made so far, newest first. -/
  reductions : List Reduction
  deriving DecidableEq, Repr

/-- Take the operands of an operator off the stack and build its node. Whatever lies below the
operand of a `!` is dropped: it is the placeholder put there with the operator. -/
def build (op : Operator) (operands : List Operand) :
    Except ParseError (Node × List Operand) :=
  match operands with
  | .node right :: left :: below =>
    match op, left with
    | .not, _ => .ok (.not right, below)
    | op, .node left =>
      match Node.binary op left right with
      | some n => .ok (n, below)
      | none => .error (.missingOperand op)
    | op, .placeholder => .error (.missingOperand op)
  | _ => .error (.missingOperand op)

namespace Machine

/-- Both stacks empty. -/
def start : Machine := ⟨[], [], false, []⟩

/-- Give up with an error. -/
def reject (m : Machine) (error : ParseError) : Rejection := ⟨error, m.reductions⟩

/-- Reduce one operator, the top of the pending ones. A parenthesis cannot be reduced: it is one
that nothing closes. -/
def reduce (position : Nat) (m : Machine) (op : Operator) : Except Rejection Machine :=
  if op.category = .paren then .error (m.reject (.unbalancedParenthesis position))
  else
    match build op m.operands with
    | .error e => .error (m.reject e)
    | .ok (n, below) =>
      .ok { m with
        operands := .node n :: below
        pending := m.pending.tail
        reductions := ⟨op, n⟩ :: m.reductions }

/-- Reduce from the top for as long as `p` holds of the pending operators. -/
def reduceWhile (p : Operator → Bool) (position : Nat) (m : Machine) :
    Except Rejection Machine :=
  (m.pending.takeWhile p).foldlM (reduce position) m

/-- Take in an operator. -/
def shift (m : Machine) (op : Operator) (position : Nat) : Except Rejection Machine :=
  match op with
  | .openParen => .ok { m with pending := .openParen :: m.pending }
  | .closeParen => do
    let m ← m.reduceWhile (·.category != .paren) position
    match m.pending with
    | [] => .error (m.reject (.unbalancedParenthesis position))
    | _ :: below => .ok { m with pending := below }
  | .not => .ok { m with pending := .not :: m.pending, operands := .placeholder :: m.operands }
  | op => do
    let m ← m.reduceWhile (op.level ≤ ·.level) position
    .ok { m with pending := op :: m.pending, forPrimary := m.forPrimary || op.isPrimaryVariant }

/-- Take in a reading. At the end of the text everything pending is reduced. -/
def step (m : Machine) : Reading → Except Rejection Machine
  | .literal none => .ok m
  | .literal (some token) => .ok { m with operands := .node (.literal token) :: m.operands }
  | .operator op position => m.shift op position
  | .finished position => m.reduceWhile (fun _ ↦ true) position
  | .stray position found => .error (m.reject (.expectedOperator position found))

/-- What the stacks hold at the end: one operand, which is the tree, or an error. -/
def result (m : Machine) : Except ParseError Expression :=
  match m.operands with
  | [.node root] => .ok ⟨root, m.forPrimary⟩
  | [.placeholder] => .error (.danglingOperands 0)
  | operands => .error (.danglingOperands operands.length)

/-- Take in a sequence of readings. -/
def run (m : Machine) (rs : List Reading) : Except Rejection Machine := rs.foldlM step m

end Machine

/-- The outcome of compiling a text, with the reductions made on the way, oldest first. -/
structure Compilation where
  outcome : Except ParseError Expression
  reductions : List Reduction

namespace Compilation

/-- Compile a text that is more than blanks. -/
def ofReadings (rs : List Reading) : Compilation :=
  match Machine.start.run rs with
  | .error rejection => ⟨.error rejection.error, rejection.reductions.reverse⟩
  | .ok m => ⟨m.result, m.reductions.reverse⟩

/-- Compile a text. Nothing but blanks is the constraint that always holds. -/
def ofText (text : Text) : Compilation :=
  if text.trimBlanks.isEmpty then ⟨.ok ⟨.literal (.ofBool true), false⟩, []⟩
  else ofReadings (readings text)

end Compilation

/-- The constraint that a text writes, or why it writes none. -/
def compile (text : Text) : Except ParseError Expression := (Compilation.ofText text).outcome

end Placement
