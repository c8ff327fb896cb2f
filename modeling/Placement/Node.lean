import Placement.Operator

/-!
# Constraint trees

A compiled constraint is a tree of literals, negations, connectives and comparisons. `Node.render`
writes it in canonical form, fully parenthesised, so that reading the canonical form back gives the
same tree.

A comparison `FDPolicy ~ x` (or `PlacePolicy ~ x`) of two literals declares a policy. Every node
carries the policies declared below it; where several are declared the leftmost counts.
-/

namespace Placement

/-- A node of a constraint tree, with exactly the children that it needs. -/
inductive Node
  /-- A property name or the text it is compared with. -/
  | literal (text : Text)
  | not (operand : Node)
  | connective (op : Connective) (left right : Node)
  | comparison (op : Comparison) (left right : Node)
  deriving DecidableEq, Repr

/-- The two kinds of policy that a constraint can declare. -/
inductive Policy
  | faultDomain
  | placement
  deriving DecidableEq, Repr

/-- The literal to the left of `~` that declares the policy. -/
def Policy.name : Policy → Text
  | faultDomain => "FDPolicy".toList
  | placement => "PlacePolicy".toList

namespace Node

/-- The node of an operator between two operands, if it is an operator that has two. -/
def binary (op : Operator) (left right : Node) : Option Node :=
  match op with
  | .connective c => some (.connective c left right)
  | .comparison c => some (.comparison c left right)
  | .openParen | .closeParen | .not => none

/-- The operator of a node; literals have none. -/
def operator? : Node → Option Operator
  | literal _ => none
  | not _ => some .not
  | connective op _ _ => some (.connective op)
  | comparison op _ _ => some (.comparison op)

/-- The precedence of the node's operator. -/
def level (n : Node) : Nat := (n.operator?.map Operator.level).getD literalLevel

/-- The text of a literal. -/
def literal? : Node → Option Text
  | literal text => some text
  | _ => none

def isLiteral (n : Node) : Bool := n.literal?.isSome

/-- The node and all below it: a node before its children, the left before the right. -/
def preorder : Node → List Node
  | literal text => [literal text]
  | not x => not x :: x.preorder
  | connective op l r => connective op l r :: (l.preorder ++ r.preorder)
  | comparison op l r => comparison op l r :: (l.preorder ++ r.preorder)

/-! ## Policies -/

/-- The policy that a comparison of these two operands declares by itself. -/
def declared? (p : Policy) (op : Comparison) (left right : Node) : Option Text :=
  if op = .policy ∧ left.literal? = some p.name then right.literal? else none

/-- The policy that a node carries: its own declaration, else that of its left child, else that of
its right child. -/
def policy? (p : Policy) : Node → Option Text
  | literal _ => none
  | not x => x.policy? p
  | connective _ l r => (l.policy? p).or (r.policy? p)
  | comparison op l r => (declared? p op l r).or ((l.policy? p).or (r.policy? p))

/-! ## The canonical form -/

/-- The canonical form: every pair of operands in parentheses, blanks around its operator. A
negated literal has parentheses of its own, so that `!` never touches a literal. -/
def render : Node → Text
  | literal text => text
  | not (literal text) => ['!', '('] ++ text ++ [')']
  | not x => '!' :: x.render
  | connective op l r =>
    ['('] ++ l.render ++ [' '] ++ (Operator.connective op).symbol ++ [' '] ++ r.render ++ [')']
  | comparison op l r =>
    ['('] ++ l.render ++ [' '] ++ op.symbol ++ [' '] ++ r.render ++ [')']

end Node

/-! ## Expressions -/

/-- A compiled constraint: its tree, and whether any comparison for the primary replica occurs
in it. -/
structure Expression where
  root : Node
  forPrimary : Bool
  deriving DecidableEq, Repr

namespace Expression

def isLiteral (e : Expression) : Bool := e.root.isLiteral

def policy? (e : Expression) (p : Policy) : Option Text := e.root.policy? p

def render (e : Expression) : Text := e.root.render

end Expression

end Placement
