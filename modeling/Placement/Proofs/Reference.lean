import Placement.Proofs.Consumption

/-!
# Evaluation without state

The evaluation threads what is left of the environment through both operands of every node, so what
a comparison finds depends on all comparisons to its left. Here it is given a meaning in which
nothing changes. Number the comparisons that take part from left to right: each of them sees the
value that its property has at the outset, unless one before it asks for the same property, and
then sees none (`Environment.seen`). The value of a tree is a plain recursion over this view
(`Node.reference`), and the evaluation returns just that, on success and on every error.

## Places

A subtree is evaluated with some properties consulted already. These are a prefix of what the whole
tree consults, and the length of the prefix is the place of the first comparison of the subtree.
-/

namespace Placement

/-- What the comparison at a place sees: the value of its property, unless a comparison before it
asks for the same. -/
def Environment.seen (env : Environment) (names : List Text) (place : Nat) : Option Text :=
  names[place]?.bind fun name ↦ if (names.take place).contains name then none else env.get? name

namespace Node

/-- The value of a tree of which the first comparison that takes part has this place. The error of
the left operand comes before that of the right one, and both before the node's own. -/
def reference (role : Role) (seen : Nat → Option Text) (place : Nat) :
    Node → Except EvalError Value
  | literal text => .ok (.literal text)
  | not x =>
    match x.reference role seen place with
    | .error e => .error e
    | .ok (.literal text) => .error (.nonBooleanOperand .not (.literal text))
    | .ok (.boolean b) => .ok (.boolean !b)
  | connective op l r =>
    match l.reference role seen place,
        r.reference role seen (place + (l.consulted role).length) with
    | .error e, _ => .error e
    | .ok _, .error e => .error e
    | .ok (.literal text), .ok _ => .error (.nonBooleanOperand (.connective op) (.literal text))
    | .ok (.boolean _), .ok (.literal text) =>
      .error (.nonBooleanOperand (.connective op) (.literal text))
    | .ok (.boolean a), .ok (.boolean b) => .ok (.boolean (op.apply a b))
  | comparison op (literal name) (literal expected) =>
    if op.takesPart role then
      match seen place with
      | none => .error (.propertyNotDefined name)
      | some actual => (compareTexts (.comparison op) actual expected).map .boolean
    else .ok (.boolean true)
  | comparison op l r =>
    match l.reference role seen place,
        r.reference role seen (place + (l.consulted role).length) with
    | .error e, _ => .error e
    | .ok _, .error e => .error e
    | .ok _, .ok _ => .error (.nonLiteralOperand (.comparison op))

end Node

theorem Environment.seen_append_cons (env : Environment) (before after : List Text) (name : Text) :
    env.seen (before ++ name :: after) before.length = (env.without before).get? name := by
  rw [seen, List.getElem?_append_right (Nat.le_refl _), Nat.sub_self, List.take_left, get?_without]
  simp only [List.getElem?_cons_zero, Option.bind_some, List.contains_iff_mem]

namespace Node

variable {ctx : EvalContext} {env : Environment}

/-- The evaluation of a subtree agrees with the reference wherever it begins: after the properties
`before` were consulted, and before those of `after` are. -/
def Agrees (ctx : EvalContext) (env : Environment) (n : Node) : Prop :=
  ∀ before after : List Text, (n.evaluate ctx (env.without before)).outcome =
    n.reference ctx.role (env.seen (before ++ (n.consulted ctx.role ++ after))) before.length

/-- Both operands see the same numbering, the right one from where the left one ends. -/
private theorem outcome_operands {l r : Node} (hl : l.Agrees ctx env) (hr : r.Agrees ctx env)
    (before after : List Text) :
    let seen := env.seen (before ++ ((l.consulted ctx.role ++ r.consulted ctx.role) ++ after))
    let left := l.evaluate ctx (env.without before)
    left.outcome = l.reference ctx.role seen before.length ∧
      (r.evaluate ctx left.remaining).outcome
        = r.reference ctx.role seen (before.length + (l.consulted ctx.role).length) := by
  dsimp only
  constructor
  · rw [List.append_assoc]
    exact hl before (r.consulted ctx.role ++ after)
  · -- What the left operand consults is part of what was consulted before the right one.
    have hright := hr (before ++ l.consulted ctx.role) after
    rw [List.append_assoc, List.length_append] at hright
    rw [remaining_evaluate, Environment.without_without, List.append_assoc]
    exact hright

theorem agrees (n : Node) (ctx : EvalContext) (env : Environment) : n.Agrees ctx env := by
  -- The cases of `consulted` tell the comparisons of two literals from all others.
  fun_induction consulted ctx.role n with
  | case1 text => exact fun before after ↦ rfl
  | case2 x ih =>
    intro before after
    rw [evaluate, reference, consulted, ← ih]
    dsimp only
    rcases (x.evaluate ctx (env.without before)).outcome with e | (text | b) <;> rfl
  | case3 op l r ihl ihr =>
    intro before after
    obtain ⟨hleft, hright⟩ := outcome_operands ihl ihr before after
    rw [evaluate, reference, consulted, ← hleft, ← hright]
    dsimp only
    rcases (l.evaluate ctx (env.without before)).outcome with e | (text | a) <;>
      rcases (r.evaluate ctx (l.evaluate ctx (env.without before)).remaining).outcome
        with e' | (text' | b) <;> rfl
  | case4 op name expected htakes =>
    intro before after
    rw [reference, consulted, if_pos htakes, if_pos htakes, List.singleton_append,
      Environment.seen_append_cons]
    refine (outcome_evaluate_literals ctx op name expected _).trans ((if_pos htakes).trans ?_)
    cases (env.without before).get? name <;> rfl
  | case5 op name expected htakes =>
    intro before after
    rw [outcome_evaluate_literals, reference, if_neg htakes, if_neg htakes]
  | case6 op l r hnot ihl ihr =>
    intro before after
    obtain ⟨hleft, hright⟩ := outcome_operands ihl ihr before after
    rw [outcome_evaluate_comparison hnot, reference, consulted, ← hleft, ← hright]
    · rfl
    · exact hnot
    · exact hnot

theorem outcome_evaluate_trace (n : Node) (role : Role) (trace trace' : Bool) (env : Environment) :
    (n.evaluate ⟨role, trace⟩ env).outcome = (n.evaluate ⟨role, trace'⟩ env).outcome := by
  have h := n.agrees ⟨role, trace⟩ env [] []
  have h' := n.agrees ⟨role, trace'⟩ env [] []
  rw [Environment.without_nil] at h h'
  exact h.trans h'.symm

theorem remaining_evaluate_trace (n : Node) (role : Role) (trace trace' : Bool)
    (env : Environment) :
    (n.evaluate ⟨role, trace⟩ env).remaining = (n.evaluate ⟨role, trace'⟩ env).remaining := by
  rw [remaining_evaluate, remaining_evaluate]

end Node

end Placement
