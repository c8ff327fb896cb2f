import Placement.Proofs.Consumption

/-!
# Policy annotations

A policy is declared by joining a comparison `name ~ value` to some part of a constraint. The
evaluator passes over it: it asks for no property, and its value is `true` for either replica. So
an annotation joined by `&&` changes nothing, wherever in a constraint the part stands and whatever
it evaluates to. Joined by `||` it does count. A part that is false becomes true, just as if it were
negated, and only a part that has another outcome keeps it (`result_annotated`).

## Contexts

"Wherever in a constraint" is a tree with a hole. What an evaluation does outside the hole depends
on what is in the hole only through its outcome and what it leaves, at the one environment that
reaches it (`TreeContext.result_fill_congr`).
-/

namespace Placement

/-- What an evaluation yields, apart from the reports. -/
def Evaluation.result (v : Evaluation) : Except EvalError Value × Environment :=
  (v.outcome, v.remaining)

theorem Evaluation.result_eq_iff {v w : Evaluation} :
    v.result = w.result ↔ v.outcome = w.outcome ∧ v.remaining = w.remaining := by
  rw [result, result, Prod.mk.injEq]

/-! ## Contexts -/

/-- A tree with a hole. -/
inductive TreeContext
  | hole
  | not (inner : TreeContext)
  | connectiveLeft (op : Connective) (inner : TreeContext) (right : Node)
  | connectiveRight (op : Connective) (left : Node) (inner : TreeContext)
  | comparisonLeft (op : Comparison) (inner : TreeContext) (right : Node)
  | comparisonRight (op : Comparison) (left : Node) (inner : TreeContext)

namespace TreeContext

/-- The tree with a node in the hole. -/
def fill : TreeContext → Node → Node
  | hole, n => n
  | not c, n => .not (c.fill n)
  | connectiveLeft op c r, n => .connective op (c.fill n) r
  | connectiveRight op l c, n => .connective op l (c.fill n)
  | comparisonLeft op c r, n => .comparison op (c.fill n) r
  | comparisonRight op l c, n => .comparison op l (c.fill n)

/-- The environment in which the hole is evaluated: what is left by all that stands before it. -/
def reaching (ctx : EvalContext) : TreeContext → Environment → Environment
  | hole, env => env
  | not c, env | connectiveLeft _ c _, env | comparisonLeft _ c _, env => c.reaching ctx env
  | connectiveRight _ l c, env | comparisonRight _ l c, env =>
    c.reaching ctx (l.evaluate ctx env).remaining

/-- Two nodes with the same result in the hole give the same result. -/
theorem result_fill_congr {ctx : EvalContext} {x y : Node} (c : TreeContext) {env : Environment}
    (h : (x.evaluate ctx (c.reaching ctx env)).result
      = (y.evaluate ctx (c.reaching ctx env)).result) :
    ((c.fill x).evaluate ctx env).result = ((c.fill y).evaluate ctx env).result := by
  induction c generalizing env with
  | hole => exact h
  | not c ih | connectiveLeft op c r ih | connectiveRight op l c ih | comparisonLeft op c r ih
  | comparisonRight op l c ih =>
    obtain ⟨houtcome, hremaining⟩ := Evaluation.result_eq_iff.mp (ih h)
    simp only [fill, Node.evaluate, Evaluation.result, houtcome, hremaining]

theorem isLiteral_fill {n : Node} (hn : n.isLiteral = false) (c : TreeContext) :
    (c.fill n).isLiteral = false := by
  cases c with
  | hole => exact hn
  | _ => rfl

end TreeContext

theorem Node.consulted_comparison {role : Role} {op : Comparison} {l r : Node}
    (h : l.isLiteral = false ∨ r.isLiteral = false) :
    (comparison op l r).consulted role = l.consulted role ++ r.consulted role := by
  rw [consulted]
  rintro name expected rfl rfl
  rcases h with h | h <;> cases h

/-- What a tree consults depends on the hole only through what is consulted there. -/
theorem TreeContext.consulted_fill_congr {role : Role} {x y : Node} (hx : x.isLiteral = false)
    (hy : y.isLiteral = false) (h : x.consulted role = y.consulted role) (c : TreeContext) :
    (c.fill x).consulted role = (c.fill y).consulted role := by
  induction c with
  | hole => exact h
  | not c ih => exact ih
  | connectiveLeft op c r ih => rw [fill, fill, Node.consulted, Node.consulted, ih]
  | connectiveRight op l c ih => rw [fill, fill, Node.consulted, Node.consulted, ih]
  | comparisonLeft op c r ih =>
    rw [fill, fill, Node.consulted_comparison (Or.inl (isLiteral_fill hx c)),
      Node.consulted_comparison (Or.inl (isLiteral_fill hy c)), ih]
  | comparisonRight op l c ih =>
    rw [fill, fill, Node.consulted_comparison (Or.inr (isLiteral_fill hx c)),
      Node.consulted_comparison (Or.inr (isLiteral_fill hy c)), ih]

/-! ## Annotations -/

/-- A node joined with the declaration of a policy. -/
def Node.annotated (op : Connective) (name value : Text) (n : Node) : Node :=
  .connective op n (.comparison .policy (.literal name) (.literal value))

theorem Comparison.takesPart_policy (role : Role) : policy.takesPart role = false := by
  cases role <;> rfl

theorem joinOutcomes_and_true {left : Except EvalError Value}
    (h : ∀ token, left ≠ .ok (.literal token)) :
    joinOutcomes .and left (.ok (.boolean true)) = left := by
  rcases left with e | (token | b)
  · rfl
  · exact absurd rfl (h token)
  · cases b <;> rfl

theorem joinOutcomes_or_true {left : Except EvalError Value}
    (h : ∀ token, left ≠ .ok (.literal token)) (hfalse : left ≠ .ok (.boolean false)) :
    joinOutcomes .or left (.ok (.boolean true)) = left := by
  rcases left with e | (token | (_ | _))
  · rfl
  · exact absurd rfl (h token)
  · exact absurd rfl hfalse
  · rfl

namespace Node

variable {ctx : EvalContext} {env : Environment} {n : Node}

theorem outcome_ne_literal (hn : n.isLiteral = false) (token : Text) :
    (n.evaluate ctx env).outcome ≠ .ok (.literal token) := by
  intro h
  rw [outcome_evaluate_eq_literal_iff.mp h] at hn
  cases hn

theorem result_evaluate_annotated (op : Connective) (name value : Text) (n : Node) :
    ((n.annotated op name value).evaluate ctx env).result
      = (joinOutcomes op (n.evaluate ctx env).outcome (.ok (.boolean true)),
        (n.evaluate ctx env).remaining) := by
  have houtcome := fun env' ↦ outcome_evaluate_literals ctx .policy name value env'
  have hremaining := fun env' ↦ remaining_evaluate_literals ctx .policy name value env'
  simp only [Comparison.takesPart_policy, Bool.false_eq_true, if_false] at houtcome hremaining
  rw [annotated, evaluate, Evaluation.result]
  dsimp only
  rw [houtcome, hremaining]

theorem consulted_annotated (role : Role) (op : Connective) (name value : Text) (n : Node) :
    (n.annotated op name value).consulted role = n.consulted role := by
  rw [annotated, consulted, consulted, Comparison.takesPart_policy, if_neg Bool.false_ne_true,
    List.append_nil]

end Node

/-- **Annotations.** Joined by `&&`, a declaration changes neither the outcome of a constraint nor
what is left. Joined by `||` it changes the outcome only where the part it is joined to is false,
and there it makes that part true, as a negation would. -/
theorem result_annotated (c : TreeContext) {n : Node} (hn : n.isLiteral = false)
    (name value : Text) (ctx : EvalContext) (env : Environment) :
    ((c.fill (n.annotated .and name value)).evaluate ctx env).result
        = ((c.fill n).evaluate ctx env).result ∧
      ((c.fill (n.annotated .or name value)).evaluate ctx env).remaining
        = ((c.fill n).evaluate ctx env).remaining ∧
      ((n.evaluate ctx (c.reaching ctx env)).outcome ≠ .ok (.boolean false) →
        ((c.fill (n.annotated .or name value)).evaluate ctx env).outcome
          = ((c.fill n).evaluate ctx env).outcome) ∧
      ((n.evaluate ctx (c.reaching ctx env)).outcome = .ok (.boolean false) →
        ((c.fill (n.annotated .or name value)).evaluate ctx env).outcome
          = ((c.fill (.not n)).evaluate ctx env).outcome) := by
  refine ⟨?_, ?_, fun hfalse ↦ ?_, fun hfalse ↦ ?_⟩
  · refine c.result_fill_congr ?_
    rw [Node.result_evaluate_annotated, joinOutcomes_and_true (Node.outcome_ne_literal hn)]
    rfl
  · rw [Node.remaining_evaluate, Node.remaining_evaluate,
      c.consulted_fill_congr rfl hn (Node.consulted_annotated ctx.role .or name value n)]
  · refine (Evaluation.result_eq_iff.mp (c.result_fill_congr ?_)).1
    rw [Node.result_evaluate_annotated, joinOutcomes_or_true (Node.outcome_ne_literal hn) hfalse]
    rfl
  · refine (Evaluation.result_eq_iff.mp (c.result_fill_congr ?_)).1
    rw [Node.result_evaluate_annotated, Evaluation.result, Node.evaluate]
    dsimp only
    rw [hfalse]
    rfl

theorem result_annotated_negated :
    let n := Node.comparison .equal (.literal ['a']) (.literal ['x'])
    let verdict (n : Node) (actual : Text) := (((TreeContext.not .hole).fill n).evaluate
      ⟨.secondary, false⟩ (.ofList [(['a'], actual)])).outcome
    n.isLiteral = false ∧
      verdict (n.annotated .and Policy.placement.name ['p']) ['z'] = verdict n ['z'] ∧
      verdict (n.annotated .or Policy.placement.name ['p']) ['x'] = verdict n ['x'] ∧
      verdict (n.annotated .or Policy.placement.name ['p']) ['z'] = verdict (.not n) ['z'] := by
  intro n verdict
  have hn : n.isLiteral = false := rfl
  have hannotated := fun actual ↦ result_annotated (.not .hole) hn Policy.placement.name ['p']
    ⟨.secondary, false⟩ (.ofList [(['a'], actual)])
  have htrue : (n.evaluate ⟨.secondary, false⟩ (.ofList [(['a'], ['x'])])).outcome
      = .ok (.boolean true) := rfl
  refine ⟨hn, (Evaluation.result_eq_iff.mp (hannotated ['z']).1).1,
    (hannotated ['x']).2.2.1 fun hfalse ↦ ?_, (hannotated ['z']).2.2.2 rfl⟩
  rw [TreeContext.reaching, TreeContext.reaching, htrue] at hfalse
  cases hfalse

/-- Joined by `||` to a part that is false, a declaration does change the outcome. -/
theorem outcome_annotated_or :
    let n := Node.comparison .equal (.literal ['a']) (.literal ['x'])
    let env := Environment.ofList [(['a'], ['z'])]
    n.isLiteral = false ∧ (n.evaluate ⟨.secondary, false⟩ env).outcome = .ok (.boolean false) ∧
      ((n.annotated .or Policy.faultDomain.name ['y']).evaluate ⟨.secondary, false⟩ env).outcome
        = .ok (.boolean true) :=
  ⟨rfl, rfl, rfl⟩

end Placement
