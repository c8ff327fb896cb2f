import Placement.Proofs.Dependence
import Placement.Proofs.Typing

/-!
# Evaluating what is left

An evaluation uses up every property that it asks for, so a second evaluation of the same tree in
what is left finds none of them. It fails, unless there is nothing to ask for, and leaves the
environment alone (`Node.evaluate_again`).

Two facts carry this. A tree has a value only if every property it asks for is defined
(`Node.isSome_of_outcome`): no connective makes up for a missing one. And in a tree that has a value
elsewhere, so that its operands are of the sorts they should be, the first property that is missing
is the one that is reported (`Node.outcome_of_first_undefined`).
-/

namespace Placement

namespace Node

/-! ## What comes first

A comparison of two literals has no comparison below it, so the order in which nodes come before
their children lists these comparisons from left to right. -/

/-- The property that the node itself asks for. -/
def asked? (role : Role) : Node → Option Text
  | comparison op (literal name) (literal _) => if op.takesPart role then some name else none
  | _ => none

/-- The property that the leftmost comparison that takes part asks for. -/
def firstAsked? (role : Role) (n : Node) : Option Text := n.preorder.findSome? (asked? role)

theorem asked?_comparison {op : Comparison} {l r : Node}
    (h : ∀ name expected, l = literal name → r ≠ literal expected) (role : Role) :
    asked? role (comparison op l r) = none := by
  rw [asked?]
  rintro op' name expected heq
  obtain ⟨-, hl, hr⟩ := comparison.inj heq
  exact h name expected hl hr

theorem consulted_eq_filterMap (role : Role) (n : Node) :
    n.consulted role = n.preorder.filterMap (asked? role) := by
  fun_induction consulted role n with
  | case1 text => rfl
  | case2 x ih => exact ih
  | case3 op l r ihl ihr =>
    rw [ihl, ihr, preorder, List.filterMap_cons, List.filterMap_append]
    rfl
  | case4 op name expected htakes => simp [preorder, asked?, htakes]
  | case5 op name expected htakes => simp [preorder, asked?, htakes]
  | case6 op l r hnot ihl ihr =>
    rw [ihl, ihr, preorder, List.filterMap_cons_none (asked?_comparison hnot role),
      List.filterMap_append]

theorem firstAsked?_eq (role : Role) (n : Node) :
    n.firstAsked? role = (n.consulted role).head? := by
  rw [firstAsked?, consulted_eq_filterMap, List.head?_filterMap]

/-! ## Missing properties -/

variable {ctx : EvalContext} {env : Environment}

theorem isSome_of_outcome {n : Node} {v : Value} {name : Text}
    (hok : (n.evaluate ctx env).outcome = .ok v) (hasks : n.Asks ctx.role name) :
    (env.get? name).isSome = true := by
  induction n generalizing env v with
  | literal text => exact absurd hasks (not_asks_literal text)
  | not x ih =>
    obtain ⟨b, hx⟩ := negateOutcome_eq_ok hok
    exact ih hx ((asks_not x).mp hasks)
  | connective op l r ihl ihr =>
    obtain ⟨a, b, hl, hr⟩ := joinOutcomes_eq_ok hok
    rcases (asks_connective op l r).mp hasks with hasks | hasks
    · exact ihl hl hasks
    · -- The right operand finds it in what the left one leaves.
      have hright := ihr hr hasks
      rw [remaining_evaluate, Environment.get?_without] at hright
      split at hright
      · cases hright
      · exact hright
  | comparison op l r ihl ihr =>
    have hfit := wellTyped_comparison.mp (wellTyped_of_outcome hok)
    obtain ⟨token, rfl⟩ := isLiteral_iff.mp hfit.1
    obtain ⟨expected, rfl⟩ := isLiteral_iff.mp hfit.2
    rw [asks_comparison] at hasks
    simp only [not_asks_literal, or_false, literal.injEq] at hasks
    obtain ⟨rfl, -, htakes⟩ := hasks
    rw [outcome_evaluate_literals, if_pos htakes] at hok
    cases hget : env.get? token with
    | none => rw [hget] at hok; cases hok
    | some actual => rfl

/-- A tree that has a value somewhere reports the first property that it asks for wherever that one
is missing. -/
theorem outcome_of_first_undefined {n : Node} {v : Value} {name : Text} {rest : List Text}
    {env' : Environment} (hok : (n.evaluate ctx env).outcome = .ok v)
    (hfirst : n.consulted ctx.role = name :: rest) (hundefined : env'.get? name = none) :
    (n.evaluate ctx env').outcome = .error (.propertyNotDefined name) := by
  fun_induction consulted ctx.role n generalizing env env' v rest with
  | case1 text => cases hfirst
  | case2 x ih =>
    obtain ⟨b, hx⟩ := negateOutcome_eq_ok hok
    rw [evaluate]
    dsimp only
    rw [ih hx hfirst hundefined]
    rfl
  | case3 op l r ihl ihr =>
    obtain ⟨a, b, hl, hr⟩ := joinOutcomes_eq_ok hok
    rw [evaluate]
    dsimp only
    rcases List.append_eq_cons_iff.mp hfirst with ⟨hnone, hright⟩ | ⟨more, hleft, -⟩
    · -- The left operand asks for nothing, so it has the same value and leaves everything.
      have hsame : (l.evaluate ctx env').outcome = .ok (.boolean a) := by
        rw [← hl]
        refine outcome_evaluate_congr fun asked hasks ↦ ?_
        rw [← mem_consulted_iff, hnone] at hasks
        exact absurd hasks List.not_mem_nil
      have hremaining : (l.evaluate ctx env').remaining = env' := by
        rw [remaining_evaluate, hnone, Environment.without_nil]
      rw [hsame, hremaining, ihr hr hright hundefined]
      rfl
    · rw [ihl hl hleft hundefined]
      rfl
  | case4 op token expected htakes =>
    cases hfirst
    rw [outcome_evaluate_literals, if_pos htakes, hundefined]
  | case5 op token expected htakes => cases hfirst
  | case6 op l r hnot ihl ihr =>
    rw [outcome_evaluate_comparison hnot] at hok
    exact absurd hok (nonLiteralOutcome_ne_ok op)

/-! ## Twice -/

theorem get?_remaining_of_asks {n : Node} {name : Text} (h : n.Asks ctx.role name) :
    (n.evaluate ctx env).remaining.get? name = none := by
  rw [remaining_evaluate, Environment.get?_without, if_pos (mem_consulted_iff.mpr h)]

theorem remaining_evaluate_again (n : Node) (ctx : EvalContext) (env : Environment) :
    (n.evaluate ctx (n.evaluate ctx env).remaining).remaining = (n.evaluate ctx env).remaining := by
  rw [remaining_evaluate, remaining_evaluate]
  ext1
  exact List.filter_eq_self.mpr fun entry hentry ↦ (List.mem_filter.mp hentry).2

/-- **A second evaluation.** In what an evaluation leaves, the same tree uses nothing up. If it asks
for any property it fails there, and if it had a value before, the error names the first property
that it asks for. If it asks for none, the outcome is the same again. -/
theorem evaluate_again (n : Node) (ctx : EvalContext) (env : Environment) :
    let first := n.evaluate ctx env
    let second := n.evaluate ctx first.remaining
    second.remaining = first.remaining ∧
      ((∃ name, n.Asks ctx.role name) → (∃ e, second.outcome = .error e) ∧
        ((∃ v, first.outcome = .ok v) → ∃ name, n.firstAsked? ctx.role = some name ∧
          second.outcome = .error (.propertyNotDefined name))) ∧
      ((∀ name, ¬n.Asks ctx.role name) → second.outcome = first.outcome) := by
  intro first second
  refine ⟨n.remaining_evaluate_again ctx env, fun ⟨name, hasks⟩ ↦ ⟨?_, fun ⟨v, hok⟩ ↦ ?_⟩,
    fun hnone ↦ outcome_evaluate_congr fun name hasks ↦ absurd hasks (hnone name)⟩
  · cases hsecond : second.outcome with
    | error e => exact ⟨e, rfl⟩
    | ok v =>
      have hsome := isSome_of_outcome hsecond hasks
      rw [get?_remaining_of_asks hasks] at hsome
      cases hsome
  · obtain ⟨asked, rest, hconsulted⟩ :=
      List.exists_cons_of_ne_nil (List.ne_nil_of_mem (mem_consulted_iff.mpr hasks))
    have hasked : n.Asks ctx.role asked :=
      mem_consulted_iff.mp (hconsulted ▸ List.mem_cons_self)
    refine ⟨asked, ?_, outcome_of_first_undefined hok hconsulted (get?_remaining_of_asks hasked)⟩
    rw [firstAsked?_eq, hconsulted, List.head?_cons]

theorem evaluate_again_negated :
    let policy := comparison .policy (literal ['p']) (literal ['q'])
    let n := connective .or (connective .or policy (comparison .primaryUnder (literal ['c'])
      (literal ['3']))) (not (connective .and (comparison .equal (literal ['b']) (literal ['2']))
        (comparison .less (literal ['a']) (literal ['5']))))
    let ctx : EvalContext := ⟨.secondary, false⟩
    let env := Environment.ofList [(['a'], ['4']), (['c'], ['3']), (['b'], ['2'])]
    let left := Environment.ofList [(['c'], ['3'])]
    n.Asks .secondary ['a'] ∧ (n.evaluate ctx env).outcome = .ok (.boolean true) ∧
      (n.evaluate ctx env).remaining = left ∧
      (n.evaluate ctx left).outcome = .error (.propertyNotDefined ['b']) ∧
      (∀ name, ¬policy.Asks .secondary name) ∧
      (policy.evaluate ctx (policy.evaluate ctx env).remaining).outcome
        = (policy.evaluate ctx env).outcome := by
  intro policy n ctx env left
  have hasks : n.Asks .secondary ['a'] := by decide
  have hnone : ∀ name, ¬policy.Asks .secondary name := fun name hname ↦ by
    rw [← mem_consulted_iff] at hname
    exact absurd hname List.not_mem_nil
  obtain ⟨-, hagain, -⟩ := n.evaluate_again ctx env
  obtain ⟨name, hfirst, hsecond⟩ := (hagain ⟨_, hasks⟩).2 ⟨_, rfl⟩
  cases hfirst
  exact ⟨hasks, rfl, rfl, hsecond, hnone, (policy.evaluate_again ctx env).2.2 hnone⟩

end Node

end Placement
