import Placement.Proofs.Consumption

/-!
# Sorts of operands

A comparison takes two literals, a connective and a negation take anything else. Whether all nodes
of a tree have the operands they take can be seen without evaluating it (`Node.WellTyped`), and it
decides which outcomes are possible. A well typed tree never fails for the sort of an operand, and
a tree that is not well typed never has a value, for neither replica and whatever the environment
(`Node.wellTyped_decides`).

## Why the two halves are proved apart

Sorts are looked at last, when both operands of a node have been evaluated, so a tree that is not
well typed need not report it: an error further down comes first. That such a tree has no value is
therefore an induction on values (`Node.wellTyped_of_outcome`). The other half needs to know where
an error comes from. Every error is raised at one node of the tree and carries the data of that node
(`Node.Raises`), so an error about sorts convicts a node.
-/

namespace Placement

/-! ## What a comparison of texts fails with -/

/-- Only two comparisons of texts fail: to lie under a number, and to order what is no number. -/
theorem compareTexts_eq_error {op : Comparison} (hop : op ≠ .policy) {actual expected : Text}
    {e : EvalError} (h : compareTexts (.comparison op) actual expected = .error e) :
    e = .numericPrefix (.comparison op) ∨
      e = .nonNumericOrdering (.comparison op) actual expected := by
  rw [compareTexts] at h
  generalize Sides.ofTexts actual expected = sides at h
  cases op with
  | policy => exact absurd rfl hop
  | equal | notEqual => cases h
  | under | notUnder | primaryUnder | primaryNotUnder =>
    left
    cases sides <;> cases h
    rfl
  | atLeast | atMost | less | greater =>
    right
    cases sides <;> cases h <;> rfl

/-! ## How an outcome comes about -/

section Outcomes

variable {left right : Except EvalError Value} {v : Value} {e : EvalError}

theorem negateOutcome_eq_ok {operand : Except EvalError Value} (h : negateOutcome operand = .ok v) :
    ∃ b, operand = .ok (.boolean b) := by
  rcases operand with e | (token | b) <;> cases h
  exact ⟨b, rfl⟩

theorem negateOutcome_eq_error {operand : Except EvalError Value}
    (h : negateOutcome operand = .error e) : operand = .error e ∨
      ∃ token, operand = .ok (.literal token) ∧ e = .nonBooleanOperand .not (.literal token) := by
  rcases operand with e | (token | b) <;> cases h
  · exact Or.inl rfl
  · exact Or.inr ⟨token, rfl, rfl⟩

theorem joinOutcomes_eq_ok {op : Connective} (h : joinOutcomes op left right = .ok v) :
    ∃ a b, left = .ok (.boolean a) ∧ right = .ok (.boolean b) := by
  rcases left with e | (token | a) <;> rcases right with e' | (token' | b) <;> cases h
  exact ⟨a, b, rfl, rfl⟩

theorem joinOutcomes_eq_error {op : Connective} (h : joinOutcomes op left right = .error e) :
    (left = .error e ∨ right = .error e) ∨
      ∃ token, (left = .ok (.literal token) ∨ right = .ok (.literal token)) ∧
        e = .nonBooleanOperand (.connective op) (.literal token) := by
  rcases left with e' | v
  · exact Or.inl (Or.inl h)
  rcases right with e' | w
  · exact Or.inl (Or.inr h)
  -- Both operands have values, and the left one is looked at first.
  rcases v with token | a
  · cases h
    exact Or.inr ⟨token, Or.inl rfl, rfl⟩
  rcases w with token | b
  · cases h
    exact Or.inr ⟨token, Or.inr rfl, rfl⟩
  · cases h

theorem nonLiteralOutcome_ne_ok (op : Comparison) : nonLiteralOutcome op left right ≠ .ok v := by
  rcases left with e | a <;> rcases right with e' | b <;> nofun

theorem nonLiteralOutcome_eq_error {op : Comparison}
    (h : nonLiteralOutcome op left right = .error e) :
    (left = .error e ∨ right = .error e) ∨ e = .nonLiteralOperand (.comparison op) := by
  rcases left with e' | v
  · exact Or.inl (Or.inl h)
  rcases right with e' | w
  · exact Or.inl (Or.inr h)
  · cases h
    exact Or.inr rfl

end Outcomes

def EvalError.isTypeError : EvalError → Bool
  | nonLiteralOperand _ | nonBooleanOperand _ _ => true
  | _ => false

namespace Node

/-! ## Well typed trees -/

/-- The operands of the node are of the sort that it takes: literals for a comparison, anything else
for a connective and a negation. -/
def OperandsFit : Node → Prop
  | literal _ => True
  | not x => x.isLiteral = false
  | connective _ l r => l.isLiteral = false ∧ r.isLiteral = false
  | comparison _ l r => l.isLiteral = true ∧ r.isLiteral = true

instance : DecidablePred OperandsFit
  | literal _ => inferInstanceAs (Decidable True)
  | not _ => inferInstanceAs (Decidable (_ = _))
  | connective _ _ _ | comparison _ _ _ => inferInstanceAs (Decidable (_ ∧ _))

/-- The operands of all nodes fit. -/
def WellTyped (n : Node) : Prop := ∀ x ∈ n.preorder, x.OperandsFit

instance : DecidablePred WellTyped := fun n ↦ inferInstanceAs (Decidable (∀ x ∈ n.preorder, _))

theorem wellTyped_literal (text : Text) : (literal text).WellTyped :=
  List.forall_mem_singleton.mpr trivial

theorem wellTyped_not {x : Node} : (not x).WellTyped ↔ x.isLiteral = false ∧ x.WellTyped := by
  rw [WellTyped, preorder, List.forall_mem_cons]
  rfl

theorem wellTyped_connective {op : Connective} {l r : Node} : (connective op l r).WellTyped ↔
    (l.isLiteral = false ∧ r.isLiteral = false) ∧ l.WellTyped ∧ r.WellTyped := by
  rw [WellTyped, preorder, List.forall_mem_cons, List.forall_mem_append]
  rfl

theorem isLiteral_iff {n : Node} : n.isLiteral = true ↔ ∃ text, n = literal text := by
  cases n with
  | literal text => exact iff_of_true rfl ⟨text, rfl⟩
  | _ => exact iff_of_false Bool.false_ne_true nofun

theorem ne_literal_of_not_isLiteral {l r : Node} (h : ¬(l.isLiteral = true ∧ r.isLiteral = true))
    (name expected : Text) (hl : l = literal name) : r ≠ literal expected := by
  rintro rfl
  subst hl
  exact h ⟨rfl, rfl⟩

/-- Literals are well typed themselves, so nothing is asked of a comparison but two of them. -/
theorem wellTyped_comparison {op : Comparison} {l r : Node} : (comparison op l r).WellTyped ↔
    l.isLiteral = true ∧ r.isLiteral = true := by
  rw [WellTyped, preorder, List.forall_mem_cons, List.forall_mem_append]
  refine and_iff_left_of_imp fun hfit ↦ ?_
  obtain ⟨hl, hr⟩ := hfit
  obtain ⟨name, rfl⟩ := isLiteral_iff.mp hl
  obtain ⟨expected, rfl⟩ := isLiteral_iff.mp hr
  exact ⟨wellTyped_literal name, wellTyped_literal expected⟩

/-! ## Where errors come from -/

/-- The node itself can fail with this error, for the replica. -/
inductive Raises (role : Role) : Node → EvalError → Prop
  | not (token : Text) :
      Raises role (not (literal token)) (.nonBooleanOperand .not (.literal token))
  | connective (op : Connective) {l r : Node} {token : Text}
      (h : l = literal token ∨ r = literal token) : Raises role (connective op l r)
        (.nonBooleanOperand (.connective op) (.literal token))
  | operands (op : Comparison) {l r : Node} (h : ¬(l.isLiteral = true ∧ r.isLiteral = true)) :
      Raises role (comparison op l r) (.nonLiteralOperand (.comparison op))
  | undefined {op : Comparison} (h : op.takesPart role = true) (name expected : Text) :
      Raises role (comparison op (literal name) (literal expected)) (.propertyNotDefined name)
  | numericPrefix {op : Comparison} (h : op.takesPart role = true) (name expected : Text) :
      Raises role (comparison op (literal name) (literal expected))
        (.numericPrefix (.comparison op))
  | nonNumericOrdering {op : Comparison} (h : op.takesPart role = true)
      (name actual expected : Text) : Raises role (comparison op (literal name) (literal expected))
        (.nonNumericOrdering (.comparison op) actual expected)

theorem Raises.isTypeError_iff {role : Role} {n : Node} {e : EvalError} (h : n.Raises role e) :
    e.isTypeError = true ↔ ¬n.OperandsFit := by
  cases h with
  | not token => exact iff_of_true rfl fun hfit ↦ Bool.noConfusion hfit
  | connective op h =>
    refine iff_of_true rfl fun hfit ↦ ?_
    rcases h with rfl | rfl
    · exact Bool.noConfusion hfit.1
    · exact Bool.noConfusion hfit.2
  | operands op h => exact iff_of_true rfl h
  | undefined | numericPrefix | nonNumericOrdering =>
    exact iff_of_false Bool.false_ne_true fun hfit ↦ hfit ⟨rfl, rfl⟩

theorem Raises.ne_unknownOperator {role : Role} {n : Node} {e : EvalError} (h : n.Raises role e)
    (op : Operator) : e ≠ .unknownOperator op := by
  cases h <;> nofun

section Evaluation

variable {ctx : EvalContext} {env : Environment}

theorem raises_of_literals {op : Comparison} {name expected : Text} {e : EvalError}
    (h : ((comparison op (literal name) (literal expected)).evaluate ctx env).outcome = .error e) :
    (comparison op (literal name) (literal expected)).Raises ctx.role e := by
  rw [outcome_evaluate_literals] at h
  split at h
  · next htakes =>
    split at h
    · cases h
      exact .undefined htakes name expected
    · next actual hactual =>
      cases hcompare : compareTexts (.comparison op) actual expected with
      | ok b => rw [hcompare] at h; cases h
      | error e' =>
        rw [hcompare] at h
        cases h
        rcases compareTexts_eq_error (Comparison.takesPart_iff.mp htakes).1 hcompare with rfl | rfl
        · exact .numericPrefix htakes name expected
        · exact .nonNumericOrdering htakes name actual expected
  · cases h

/-- **Where errors come from.** The error of an evaluation is raised at a node of the tree. -/
theorem exists_raises {n : Node} {e : EvalError} (h : (n.evaluate ctx env).outcome = .error e) :
    ∃ x ∈ n.preorder, x.Raises ctx.role e := by
  induction n generalizing env with
  | literal text => cases h
  | not x ih =>
    rcases negateOutcome_eq_error h with hx | ⟨token, hx, rfl⟩
    · exact (ih hx).imp fun y hy ↦ ⟨List.mem_cons_of_mem _ hy.1, hy.2⟩
    · rw [outcome_evaluate_eq_literal_iff.mp hx]
      exact ⟨_, List.mem_cons_self, .not token⟩
  | connective op l r ihl ihr =>
    rcases joinOutcomes_eq_error h with (hl | hr) | ⟨token, htoken, rfl⟩
    · exact (ihl hl).imp fun y hy ↦
        ⟨List.mem_cons_of_mem _ (List.mem_append_left _ hy.1), hy.2⟩
    · exact (ihr hr).imp fun y hy ↦
        ⟨List.mem_cons_of_mem _ (List.mem_append_right _ hy.1), hy.2⟩
    · refine ⟨_, List.mem_cons_self, .connective op ?_⟩
      exact htoken.imp outcome_evaluate_eq_literal_iff.mp outcome_evaluate_eq_literal_iff.mp
  | comparison op l r ihl ihr =>
    by_cases hfit : l.isLiteral = true ∧ r.isLiteral = true
    · obtain ⟨hl, hr⟩ := hfit
      obtain ⟨name, rfl⟩ := isLiteral_iff.mp hl
      obtain ⟨expected, rfl⟩ := isLiteral_iff.mp hr
      exact ⟨_, List.mem_cons_self, raises_of_literals h⟩
    · rw [outcome_evaluate_comparison (ne_literal_of_not_isLiteral hfit)] at h
      rcases nonLiteralOutcome_eq_error h with (hl | hr) | rfl
      · exact (ihl hl).imp fun y hy ↦
          ⟨List.mem_cons_of_mem _ (List.mem_append_left _ hy.1), hy.2⟩
      · exact (ihr hr).imp fun y hy ↦
          ⟨List.mem_cons_of_mem _ (List.mem_append_right _ hy.1), hy.2⟩
      · exact ⟨_, List.mem_cons_self, .operands op hfit⟩

/-! ## Which trees have values -/

/-- The sort of a value can be read off the root. -/
theorem isLiteral_of_outcome {n : Node} {v : Value} (h : (n.evaluate ctx env).outcome = .ok v) :
    v.literal?.isSome = n.isLiteral ∧ v.bool?.isSome = !n.isLiteral := by
  cases v with
  | literal token =>
    rw [outcome_evaluate_eq_literal_iff.mp h]
    exact ⟨rfl, rfl⟩
  | boolean b =>
    cases n with
    | literal text => cases h
    | _ => exact ⟨rfl, rfl⟩

theorem isLiteral_eq_false_of_outcome {n : Node} {b : Bool}
    (h : (n.evaluate ctx env).outcome = .ok (.boolean b)) : n.isLiteral = false :=
  (isLiteral_of_outcome h).1.symm

/-- Only a well typed tree has a value. -/
theorem wellTyped_of_outcome {n : Node} {v : Value} (h : (n.evaluate ctx env).outcome = .ok v) :
    n.WellTyped := by
  induction n generalizing env v with
  | literal text => exact wellTyped_literal text
  | not x ih =>
    obtain ⟨b, hx⟩ := negateOutcome_eq_ok h
    exact wellTyped_not.mpr ⟨isLiteral_eq_false_of_outcome hx, ih hx⟩
  | connective op l r ihl ihr =>
    obtain ⟨a, b, hl, hr⟩ := joinOutcomes_eq_ok h
    exact wellTyped_connective.mpr ⟨⟨isLiteral_eq_false_of_outcome hl,
      isLiteral_eq_false_of_outcome hr⟩, ihl hl, ihr hr⟩
  | comparison op l r ihl ihr =>
    by_cases hfit : l.isLiteral = true ∧ r.isLiteral = true
    · exact wellTyped_comparison.mpr hfit
    · rw [outcome_evaluate_comparison (ne_literal_of_not_isLiteral hfit)] at h
      exact absurd h (nonLiteralOutcome_ne_ok op)

end Evaluation

/-- **Sorts decide.** A well typed tree never fails for the sort of an operand, and any other tree
always fails. A value is a literal for a literal and a truth value for anything else, and no
operator is ever unknown. -/
theorem wellTyped_decides (n : Node) (ctx : EvalContext) (env : Environment) :
    (n.WellTyped → ∀ e, (n.evaluate ctx env).outcome = .error e → e.isTypeError = false) ∧
      (¬n.WellTyped → ∃ e, (n.evaluate ctx env).outcome = .error e) ∧
      (∀ v, (n.evaluate ctx env).outcome = .ok v →
        v.literal?.isSome = n.isLiteral ∧ v.bool?.isSome = !n.isLiteral) ∧
      ∀ op, (n.evaluate ctx env).outcome ≠ .error (.unknownOperator op) := by
  refine ⟨fun htyped e he ↦ ?_, fun hnot ↦ ?_, fun v ↦ isLiteral_of_outcome, fun op hop ↦ ?_⟩
  · obtain ⟨x, hx, hraises⟩ := exists_raises he
    exact Bool.eq_false_iff.mpr fun htype ↦ hraises.isTypeError_iff.mp htype (htyped x hx)
  · cases hv : (n.evaluate ctx env).outcome with
    | error e => exact ⟨e, rfl⟩
    | ok v => exact absurd (wellTyped_of_outcome hv) hnot
  · obtain ⟨x, -, hraises⟩ := exists_raises hop
    exact hraises.ne_unknownOperator op rfl

theorem wellTyped_decides_skipped :
    let skipped := comparison .primaryUnder (literal ['a'])
      (comparison .policy (literal ['b']) (literal ['c']))
    let ordered := connective .or (not skipped) (comparison .less (literal ['a']) (literal ['1']))
    let typed := not (comparison .less (literal ['a']) (literal ['1']))
    let env := Environment.ofList [(['a'], ['x'])]
    ¬skipped.WellTyped ∧ (∃ e, (skipped.evaluate ⟨.secondary, false⟩ env).outcome = .error e) ∧
      ¬ordered.WellTyped ∧ (∃ e, (ordered.evaluate ⟨.secondary, false⟩ env).outcome = .error e) ∧
      typed.WellTyped ∧ (typed.evaluate ⟨.secondary, false⟩ env).outcome
        = .error (.nonNumericOrdering (.comparison .less) ['x'] ['1']) ∧
      (EvalError.nonNumericOrdering (.comparison .less) ['x'] ['1']).isTypeError = false := by
  intro skipped ordered typed env
  have hskipped : ¬skipped.WellTyped := by decide
  have hordered : ¬ordered.WellTyped := by decide
  have htyped : typed.WellTyped := by decide
  exact ⟨hskipped, (wellTyped_decides skipped _ env).2.1 hskipped,
    hordered, (wellTyped_decides ordered _ env).2.1 hordered,
    htyped, rfl, (wellTyped_decides typed ⟨.secondary, false⟩ env).1 htyped _ rfl⟩

end Node

end Placement
