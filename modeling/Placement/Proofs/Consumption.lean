import Placement.Evaluation

/-!
# What an evaluation uses up

Which properties an evaluation takes out of the environment can be read off the tree: the names to
the left of the comparisons that take part (`Node.consulted`), whatever the environment holds and
whatever the outcome is. This is the point of evaluating both operands always, and it makes the
environment in the middle of an evaluation known beforehand (`Node.remaining_evaluate`).

What is left in the end can be said without going through the tree in order: an entry goes exactly
if some comparison asks for it (`Node.Asks`, `Node.entries_remaining_evaluate`).
-/

namespace Placement

namespace Environment

theorem lookup_filter_notMem (names : List Text) (name : Text) (es : List (Text × Text)) :
    (es.filter (·.1 ∉ names)).lookup name = if name ∈ names then none else es.lookup name := by
  induction es with
  | nil => simp
  | cons entry es ih =>
    obtain ⟨n, v⟩ := entry
    rw [List.lookup_cons]
    by_cases hn : n ∈ names
    · -- The entry is left out: its own name is gone, and any other is looked up behind it.
      rw [List.filter_cons_of_neg (by simpa using hn), ih]
      by_cases heq : name = n
      · rw [if_pos (heq ▸ hn), if_pos (heq ▸ hn)]
      · rw [beq_false_of_ne heq]
    · rw [List.filter_cons_of_pos (by simpa using hn), List.lookup_cons, ih]
      by_cases heq : name = n
      · subst heq
        simp only [beq_self_eq_true, if_neg hn]
      · rw [beq_false_of_ne heq]

def without (env : Environment) (names : List Text) : Environment :=
  ⟨env.entries.filter (·.1 ∉ names), (List.filter_sublist.map Prod.fst).nodup env.nodup_names⟩

theorem get?_without (env : Environment) (names : List Text) (name : Text) :
    (env.without names).get? name = if name ∈ names then none else env.get? name :=
  lookup_filter_notMem names name env.entries

@[simp] theorem without_nil (env : Environment) : env.without [] = env := by
  ext1
  exact List.filter_eq_self.mpr fun _ _ ↦ rfl

theorem without_without (env : Environment) (names names' : List Text) :
    (env.without names).without names' = env.without (names ++ names') := by
  ext1
  change (env.entries.filter (·.1 ∉ names)).filter (·.1 ∉ names') = _
  rw [List.filter_filter]
  refine List.filter_congr fun entry _ ↦ ?_
  simp [Bool.and_comm]

theorem erase_eq_without (env : Environment) (name : Text) :
    env.erase name = env.without [name] := by
  ext1
  refine List.filter_congr fun entry _ ↦ ?_
  simp

end Environment

/-! ## What a tree consults -/

/-- A comparison takes part for its own kind of replica, unless it is `~`. -/
theorem Comparison.takesPart_iff {op : Comparison} {role : Role} :
    op.takesPart role = true ↔ op ≠ .policy ∧ op.isPrimaryVariant = role.isPrimary := by
  rw [Comparison.takesPart, Bool.and_eq_true, beq_iff_eq, bne_iff_ne, and_comm]

/-- The properties that are consulted for a replica, from left to right: the left literals of the
comparisons of two literals that take part. -/
def Node.consulted (role : Role) : Node → List Text
  | literal _ => []
  | not x => x.consulted role
  | connective _ l r => l.consulted role ++ r.consulted role
  | comparison op (literal name) (literal _) => if op.takesPart role then [name] else []
  | comparison _ l r => l.consulted role ++ r.consulted role

/-! ## Which values are literals -/

private theorem negateOutcome_ne_literal (operand : Except EvalError Value) (token : Text) :
    negateOutcome operand ≠ .ok (.literal token) := by
  rcases operand with e | (text | b) <;> nofun

private theorem joinOutcomes_ne_literal (op : Connective) (left right : Except EvalError Value)
    (token : Text) : joinOutcomes op left right ≠ .ok (.literal token) := by
  rcases left with e | (text | a) <;> rcases right with e' | (text' | b) <;> nofun

/-- The outcome of a comparison whose operands are not both literals. -/
def nonLiteralOutcome (op : Comparison) (left right : Except EvalError Value) :
    Except EvalError Value :=
  match left, right with
  | .error e, _ => .error e
  | .ok _, .error e => .error e
  | .ok _, .ok _ => .error (.nonLiteralOperand (.comparison op))

theorem compareOutcomes_of_not_literals {op : Comparison} {left right : Except EvalError Value}
    (h : ∀ name expected, left = .ok (.literal name) → right ≠ .ok (.literal expected))
    (role : Role) (env : Environment) :
    compareOutcomes op role left right env = (nonLiteralOutcome op left right, env) := by
  rcases left with e | (name | a)
  · rfl
  · rcases right with e | (expected | b)
    · rfl
    · exact absurd rfl (h name expected rfl)
    · rfl
  · rcases right with e | (expected | b) <;> rfl

private theorem compareOutcomes_ne_literal (op : Comparison) (role : Role)
    (left right : Except EvalError Value) (env : Environment) (token : Text) :
    (compareOutcomes op role left right env).1 ≠ .ok (.literal token) := by
  rcases left with e | (name | a)
  · nofun
  · rcases right with e | (expected | b)
    · nofun
    · rw [compareOutcomes]
      split
      · split
        · next actual env' htake =>
          cases compareTexts (.comparison op) actual expected <;> nofun
        · nofun
      · nofun
    · nofun
  · rcases right with e | (expected | b) <;> nofun

namespace Node

variable {ctx : EvalContext}

theorem outcome_evaluate_eq_literal_iff {n : Node} {env : Environment} {token : Text} :
    (n.evaluate ctx env).outcome = .ok (.literal token) ↔ n = literal token := by
  cases n with
  | literal text => simp [evaluate]
  | not x => exact iff_of_false (negateOutcome_ne_literal _ _) nofun
  | connective op l r => exact iff_of_false (joinOutcomes_ne_literal _ _ _ _) nofun
  | comparison op l r => exact iff_of_false (compareOutcomes_ne_literal _ _ _ _ _ _) nofun

/-! ## What is left -/

theorem outcome_evaluate_literals (ctx : EvalContext) (op : Comparison) (name expected : Text)
    (env : Environment) :
    ((comparison op (literal name) (literal expected)).evaluate ctx env).outcome =
      if op.takesPart ctx.role then
        match env.get? name with
        | none => .error (.propertyNotDefined name)
        | some actual => (compareTexts (.comparison op) actual expected).map .boolean
      else .ok (.boolean true) := by
  simp only [evaluate, compareOutcomes, Environment.take]
  split
  · cases env.get? name <;> rfl
  · rfl

theorem remaining_evaluate_literals (ctx : EvalContext) (op : Comparison) (name expected : Text)
    (env : Environment) :
    ((comparison op (literal name) (literal expected)).evaluate ctx env).remaining =
      if op.takesPart ctx.role then env.without [name] else env := by
  rw [← Environment.erase_eq_without]
  simp only [evaluate, compareOutcomes, Environment.take]
  split
  · cases env.get? name <;> rfl
  · rfl

/-- Any other comparison has no value, and leaves what its operands leave. -/
theorem compareOutcomes_evaluate {op : Comparison} {l r : Node}
    (h : ∀ name expected, l = literal name → r ≠ literal expected) (env env' env'' : Environment) :
    compareOutcomes op ctx.role (l.evaluate ctx env).outcome (r.evaluate ctx env').outcome env'' =
      (nonLiteralOutcome op (l.evaluate ctx env).outcome (r.evaluate ctx env').outcome, env'') :=
  compareOutcomes_of_not_literals (fun name expected hl hr ↦ h name expected
    (outcome_evaluate_eq_literal_iff.mp hl) (outcome_evaluate_eq_literal_iff.mp hr)) _ _

theorem outcome_evaluate_comparison {op : Comparison} {l r : Node}
    (h : ∀ name expected, l = literal name → r ≠ literal expected) (env : Environment) :
    ((comparison op l r).evaluate ctx env).outcome
      = nonLiteralOutcome op (l.evaluate ctx env).outcome
          (r.evaluate ctx (l.evaluate ctx env).remaining).outcome := by
  rw [evaluate]
  dsimp only
  rw [compareOutcomes_evaluate h]

theorem remaining_evaluate_comparison {op : Comparison} {l r : Node}
    (h : ∀ name expected, l = literal name → r ≠ literal expected) (env : Environment) :
    ((comparison op l r).evaluate ctx env).remaining
      = (r.evaluate ctx (l.evaluate ctx env).remaining).remaining := by
  rw [evaluate]
  dsimp only
  rw [compareOutcomes_evaluate h]

/-- **Consumption.** An evaluation leaves what its tree does not consult. -/
theorem remaining_evaluate (n : Node) (env : Environment) :
    (n.evaluate ctx env).remaining = env.without (n.consulted ctx.role) := by
  fun_induction consulted ctx.role n generalizing env with
  | case1 text => exact env.without_nil.symm
  | case2 x ih => exact ih env
  | case3 op l r ihl ihr =>
    rw [evaluate]
    dsimp only
    rw [ihr, ihl, Environment.without_without]
  | case4 op name expected htakes =>
    rw [remaining_evaluate_literals, if_pos htakes]
  | case5 op name expected htakes =>
    rw [remaining_evaluate_literals, if_neg htakes, Environment.without_nil]
  | case6 op l r hnot ihl ihr =>
    rw [remaining_evaluate_comparison hnot, ihr, ihl, Environment.without_without]

/-! ## Which entries go

`consulted` lists names in the order in which they are asked for, some of them more than once. For
what is left neither matters: an entry goes exactly if its name stands on the left of a comparison
of two literals that takes part, wherever in the tree that is. -/

/-- Some comparison in the tree takes part for the replica and asks for this property. -/
def Asks (role : Role) (name : Text) (n : Node) : Prop :=
  ∃ op expected, comparison op (literal name) (literal expected) ∈ n.preorder ∧
    op ≠ .policy ∧ op.isPrimaryVariant = role.isPrimary

section Asks

variable {role : Role} {name : Text}

theorem not_asks_literal (text : Text) : ¬(literal text).Asks role name := by
  simp [Asks, preorder]

theorem asks_not (x : Node) : (not x).Asks role name ↔ x.Asks role name := by
  simp [Asks, preorder]

theorem asks_connective (op : Connective) (l r : Node) :
    (connective op l r).Asks role name ↔ l.Asks role name ∨ r.Asks role name := by
  simp [Asks, preorder, or_and_right, exists_or]

theorem asks_comparison (op : Comparison) (l r : Node) :
    (comparison op l r).Asks role name ↔
      (l = literal name ∧ (∃ expected, r = literal expected) ∧ op.takesPart role = true) ∨
        l.Asks role name ∨ r.Asks role name := by
  have hroot : (∃ op' expected, comparison op' (literal name) (literal expected)
        = comparison op l r ∧ op' ≠ .policy ∧ op'.isPrimaryVariant = role.isPrimary) ↔
      l = literal name ∧ (∃ expected, r = literal expected) ∧ op.takesPart role = true := by
    rw [Comparison.takesPart_iff]
    constructor
    · rintro ⟨op', expected, heq, htakes⟩
      obtain ⟨rfl, rfl, rfl⟩ := comparison.inj heq
      exact ⟨rfl, ⟨expected, rfl⟩, htakes⟩
    · rintro ⟨rfl, ⟨expected, rfl⟩, htakes⟩
      exact ⟨op, expected, rfl, htakes⟩
  rw [← hroot]
  simp only [Asks, preorder, List.mem_cons, List.mem_append, or_and_right, exists_or]

theorem mem_consulted_iff {n : Node} : name ∈ n.consulted role ↔ n.Asks role name := by
  fun_induction consulted role n with
  | case1 text => exact iff_of_false List.not_mem_nil (not_asks_literal text)
  | case2 x ih => rw [ih, asks_not]
  | case3 op l r ihl ihr => rw [List.mem_append, ihl, ihr, asks_connective]
  | case4 op name' expected htakes =>
    rw [asks_comparison, List.mem_singleton]
    simp [htakes, not_asks_literal, eq_comm]
  | case5 op name' expected htakes =>
    rw [asks_comparison]
    simp [htakes, not_asks_literal]
  | case6 op l r hnot ihl ihr =>
    -- Not both operands are literals, so the comparison itself asks for nothing.
    rw [List.mem_append, ihl, ihr, asks_comparison]
    refine (or_iff_right ?_).symm
    rintro ⟨rfl, ⟨expected, rfl⟩, -⟩
    exact hnot name expected rfl rfl

instance : DecidablePred (Asks role name) := fun _ ↦ decidable_of_iff _ mem_consulted_iff

end Asks

/-- **What is left.** An evaluation removes exactly the entries whose names are asked for. The names
that are left therefore depend neither on any value nor on how the evaluation turns out. -/
theorem entries_remaining_evaluate (n : Node) (ctx : EvalContext) (env : Environment) :
    (n.evaluate ctx env).remaining.entries
        = env.entries.filter (fun entry ↦ ¬n.Asks ctx.role entry.1) ∧
      ∀ env' : Environment, env'.names = env.names →
        (n.evaluate ctx env').remaining.names = (n.evaluate ctx env).remaining.names := by
  have hentries : ∀ env : Environment, (n.evaluate ctx env).remaining.entries
      = env.entries.filter (fun entry ↦ ¬n.Asks ctx.role entry.1) := by
    intro env
    rw [remaining_evaluate]
    refine List.filter_congr fun entry _ ↦ ?_
    rw [decide_eq_decide, mem_consulted_iff]
  have hnames : ∀ env : Environment, (n.evaluate ctx env).remaining.names
      = env.names.filter (fun name ↦ ¬n.Asks ctx.role name) := by
    intro env
    rw [Environment.names, hentries, Environment.names, List.filter_map]
    rfl
  exact ⟨hentries env, fun env' h ↦ by rw [hnames, hnames, h]⟩

theorem names_remaining_of_failure :
    let n := connective .and (comparison .less (literal ['a']) (literal ['i', 'n', 'f']))
      (comparison .equal (literal ['b']) (literal ['u']))
    let env := Environment.ofList [(['a'], ['0']), (['c'], ['v']), (['b'], ['u'])]
    let env' := Environment.ofList [(['a'], ['x']), (['c'], ['w']), (['b'], ['u'])]
    (n.evaluate ⟨.secondary, false⟩ env).outcome = .ok (.boolean true) ∧
      (n.evaluate ⟨.secondary, false⟩ env').outcome
        = .error (.nonNumericOrdering (.comparison .less) ['x'] ['i', 'n', 'f']) ∧
      env'.names = env.names ∧ (n.evaluate ⟨.secondary, false⟩ env').remaining.names
        = (n.evaluate ⟨.secondary, false⟩ env).remaining.names := by
  intro n env env'
  exact ⟨rfl, rfl, rfl,
    (entries_remaining_evaluate n ⟨.secondary, false⟩ env).2 env' rfl⟩

end Node

end Placement
