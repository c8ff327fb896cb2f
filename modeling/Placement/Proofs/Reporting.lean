import Mathlib.Data.List.Perm.Basic
import Placement.Proofs.Repetition

/-!
# What is reported

With tracing on, an evaluation reports the nodes of the tree in postorder, each of them once,
whatever their outcomes are. Nothing is skipped, since both operands of every node are evaluated
before it is known how any of them turned out.

An event carries the outcome of its own node. What a node evaluates to depends on what was consulted
before its evaluation began, and this can be read off the report: it is what the nodes before it ask
for, those of its own subtree left out (`Node.consultedBefore`). In postorder a subtree is a stretch
that ends with its root, so the place of the root and the size of the subtree say where it begins.
-/

namespace Placement

namespace Node

/-- The node and all below it: a node behind its children, the left before the right. -/
def postorder : Node → List Node
  | literal text => [literal text]
  | not x => x.postorder ++ [not x]
  | connective op l r => l.postorder ++ r.postorder ++ [connective op l r]
  | comparison op l r => l.postorder ++ r.postorder ++ [comparison op l r]

theorem postorder_perm_preorder (n : Node) : n.postorder.Perm n.preorder := by
  induction n with
  | literal text => exact List.Perm.refl _
  | not x ih => exact (List.perm_append_singleton _ _).trans (ih.cons _)
  | connective op l r ihl ihr | comparison op l r ihl ihr =>
    exact (List.perm_append_singleton _ _).trans ((ihl.append ihr).cons _)

theorem consulted_eq_filterMap_postorder (role : Role) (n : Node) :
    n.consulted role = n.postorder.filterMap (asked? role) := by
  fun_induction consulted role n with
  | case1 text => rfl
  | case2 x ih =>
    rw [ih, postorder, List.filterMap_append]
    exact (List.append_nil _).symm
  | case3 op l r ihl ihr =>
    rw [ihl, ihr, postorder, List.filterMap_append, List.filterMap_append]
    exact (List.append_nil _).symm
  | case4 op name expected htakes =>
    have hasked : asked? role (comparison op (literal name) (literal expected)) = some name :=
      if_pos htakes
    exact (congrArg Option.toList hasked).symm
  | case5 op name expected htakes =>
    have hasked : asked? role (comparison op (literal name) (literal expected)) = none :=
      if_neg htakes
    exact (congrArg Option.toList hasked).symm
  | case6 op l r hnot ihl ihr =>
    rw [ihl, ihr, postorder, List.filterMap_append, List.filterMap_append,
      List.filterMap_cons_none (asked?_comparison hnot role), List.filterMap_nil, List.append_nil]

/-! ## Subtrees as stretches -/

variable {n m x : Node} {role : Role} {i : Nat}

private theorem length_postorder_le_of_concat (below : List Node) (hn : n.postorder = below ++ [n])
    (hbelow : below[i]? = some m → m.postorder.length ≤ i + 1) (h : n.postorder[i]? = some m) :
    m.postorder.length ≤ i + 1 := by
  rw [hn] at h
  rcases Nat.lt_or_ge i below.length with hlt | hge
  · rw [List.getElem?_append_left hlt] at h
    exact hbelow h
  · rw [List.getElem?_append_right hge] at h
    obtain rfl := List.mem_singleton.mp (List.mem_of_getElem? h)
    rw [hn, List.length_append, List.length_singleton]
    omega

private theorem length_postorder_le_of_append {l r : Node}
    (hl : ∀ {i}, l.postorder[i]? = some m → m.postorder.length ≤ i + 1)
    (hr : ∀ {i}, r.postorder[i]? = some m → m.postorder.length ≤ i + 1)
    (h : (l.postorder ++ r.postorder)[i]? = some m) : m.postorder.length ≤ i + 1 := by
  rcases Nat.lt_or_ge i l.postorder.length with hlt | hge
  · rw [List.getElem?_append_left hlt] at h
    exact hl h
  · rw [List.getElem?_append_right hge] at h
    have := hr h
    omega

/-- At the place of a node there is room for its subtree. -/
theorem length_postorder_le (h : n.postorder[i]? = some m) : m.postorder.length ≤ i + 1 := by
  induction n generalizing i with
  | literal text => exact length_postorder_le_of_concat [] rfl nofun h
  | not x ih => exact length_postorder_le_of_concat _ rfl ih h
  | connective op l r ihl ihr | comparison op l r ihl ihr =>
    exact length_postorder_le_of_concat _ rfl (length_postorder_le_of_append ihl ihr) h

/-- The properties that are consulted before the evaluation of a node begins that is reported at a
place: those that the nodes before its subtree ask for. -/
def consultedBefore (role : Role) (n : Node) (i : Nat) (m : Node) : List Text :=
  (n.postorder.take (i + 1 - m.postorder.length)).filterMap (asked? role)

/-- The event of a node that is reported at a place. -/
def eventAt (role : Role) (env : Environment) (n : Node) (i : Nat) (m : Node) : NodeEvent :=
  ⟨m, (m.evaluate ⟨role, false⟩ (env.without (n.consultedBefore role i m))).outcome⟩

theorem consultedBefore_add {before after : List Node}
    (hn : n.postorder = before ++ (x.postorder ++ after)) (h : x.postorder[i]? = some m) :
    n.consultedBefore role (i + before.length) m
      = before.filterMap (asked? role) ++ x.consultedBefore role i m := by
  have hroom := length_postorder_le h
  have hplace : i + before.length + 1 - m.postorder.length
      = before.length + (i + 1 - m.postorder.length) := by omega
  have hwithin : i + 1 - m.postorder.length ≤ x.postorder.length := by
    have := (List.getElem?_eq_some_iff.mp h).1
    omega
  rw [consultedBefore, consultedBefore, hn, hplace, List.take_length_add_append,
    List.take_append_of_le_length hwithin, List.filterMap_append]

theorem mapIdx_eventAt (role : Role) (before : List Node) {after : List Node} (env : Environment)
    (hn : n.postorder = before ++ (x.postorder ++ after)) :
    (x.postorder.mapIdx fun i m ↦ n.eventAt role env (i + before.length) m)
      = x.postorder.mapIdx (x.eventAt role (env.without (before.filterMap (asked? role)))) := by
  rw [List.mapIdx_eq_mapIdx_iff]
  intro i hi
  have hget := List.getElem?_eq_getElem hi
  rw [eventAt, eventAt, consultedBefore_add hn hget, Environment.without_without]

theorem eventAt_root {below : List Node} (hn : n.postorder = below ++ [n]) (env : Environment) :
    n.eventAt role env below.length n = ⟨n, (n.evaluate ⟨role, false⟩ env).outcome⟩ := by
  have hnone : n.consultedBefore role below.length n = [] := by
    rw [consultedBefore, hn, List.length_append, List.length_singleton, Nat.sub_self]
    rfl
  rw [eventAt, hnone, Environment.without_nil]

/-! ## The report -/

theorem events_evaluate_quiet (n : Node) (role : Role) (env : Environment) :
    (n.evaluate ⟨role, false⟩ env).events = [] := by
  induction n generalizing env with
  | literal text => rfl
  | not x ih =>
    rw [evaluate]
    dsimp only
    rw [ih]
    rfl
  | connective op l r ihl ihr | comparison op l r ihl ihr =>
    rw [evaluate]
    dsimp only
    rw [ihl, ihr]
    rfl

/-- A node is reported behind all that its operands report, with the outcome that it has. -/
private theorem append_report (below : List Node) {env : Environment}
    (hn : n.postorder = below ++ [n]) :
    below.mapIdx (n.eventAt role env)
        ++ report ⟨role, true⟩ n (n.evaluate ⟨role, true⟩ env).outcome
      = n.postorder.mapIdx (n.eventAt role env) := by
  rw [hn, List.mapIdx_concat, eventAt_root hn, n.outcome_evaluate_trace role false true]
  rfl

/-- The events of two operands, each in the environment that it finds, are those of their places in
the whole. -/
private theorem events_operands {l r : Node} {after : List Node} {env : Environment}
    (hn : n.postorder = l.postorder ++ r.postorder ++ after)
    (hl : ∀ env, (l.evaluate ⟨role, true⟩ env).events = l.postorder.mapIdx (l.eventAt role env))
    (hr : ∀ env, (r.evaluate ⟨role, true⟩ env).events = r.postorder.mapIdx (r.eventAt role env)) :
    (l.evaluate ⟨role, true⟩ env).events
        ++ (r.evaluate ⟨role, true⟩ (l.evaluate ⟨role, true⟩ env).remaining).events
      = (l.postorder ++ r.postorder).mapIdx (n.eventAt role env) := by
  have hleft := mapIdx_eventAt role [] env (hn.trans (List.append_assoc _ _ _))
  have hright := mapIdx_eventAt role l.postorder env (hn.trans (List.append_assoc _ _ _))
  rw [List.filterMap_nil, Environment.without_nil] at hleft
  rw [List.mapIdx_append, hl, hr, remaining_evaluate, consulted_eq_filterMap_postorder, ← hright,
    ← hleft]
  rfl

/-- The nodes are reported in postorder. -/
theorem events_evaluate (n : Node) (role : Role) (env : Environment) :
    (n.evaluate ⟨role, true⟩ env).events = n.postorder.mapIdx (n.eventAt role env) := by
  induction n generalizing env with
  | literal text => exact append_report [] rfl
  | not x ih =>
    have hbelow := mapIdx_eventAt (n := not x) role [] env rfl
    rw [List.filterMap_nil, Environment.without_nil, ← ih] at hbelow
    rw [← append_report x.postorder rfl]
    exact congrArg (· ++ _) hbelow.symm
  | connective op l r ihl ihr =>
    rw [← append_report _ rfl, ← events_operands rfl ihl ihr]
    rfl
  | comparison op l r ihl ihr =>
    rw [← append_report _ rfl, ← events_operands rfl ihl ihr]
    rfl

/-- **Reports.** With tracing on, every node of the tree is reported once, in postorder and with its
own outcome: what it evaluates to where the properties are gone that were consulted before. With
tracing off nothing is reported, and neither the outcome nor what is left of the environment depends
on it. -/
theorem reported_in_postorder (n : Node) (role : Role) (env : Environment) :
    let traced := n.evaluate ⟨role, true⟩ env
    let quiet := n.evaluate ⟨role, false⟩ env
    n.postorder.Perm n.preorder ∧
      traced.events = n.postorder.mapIdx (fun i m ↦
        ⟨m, (m.evaluate ⟨role, false⟩ (env.without (n.consultedBefore role i m))).outcome⟩) ∧
      quiet.events = [] ∧ traced.outcome = quiet.outcome ∧
      traced.remaining = quiet.remaining :=
  ⟨n.postorder_perm_preorder, n.events_evaluate role env, n.events_evaluate_quiet role env,
    n.outcome_evaluate_trace role true false env, n.remaining_evaluate_trace role true false env⟩

-- The left operand fails, and the right one is reported all the same.
example : ((connective .and (comparison .equal (literal ['a']) (literal ['1']))
    (not (literal ['x']))).evaluate ⟨.secondary, true⟩ .empty).events.map (·.outcome)
      = [.ok (.literal ['a']), .ok (.literal ['1']), .error (.propertyNotDefined ['a']),
        .ok (.literal ['x']), .error (.nonBooleanOperand .not (.literal ['x'])),
        .error (.propertyNotDefined ['a'])] := rfl

end Node

end Placement
