import Placement.Proofs.Conservation
import Placement.Proofs.Lookup
import Placement.Proofs.Reference

/-!
# What an outcome depends on

The outcome of an evaluation depends on the environment only through the values of the properties
that are asked for (`Node.outcome_evaluate_congr`). Where in the environment a property stands, and
what else is defined, does not matter.

The evaluation changes both environments as it goes, so comparing two runs step by step would need a
relation between what is left of them. The evaluation without state makes this unnecessary: it reads
the environment at the outset only, through `Environment.seen`.

For the primary replica a constraint asks for something only in its primary variants. One that
mentions none is the same for every environment, and leaves it alone.
-/

namespace Placement

namespace Environment

theorem seen_congr {env env' : Environment} {names : List Text}
    (h : ∀ name ∈ names, env.get? name = env'.get? name) : env.seen names = env'.seen names := by
  funext place
  rw [seen, seen]
  cases hname : names[place]? with
  | none => rfl
  | some name => rw [Option.bind_some, Option.bind_some, h name (List.mem_of_getElem? hname)]

end Environment

/-! ## Two environments -/

namespace Node

theorem outcome_evaluate_congr {n : Node} {ctx : EvalContext} {env env' : Environment}
    (h : ∀ name, n.Asks ctx.role name → env.get? name = env'.get? name) :
    (n.evaluate ctx env).outcome = (n.evaluate ctx env').outcome := by
  have hseen : env.seen (n.consulted ctx.role) = env'.seen (n.consulted ctx.role) :=
    Environment.seen_congr fun name hname ↦ h name (mem_consulted_iff.mp hname)
  -- Both outcomes are those of the reference, which depends on what is seen alone.
  have hrun := n.agrees ctx env [] []
  have hrun' := n.agrees ctx env' [] []
  rw [Environment.without_nil, List.nil_append, List.append_nil] at hrun hrun'
  rw [hrun, hrun', hseen]

/-! ## The primary replica -/

theorem mentionsPrimary_of_asks {n : Node} {name : Text} (h : n.Asks .primary name) :
    n.mentionsPrimary = true := by
  obtain ⟨op, expected, hmem, -, hprimary⟩ := h
  rw [mentionsPrimary, List.any_eq_true]
  exact ⟨.comparison op, List.mem_filterMap.mpr ⟨_, hmem, rfl⟩, hprimary⟩

/-- Without primary variants nothing is used up for the primary replica. -/
theorem remaining_evaluate_primary {n : Node} (h : n.mentionsPrimary = false) (trace : Bool)
    (env : Environment) : (n.evaluate ⟨.primary, trace⟩ env).remaining = env := by
  have hnone : n.consulted .primary = [] := List.eq_nil_iff_forall_not_mem.mpr fun name hname ↦ by
    rw [mentionsPrimary_of_asks (mem_consulted_iff.mp hname)] at h
    cases h
  rw [remaining_evaluate, hnone, Environment.without_nil]

end Node

/-- **Dependence.** The outcome of a compiled constraint depends on nothing but the values of the
properties it asks for, hence neither on the order of the environment nor on what else it defines.
If the constraint is not flagged for the primary replica, then for that replica its outcome does not
depend on the environment at all, and every environment is left as it was. -/
theorem outcome_depends_on_asked {text : Text} {e : Expression} (h : compile text = .ok e) :
    (∀ (ctx : EvalContext) (env env' : Environment),
        (∀ name, e.root.Asks ctx.role name → env.get? name = env'.get? name) →
          (e.evaluate ctx env).outcome = (e.evaluate ctx env').outcome) ∧
      (∀ (ctx : EvalContext) (env env' : Environment), env.entries.Perm env'.entries →
        (e.evaluate ctx env).outcome = (e.evaluate ctx env').outcome) ∧
      (∀ (ctx : EvalContext) (env : Environment) (properties : List (Text × Text)),
        (∀ entry ∈ properties, ¬e.root.Asks ctx.role entry.1) →
          (e.evaluate ctx (env.extend properties)).outcome = (e.evaluate ctx env).outcome) ∧
      (e.forPrimary = false → ∀ (trace : Bool) (env env' : Environment),
        (e.evaluate ⟨.primary, trace⟩ env).outcome = (e.evaluate ⟨.primary, trace⟩ env').outcome ∧
          (e.evaluate ⟨.primary, trace⟩ env).remaining = env) := by
  refine ⟨fun ctx env env' ↦ Node.outcome_evaluate_congr, fun ctx env env' hperm ↦ ?_,
    fun ctx env properties hextra ↦ ?_, fun hflag trace env env' ↦ ?_⟩
  · exact Node.outcome_evaluate_congr fun name _ ↦ Environment.get?_eq_of_perm hperm name
  · refine Node.outcome_evaluate_congr fun name hasks ↦ Environment.get?_extend ?_ env
    rintro entry hentry rfl
    exact hextra entry hentry hasks
  · -- Nothing is asked for, so any two environments agree on it.
    rw [forPrimary_of_compile h] at hflag
    refine ⟨Node.outcome_evaluate_congr fun name hasks ↦ ?_,
      Node.remaining_evaluate_primary hflag trace env⟩
    rw [Node.mentionsPrimary_of_asks hasks] at hflag
    cases hflag

theorem outcome_depends_on_asked_twice :
    let e : Expression := ⟨.connective .or (.comparison .equal (.literal ['a']) (.literal ['1']))
      (.comparison .equal (.literal ['a']) (.literal ['2'])), false⟩
    let env := Environment.ofList [(['c'], ['3']), (['a'], ['1'])]
    let env' := Environment.ofList [(['a'], ['1']), (['c'], ['3'])]
    compile "a==1||a==2".toList = .ok e ∧ e.forPrimary = false ∧
      (e.evaluate ⟨.secondary, false⟩ env).outcome = .error (.propertyNotDefined ['a']) ∧
      (e.evaluate ⟨.secondary, false⟩ env).outcome
        = (e.evaluate ⟨.secondary, false⟩ env').outcome ∧
      (e.evaluate ⟨.secondary, false⟩ (env.extend [(['b'], ['0'])])).outcome
        = (e.evaluate ⟨.secondary, false⟩ env).outcome ∧
      (e.evaluate ⟨.primary, false⟩ env).remaining = env := by
  intro e env env'
  have hcompile : compile "a==1||a==2".toList = .ok e := by decide +kernel
  obtain ⟨-, hperm, hextra, hprimary⟩ := outcome_depends_on_asked hcompile
  exact ⟨hcompile, rfl, rfl, hperm _ env env' (by decide),
    hextra _ env [(['b'], ['0'])] (by decide), (hprimary rfl false env env').2⟩

end Placement
