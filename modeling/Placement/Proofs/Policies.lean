import Placement.Proofs.Conservation

/-!
# Which policy counts

A node carries, for either kind of policy, one text: its own declaration if it is one, else what its
left child carries, else what its right child does. So what is carried at the top is decided by one
choice at every node on the way. The result needs no choices: it is the first declaration below the
node, from left to right (`Node.policy?_eq_findSome?`).

## Text order

The literals of a compiled constraint are those of its text, in order, so the place of a node among
them is its place in the text. `Node.placed` lists the nodes of a tree with their places, and
`Node.declarations` those that declare a policy. Two declarations never overlap, since neither
literal of one can be a declaration. So from left to right their places grow, and the first
declaration of the tree is the first one of the text (`declarations_pairwise`).
-/

namespace Placement

namespace Node

variable {p : Policy} {n : Node} {value : Text}

/-- The comparison that declares a policy. -/
def declaration (p : Policy) (value : Text) : Node :=
  .comparison .policy (.literal p.name) (.literal value)

def ownPolicy? (p : Policy) : Node → Option Text
  | comparison op l r => declared? p op l r
  | literal _ | not _ | connective _ _ _ => none

theorem literal?_eq_some_iff {text : Text} : n.literal? = some text ↔ n = literal text := by
  cases n <;> simp [literal?]

theorem ownPolicy?_eq_some_iff : n.ownPolicy? p = some value ↔ n = declaration p value := by
  cases n with
  | comparison op l r =>
    rw [ownPolicy?, declared?, declaration, comparison.injEq, Option.ite_none_right_eq_some,
      literal?_eq_some_iff, literal?_eq_some_iff, and_assoc]
  | literal | not | connective => simp [ownPolicy?, declaration]

/-! ## The first declaration -/

/-- What a node carries is the first declaration below it. -/
theorem policy?_eq_findSome? (p : Policy) (n : Node) :
    n.policy? p = n.preorder.findSome? (ownPolicy? p) := by
  induction n with
  | literal text => rfl
  | not x ih => rw [policy?, ih, preorder, List.findSome?_cons, ownPolicy?]
  | connective op l r ihl ihr =>
    rw [policy?, ihl, ihr, preorder, List.findSome?_cons, ownPolicy?, List.findSome?_append]
  | comparison op l r ihl ihr =>
    rw [policy?, ihl, ihr, preorder, List.findSome?_cons, ownPolicy?, List.findSome?_append]
    cases declared? p op l r <;> rfl

theorem policy?_eq_some_iff : n.policy? p = some value ↔ ∃ before after,
    n.preorder = before ++ declaration p value :: after ∧
      ∀ x ∈ before, ∀ other, x ≠ declaration p other := by
  have hother : ∀ x : Node, x.ownPolicy? p = none ↔ ∀ other, x ≠ declaration p other := by
    intro x
    simp only [Option.eq_none_iff_forall_ne_some, ne_eq, ownPolicy?_eq_some_iff]
  rw [policy?_eq_findSome?, List.findSome?_eq_some_iff]
  simp only [ownPolicy?_eq_some_iff, hother]
  constructor
  · rintro ⟨before, x, after, hsplit, rfl, hbefore⟩
    exact ⟨before, after, hsplit, hbefore⟩
  · rintro ⟨before, after, hsplit, hbefore⟩
    exact ⟨before, _, after, hsplit, rfl, hbefore⟩

theorem policy?_eq_none_iff :
    n.policy? p = none ↔ ∀ value, declaration p value ∉ n.preorder := by
  rw [policy?_eq_findSome?, List.findSome?_eq_none_iff]
  constructor
  · intro hall value hmem
    have hnone := hall _ hmem
    rw [ownPolicy?_eq_some_iff.mpr rfl] at hnone
    cases hnone
  · intro hall x hx
    rw [Option.eq_none_iff_forall_ne_some]
    intro value hvalue
    exact hall value (ownPolicy?_eq_some_iff.mp hvalue ▸ hx)

/-! ## Places -/

/-- The nodes of a tree in preorder, each with its place: the number of literals that stand before
it, counted from `k` on. -/
def placed : Nat → Node → List (Nat × Node)
  | k, literal text => [(k, literal text)]
  | k, not x => (k, not x) :: x.placed k
  | k, connective op l r =>
    (k, connective op l r) :: (l.placed k ++ r.placed (k + l.leaves.length))
  | k, comparison op l r =>
    (k, comparison op l r) :: (l.placed k ++ r.placed (k + l.leaves.length))

/-- The declarations of a policy from left to right, each with its place and the policy. -/
def declarations (p : Policy) (k : Nat) (n : Node) : List (Nat × Text) :=
  (n.placed k).filterMap fun x ↦ (x.2.ownPolicy? p).map (x.1, ·)

theorem map_snd_placed (k : Nat) (n : Node) : (n.placed k).map Prod.snd = n.preorder := by
  induction n generalizing k with
  | literal text => rfl
  | not x ih => rw [placed, List.map_cons, ih, preorder]
  | connective op l r ihl ihr | comparison op l r ihl ihr =>
    rw [placed, List.map_cons, List.map_append, ihl, ihr, preorder]

/-- The literals of a node stand at its place among the literals of the tree. -/
theorem leaves_of_mem_placed {k place : Nat} {n x : Node} (h : (place, x) ∈ n.placed k) :
    ∃ before after, n.leaves = before ++ (x.leaves ++ after) ∧ place = k + before.length := by
  have hself : ∀ n : Node, ∃ before after,
      n.leaves = before ++ (n.leaves ++ after) ∧ k = k + before.length :=
    fun n ↦ ⟨[], [], by simp, rfl⟩
  induction n generalizing k with
  | literal text =>
    rw [placed, List.mem_singleton, Prod.mk.injEq] at h
    obtain ⟨rfl, rfl⟩ := h
    exact hself _
  | not y ih =>
    rw [placed, List.mem_cons, Prod.mk.injEq] at h
    rcases h with ⟨rfl, rfl⟩ | h
    · exact hself _
    · exact ih h hself
  | connective op l r ihl ihr | comparison op l r ihl ihr =>
    rw [placed, List.mem_cons, List.mem_append, Prod.mk.injEq] at h
    rcases h with ⟨rfl, rfl⟩ | h | h
    · exact hself _
    · obtain ⟨before, after, hleaves, hplace⟩ := ihl h hself
      exact ⟨before, after ++ r.leaves, by simp [leaves, hleaves], hplace⟩
    · obtain ⟨before, after, hleaves, hplace⟩ := ihr h fun n ↦ ⟨[], [], by simp, rfl⟩
      refine ⟨l.leaves ++ before, after, by simp [leaves, hleaves], ?_⟩
      rw [List.length_append, hplace, Nat.add_assoc]

theorem mem_declarations_iff {k place : Nat} :
    (place, value) ∈ n.declarations p k ↔ (place, declaration p value) ∈ n.placed k := by
  rw [declarations, List.mem_filterMap]
  constructor
  · rintro ⟨x, hmem, hx⟩
    obtain ⟨value', hvalue, heq⟩ := Option.map_eq_some_iff.mp hx
    obtain ⟨rfl, rfl⟩ := Prod.mk.inj heq
    exact ownPolicy?_eq_some_iff.mp hvalue ▸ hmem
  · intro hmem
    exact ⟨_, hmem, Option.map_eq_some_iff.mpr ⟨value, ownPolicy?_eq_some_iff.mpr rfl, rfl⟩⟩

theorem leaves_of_mem_declarations {k place : Nat} (h : (place, value) ∈ n.declarations p k) :
    ∃ before after, n.leaves = before ++ (p.name :: value :: after) ∧ place = k + before.length :=
  leaves_of_mem_placed (mem_declarations_iff.mp h)

/-- A node carries what the first of the declarations says. -/
theorem policy?_eq_head? (p : Policy) (k : Nat) (n : Node) :
    n.policy? p = (n.declarations p k).head?.map Prod.snd := by
  rw [policy?_eq_findSome?, ← map_snd_placed k, List.findSome?_map, declarations,
    List.head?_filterMap, List.map_findSome?]
  refine congrArg (List.findSome? · (n.placed k)) (funext fun x ↦ ?_)
  rw [Function.comp, Function.comp, Option.map_map]
  exact Option.map_id'.symm

/-! ### Places grow -/

theorem declarations_not (k : Nat) (x : Node) :
    (not x).declarations p k = x.declarations p k := rfl

theorem declarations_of_children {k : Nat} {n l r : Node} (hown : n.ownPolicy? p = none)
    (hplaced : n.placed k = (k, n) :: (l.placed k ++ r.placed (k + l.leaves.length))) :
    n.declarations p k
      = l.declarations p k ++ r.declarations p (k + l.leaves.length) := by
  rw [declarations, hplaced, List.filterMap_cons, hown, List.filterMap_append]
  rfl

theorem declarations_declaration (p : Policy) (k : Nat) (value : Text) :
    (declaration p value).declarations p k = [(k, value)] := by
  have hown : (declaration p value).ownPolicy? p = some value := ownPolicy?_eq_some_iff.mpr rfl
  rw [declarations, declaration, placed, ← declaration, List.filterMap_cons, hown]
  rfl

/-- Declarations stand one behind another, with two literals each. -/
theorem declarations_pairwise (p : Policy) (k : Nat) (n : Node) :
    (n.declarations p k).Pairwise fun a b ↦ a.1 + 2 ≤ b.1 := by
  have happend : ∀ {k : Nat} {l r : Node},
      (l.declarations p k).Pairwise (fun a b ↦ a.1 + 2 ≤ b.1) →
      (r.declarations p (k + l.leaves.length)).Pairwise (fun a b ↦ a.1 + 2 ≤ b.1) →
      (l.declarations p k ++ r.declarations p (k + l.leaves.length)).Pairwise
        fun a b ↦ a.1 + 2 ≤ b.1 := by
    intro k l r hl hr
    refine List.pairwise_append.mpr ⟨hl, hr, fun a ha b hb ↦ ?_⟩
    -- The literals of `a` are among those of the left part, and `b` comes behind all of them.
    obtain ⟨before, after, hleaves, hplace⟩ := leaves_of_mem_declarations ha
    obtain ⟨before', after', hleaves', hplace'⟩ := leaves_of_mem_declarations hb
    have hlength := congrArg List.length hleaves
    rw [List.length_append, List.length_cons, List.length_cons] at hlength
    omega
  induction n generalizing k with
  | literal text => exact List.Pairwise.nil
  | not x ih =>
    rw [declarations_not]
    exact ih k
  | connective op l r ihl ihr =>
    rw [declarations_of_children rfl rfl]
    exact happend (ihl k) (ihr _)
  | comparison op l r ihl ihr =>
    cases hown : (comparison op l r).ownPolicy? p with
    | some value =>
      rw [ownPolicy?_eq_some_iff.mp hown, declarations_declaration]
      exact List.pairwise_singleton _ _
    | none =>
      rw [declarations_of_children hown rfl]
      exact happend (ihl k) (ihr _)

theorem policy?_eq_some_iff_placed (k : Nat) : n.policy? p = some value ↔
    ∃ place, (place, declaration p value) ∈ n.placed k ∧ ∀ place' other,
      (place', declaration p other) ∈ n.placed k → place' = place ∨ place + 2 ≤ place' := by
  have hgrow := declarations_pairwise p k n
  simp only [policy?_eq_head? p k, ← mem_declarations_iff]
  cases hfound : n.declarations p k with
  | nil => simp
  | cons first rest =>
    obtain ⟨place, other⟩ := first
    rw [hfound] at hgrow
    have hlater := (List.pairwise_cons.mp hgrow).1
    rw [List.head?_cons, Option.map_some, Option.some_inj]
    constructor
    · rintro rfl
      refine ⟨place, List.mem_cons_self, fun place' other' hmem ↦ ?_⟩
      rcases List.mem_cons.mp hmem with heq | hrest
      · exact Or.inl (Prod.mk.inj heq).1
      · exact Or.inr (hlater _ hrest)
    · rintro ⟨place', hmem, hfirst⟩
      rcases List.mem_cons.mp hmem with heq | hrest
      · exact (Prod.mk.inj heq).2.symm
      · -- A declaration behind the first one cannot stand before it.
        have hbehind := hlater _ hrest
        have hbefore := hfirst place other List.mem_cons_self
        omega

end Node

/-! ## In a text -/

/-- The literals of any compiled constraint are those of its text, up to the one that stands for a
text of blanks. -/
theorem leaves_of_compile {text : Text} {e : Expression} (h : compile text = .ok e) :
    e.root.leaves = tokens (lexemes text) ∨ e = ⟨.literal (.ofBool true), false⟩ := by
  by_cases hblank : text.trimBlanks = []
  · rw [compile, Compilation.ofText, if_pos (by rw [hblank]; rfl)] at h
    cases h
    exact Or.inr rfl
  · exact Or.inl (faithful_of_compile hblank h).1

/-- **Policies.** A node carries the first policy declared below it, and none if there is no
declaration. In a compiled constraint the first one is also the first in the text: each declaration
is the two literals of the text at its place, and what a node carries is declared at a place before
those of all other declarations below it. -/
theorem policy_leftmost (p : Policy) :
    (∀ n : Node,
      (∀ value, n.policy? p = some value ↔ ∃ before after,
        n.preorder = before ++ Node.declaration p value :: after ∧
          ∀ x ∈ before, ∀ other, x ≠ Node.declaration p other) ∧
      (n.policy? p = none ↔ ∀ value, Node.declaration p value ∉ n.preorder)) ∧
    ∀ text e, compile text = .ok e → ∀ k n, (k, n) ∈ e.root.placed 0 → ∀ value,
      (∀ place, (place, Node.declaration p value) ∈ n.placed k →
        ∃ after, (tokens (lexemes text)).drop place = p.name :: value :: after) ∧
      (n.policy? p = some value ↔ ∃ place, (place, Node.declaration p value) ∈ n.placed k ∧
        ∀ place' other, (place', Node.declaration p other) ∈ n.placed k →
          place' = place ∨ place + 2 ≤ place') := by
  refine ⟨fun n ↦ ⟨fun value ↦ Node.policy?_eq_some_iff, Node.policy?_eq_none_iff⟩,
    fun text e h k n hn value ↦ ⟨fun place hplace ↦ ?_, Node.policy?_eq_some_iff_placed k⟩⟩
  obtain ⟨before, after, hroot, rfl⟩ := Node.leaves_of_mem_placed hn
  obtain ⟨before', after', hleaves, rfl⟩ := Node.leaves_of_mem_placed hplace
  have hliterals : e.root.leaves
      = (before ++ before') ++ (p.name :: value :: (after' ++ after)) := by
    simp [hroot, hleaves, Node.declaration, Node.leaves]
  rcases leaves_of_compile h with hcompile | rfl
  · refine ⟨after' ++ after, ?_⟩
    rw [← hcompile, hliterals, Nat.zero_add, ← List.length_append, List.drop_left]
  · -- The text of blanks has one literal, and a declaration takes two.
    have hlength := congrArg List.length hliterals
    simp only [Node.leaves, List.length_append, List.length_cons, List.length_nil] at hlength
    omega

theorem policy_leftmost_negated :
    compile "!(FDPolicy(a)~) || FDPolicy ~ b".toList
      = .ok ⟨.connective .or (.not (.declaration .faultDomain ['a']))
        (.declaration .faultDomain ['b']), false⟩ ∧
    Node.policy? .faultDomain (.connective .or (.not (.declaration .faultDomain ['a']))
      (.declaration .faultDomain ['b'])) = some ['a'] ∧
    ∃ after, (tokens (lexemes "!(FDPolicy(a)~) || FDPolicy ~ b".toList)).drop 0
      = Policy.faultDomain.name :: ['a'] :: after := by
  have hname : Policy.faultDomain.name = "FDPolicy".toList := rfl
  have hcompile : compile "!(FDPolicy(a)~) || FDPolicy ~ b".toList
      = .ok ⟨.connective .or (.not (.declaration .faultDomain ['a']))
        (.declaration .faultDomain ['b']), false⟩ := by
    rw [Node.declaration, Node.declaration, hname]
    decide +kernel
  have hplaced : (0, Node.declaration .faultDomain ['a']) ∈ Node.placed 0 (.connective .or
      (.not (.declaration .faultDomain ['a'])) (.declaration .faultDomain ['b'])) := by
    simp [Node.placed, Node.declaration]
  have hlaw := (policy_leftmost .faultDomain).2 _ _ hcompile 0 _ List.mem_cons_self ['a']
  refine ⟨hcompile, hlaw.2.mpr ⟨0, hplaced, fun place' other hmem ↦ ?_⟩, hlaw.1 0 hplaced⟩
  have hplaces : place' = 0 ∧ other = ['a'] ∨ place' = 2 ∧ other = ['b'] := by
    simpa [Node.placed, Node.declaration, Node.leaves] using hmem
  rcases hplaces with ⟨rfl, -⟩ | ⟨rfl, -⟩
  · exact Or.inl rfl
  · exact Or.inr le_rfl

end Placement
