import Placement.Proofs.Machine

/-!
# What a compilation conserves

Whatever is taken in is still there: in the operands, or among the pending operators. Three counts
hold in every state that is reached, whether the text is accepted in the end or not: operands
against literals and operators (`Reached.length_operands`), parentheses (`Reached.balanced`), and
the flag for the primary replica (`Reached.forPrimary_eq`).

## The debt of a negation

That no literal is lost is not true of every state. The reduction of `!` drops whatever lies below
its operand, and on a text that is rejected later this can be a real operand. But then the
placeholder of that `!` is left over for good: it is never reduced away, since only a `!` takes a
placeholder and each takes one. So the placeholders never fall behind the pending negations, and as
long as the two numbers agree nothing was dropped (`Reached.faithful`). An accepted text ends with
neither, hence agrees all along.
-/

namespace Placement

/-! ## What a tree holds -/

theorem Operator.isPrimaryVariant_iff {op : Operator} : op.isPrimaryVariant = true ↔
    op = .comparison .primaryUnder ∨ op = .comparison .primaryNotUnder := by
  cases op with
  | comparison c => cases c <;> decide
  | connective c => simp [isPrimaryVariant]
  | openParen | closeParen | not => decide

namespace Node

/-- The literals of a tree, from left to right. -/
def leaves : Node → List Text
  | literal text => [text]
  | not x => x.leaves
  | connective _ l r | comparison _ l r => l.leaves ++ r.leaves

/-- The operators of a tree, each node before its children. -/
def operators (n : Node) : List Operator := n.preorder.filterMap operator?

/-- Whether a comparison for the primary replica occurs in a tree. -/
def mentionsPrimary (n : Node) : Bool := n.operators.any Operator.isPrimaryVariant

@[simp] theorem operators_literal (text : Text) : (literal text).operators = [] := rfl

@[simp] theorem operators_not (x : Node) : (not x).operators = .not :: x.operators := rfl

@[simp] theorem operators_connective (op : Connective) (l r : Node) :
    (connective op l r).operators = .connective op :: (l.operators ++ r.operators) := by
  simp [operators, preorder, operator?]

@[simp] theorem operators_comparison (op : Comparison) (l r : Node) :
    (comparison op l r).operators = .comparison op :: (l.operators ++ r.operators) := by
  simp [operators, preorder, operator?]

theorem mentionsPrimary_iff {n : Node} : n.mentionsPrimary = true ↔
    ∃ x ∈ n.preorder, x.operator? = some (.comparison .primaryUnder) ∨
      x.operator? = some (.comparison .primaryNotUnder) := by
  rw [mentionsPrimary, operators, List.any_filterMap, List.any_eq_true]
  refine exists_congr fun x ↦ and_congr_right fun _ ↦ ?_
  cases x.operator? with
  | none => simp
  | some op => simp [Operator.isPrimaryVariant_iff]

theorem leaves_of_binary {op : Operator} {l r n : Node} (h : binary op l r = some n) :
    n.leaves = l.leaves ++ r.leaves := by
  cases op <;> cases h <;> rfl

theorem operators_of_binary {op : Operator} {l r n : Node} (h : binary op l r = some n) :
    n.operators = op :: (l.operators ++ r.operators) := by
  cases op <;> cases h <;> simp

theorem isBinary_of_binary {op : Operator} {l r n : Node} (h : binary op l r = some n) :
    op.isBinary = true := by
  cases op <;> cases h <;> rfl

theorem exists_binary {op : Operator} (hop : op.isBinary = true) (l r : Node) :
    ∃ n, binary op l r = some n := by
  cases op with
  | connective c => exact ⟨.connective c l r, rfl⟩
  | comparison c => exact ⟨.comparison c l r, rfl⟩
  | openParen | closeParen | not => cases hop

end Node

namespace Operand

/-- The literals below an operand; a placeholder has none. -/
def leaves : Operand → List Text
  | placeholder => []
  | node n => n.leaves

/-- The operators below an operand. -/
def operators : Operand → List Operator
  | placeholder => []
  | node n => n.operators

theorem count_placeholder_node_cons (n : Node) (operands : List Operand) :
    (node n :: operands).count .placeholder = operands.count .placeholder :=
  List.count_cons_of_ne (by nofun)

end Operand

theorem Operator.category_ne_paren_of_isBinary {op : Operator} (h : op.isBinary = true) :
    op.category ≠ .paren := by
  cases op <;> simp_all [isBinary, category]

namespace Lexeme

def token? : Lexeme → Option Text
  | literal token => some token
  | operator _ => none

/-- The operator that is not a parenthesis. -/
def operator? : Lexeme → Option Operator
  | literal _ => none
  | operator op => if op.category = .paren then none else some op

/-- Whether this is an operator with two operands. -/
def isBinary : Lexeme → Bool
  | literal _ => false
  | operator op => op.isBinary

def isPrimaryVariant : Lexeme → Bool
  | literal _ => false
  | operator op => op.isPrimaryVariant

end Lexeme

/-- The literals of a sequence, in order. -/
def tokens (ls : List Lexeme) : List Text := ls.filterMap Lexeme.token?

theorem allTokens_iff {ls : List Lexeme} : AllTokens ls ↔ ∀ t ∈ tokens ls, IsToken t := by
  have hmem : ∀ t, t ∈ tokens ls ↔ Lexeme.literal t ∈ ls := by
    intro t
    rw [tokens, List.mem_filterMap]
    constructor
    · rintro ⟨l, hl, hlt⟩
      cases l with
      | literal token => exact Option.some_inj.mp hlt ▸ hl
      | operator op => cases hlt
    · exact fun ht ↦ ⟨_, ht, rfl⟩
  simp only [hmem, AllTokens]

/-- The operators of a sequence that are no parentheses, in order. -/
def operatorsOf (ls : List Lexeme) : List Operator := ls.filterMap Lexeme.operator?

namespace Machine

/-- The pending operators that wait for their reduction; parentheses do not. -/
def waiting (m : Machine) : List Operator := m.pending.filter (·.category != .paren)

def depth (m : Machine) : Nat := m.pending.countP (·.category == .paren)

end Machine

/-! ## Counts -/

namespace Reached

variable {ls : List Lexeme} {m : Machine}

/-- A reduction leaves one operand less, and takes the top of the pending operators, which is no
parenthesis. -/
private theorem shape_of_reduce {m m' : Machine} {op : Operator} {below : List Operator}
    (hpending : m.pending = op :: below) (hreduce : m.reduce 0 op = .ok m') :
    m'.pending = below ∧ op.category ≠ .paren ∧ m'.operands.length + 1 = m.operands.length ∧
      m'.forPrimary = m.forPrimary := by
  obtain ⟨hparen, n, rest, hbuild, rfl⟩ := Machine.reduce_eq_ok_iff.mp hreduce
  obtain ⟨right, left, hoperands, -⟩ := build_eq_ok_iff.mp hbuild
  refine ⟨by rw [hpending]; rfl, hparen, ?_, rfl⟩
  rw [hoperands]
  rfl

/-- Operands and binary operators on the one side, literals and operators that wait on the other. -/
theorem length_operands (h : Reached ls m) :
    m.operands.length + ls.countP Lexeme.isBinary = (tokens ls).length + m.waiting.length := by
  rw [tokens, Machine.waiting, ← List.countP_eq_length_filter]
  induction h with
  | start => rfl
  | literal h token ih =>
    simp [Lexeme.isBinary, Lexeme.token?]
    omega
  | openParen h ih =>
    simpa [Lexeme.isBinary, Lexeme.token?, Operator.isBinary, List.filterMap_cons,
      Operator.category] using ih
  | closeParen h hpending hop ih =>
    rw [hpending, List.countP_cons_of_neg (by simp [hop])] at ih
    simpa [Lexeme.isBinary, Lexeme.token?, Operator.isBinary, List.filterMap_cons] using ih
  | not h ih =>
    rw [List.countP_cons_of_pos rfl]
    simp [Lexeme.isBinary, Lexeme.token?, Operator.isBinary, List.filterMap_cons]
    omega
  | binary h hop hlevel ih =>
    rw [List.countP_cons_of_pos (by simpa using Operator.category_ne_paren_of_isBinary hop)]
    simp [Lexeme.isBinary, Lexeme.token?, hop, List.filterMap_cons]
    omega
  | reduce h hpending hreduce ih =>
    obtain ⟨hbelow, hparen, hlength, -⟩ := shape_of_reduce hpending hreduce
    rw [hpending, List.countP_cons_of_pos (by simp [hparen])] at ih
    rw [hbelow]
    omega

/-- What closes the parentheses that are open closes those of the whole sequence. -/
theorem balanced (h : Reached ls m) :
    ∀ rest, Balanced m.depth rest → Balanced 0 (ls ++ rest) := by
  simp only [Machine.depth]
  induction h with
  | start => exact fun rest hrest ↦ hrest
  | literal h token ih =>
    intro rest hrest
    rw [List.append_assoc]
    exact ih _ hrest
  | openParen h ih =>
    intro rest hrest
    rw [List.countP_cons_of_pos rfl] at hrest
    rw [List.append_assoc]
    exact ih _ hrest
  | closeParen h hpending hop ih =>
    intro rest hrest
    rw [List.append_assoc]
    refine ih _ ⟨_, ?_, hrest⟩
    rw [hpending, List.countP_cons_of_pos (by simp [hop])]
  | not h ih =>
    intro rest hrest
    rw [List.countP_cons_of_neg (by simp [Operator.category])] at hrest
    rw [List.append_assoc]
    exact ih _ hrest
  | binary h hop hlevel ih =>
    intro rest hrest
    have hparen := Operator.category_ne_paren_of_isBinary hop
    rw [List.countP_cons_of_neg (by simpa using hparen)] at hrest
    rw [List.append_assoc]
    exact ih _ ((balanced_binary hop _ _).mpr hrest)
  | reduce h hpending hreduce ih =>
    intro rest hrest
    obtain ⟨hbelow, hparen, -⟩ := shape_of_reduce hpending hreduce
    refine ih rest ?_
    rwa [hpending, List.countP_cons_of_neg (by simpa using hparen), ← hbelow]

theorem forPrimary_eq (h : Reached ls m) : m.forPrimary = ls.any Lexeme.isPrimaryVariant := by
  induction h with
  | start => rfl
  | reduce h hpending hreduce ih => rw [(shape_of_reduce hpending hreduce).2.2.2, ih]
  | literal h token ih => simpa [Lexeme.isPrimaryVariant] using ih
  | openParen h ih | not h ih => simpa [Lexeme.isPrimaryVariant, Operator.isPrimaryVariant] using ih
  | closeParen h hpending hop ih =>
    simpa [Lexeme.isPrimaryVariant, Operator.isPrimaryVariant] using ih
  | binary h hop hlevel ih => simp [Lexeme.isPrimaryVariant, ih]

end Reached

/-! ## Nothing is lost -/

/-- The operands hold the literals read so far, in order, and together with the operators that wait
the operators read so far. -/
structure Faithful (ls : List Lexeme) (m : Machine) : Prop where
  leaves : m.operands.reverse.flatMap Operand.leaves = tokens ls
  operators : (m.operands.flatMap Operand.operators ++ m.waiting).Perm (operatorsOf ls)

namespace Faithful

variable {ls : List Lexeme} {m : Machine}

theorem literal (h : Faithful ls m) (token : Text) : Faithful (ls ++ [.literal token])
    { m with operands := .node (.literal token) :: m.operands } where
  leaves := by
    simpa [tokens, Lexeme.token?, Operand.leaves, Node.leaves] using h.leaves
  operators := by
    simpa [operatorsOf, Lexeme.operator?, Operand.operators, Machine.waiting,
      List.filterMap_cons] using h.operators

/-- Neither a parenthesis among the lexemes nor one among the pending operators counts. -/
theorem paren (h : Faithful ls m) {op : Operator} (hop : op.category = .paren)
    {pending : List Operator}
    (hpending : pending.filter (·.category != .paren) = m.waiting) :
    Faithful (ls ++ [.operator op]) { m with pending } where
  leaves := by
    simpa [tokens, Lexeme.token?, List.filterMap_cons] using h.leaves
  operators := by
    simpa [operatorsOf, Lexeme.operator?, hop, List.filterMap_cons, Machine.waiting, hpending]
      using h.operators

private theorem operators_pending (h : Faithful ls m) (op : Operator)
    (hop : op.category ≠ .paren) :
    (m.operands.flatMap Operand.operators
        ++ (op :: m.pending).filter (·.category != .paren)).Perm
      (operatorsOf (ls ++ [.operator op])) := by
  have hwait : (op :: m.pending).filter (·.category != .paren) = op :: m.waiting :=
    List.filter_cons_of_pos (by simpa using hop)
  have hread : operatorsOf (ls ++ [.operator op]) = operatorsOf ls ++ [op] := by
    simp [operatorsOf, Lexeme.operator?, hop]
  rw [hwait, hread]
  exact List.perm_middle.trans ((h.operators.cons op).trans (List.perm_append_singleton op _).symm)

theorem not (h : Faithful ls m) : Faithful (ls ++ [.operator .not])
    { m with pending := .not :: m.pending, operands := .placeholder :: m.operands } where
  leaves := by
    simpa [tokens, Lexeme.token?, Operand.leaves, List.filterMap_cons] using h.leaves
  operators := by
    simpa [Operand.operators, Machine.waiting] using h.operators_pending .not nofun

theorem binary (h : Faithful ls m) {op : Operator} (hop : op.isBinary = true)
    (forPrimary : Bool) :
    Faithful (ls ++ [.operator op]) { m with pending := op :: m.pending, forPrimary } where
  leaves := by
    simpa [tokens, Lexeme.token?, List.filterMap_cons] using h.leaves
  operators := h.operators_pending op (Operator.category_ne_paren_of_isBinary hop)

/-- A reduction loses nothing, if what lies below the operand of a `!` is a placeholder. -/
theorem reduce (h : Faithful ls m) {m' : Machine} {op : Operator} {below : List Operator}
    (hpending : m.pending = op :: below) (hreduce : m.reduce 0 op = .ok m')
    (hleft : op = .not → ∀ right left rest, m.operands = right :: left :: rest →
      left = .placeholder) : Faithful ls m' := by
  obtain ⟨hparen, n, rest, hbuild, rfl⟩ := Machine.reduce_eq_ok_iff.mp hreduce
  obtain ⟨right, left, hoperands, hbuilt⟩ := build_eq_ok_iff.mp hbuild
  have hparts : n.leaves = left.leaves ++ right.leaves ∧
      n.operators.Perm (op :: (left.operators ++ right.operators)) := by
    rcases hbuilt with ⟨rfl, rfl⟩ | ⟨l, rfl, hbinary⟩
    · rw [hleft rfl _ _ _ hoperands]
      exact ⟨rfl, List.Perm.refl _⟩
    · exact ⟨Node.leaves_of_binary hbinary, by rw [Node.operators_of_binary hbinary]; rfl⟩
  have hleaves := h.leaves
  have hoperators := h.operators
  rw [Machine.waiting, hpending, List.filter_cons_of_pos (by simpa using hparen)] at hoperators
  rw [hoperands] at hleaves hoperators
  refine ⟨?_, ?_⟩
  · simpa [Operand.leaves, hparts.1] using hleaves
  · refine List.Perm.trans ?_ hoperators
    have hperm := hparts.2
    rw [List.perm_iff_count] at hperm ⊢
    intro a
    have ha := hperm a
    simp only [Machine.waiting, hpending, List.tail_cons, List.flatMap_cons, List.count_append,
      List.count_cons, Operand.operators] at ha ⊢
    omega

end Faithful

namespace Reached

variable {ls : List Lexeme} {m : Machine}

/-- **The debt of a negation.** There are at least as many placeholders as pending negations, and
while there are no more nothing was lost. -/
theorem faithful (h : Reached ls m) :
    m.pending.count .not ≤ m.operands.count .placeholder ∧
      (m.pending.count .not = m.operands.count .placeholder → Faithful ls m) := by
  induction h with
  | start => exact ⟨le_rfl, fun _ ↦ ⟨rfl, List.Perm.nil⟩⟩
  | literal h token ih =>
    simp only [List.count_cons]
    exact ⟨by simpa using ih.1, fun heq ↦ (ih.2 (by simpa using heq)).literal token⟩
  | openParen h ih =>
    simp only [List.count_cons]
    exact ⟨by simpa using ih.1, fun heq ↦ (ih.2 (by simpa using heq)).paren rfl rfl⟩
  | @closeParen ls m h op below hpending hop ih =>
    have hcount : m.pending.count .not = below.count .not := by
      rw [hpending, List.count_cons_of_ne]
      rintro rfl
      cases hop
    have hwaiting : below.filter (·.category != .paren) = m.waiting := by
      rw [Machine.waiting, hpending, List.filter_cons_of_neg (by simp [hop])]
    rw [hcount] at ih
    exact ⟨ih.1, fun heq ↦ (ih.2 heq).paren rfl hwaiting⟩
  | not h ih =>
    simp only [List.count_cons_self]
    exact ⟨Nat.succ_le_succ ih.1, fun heq ↦ (ih.2 (Nat.succ.inj heq)).not⟩
  | @binary ls m h op hop hlevel ih =>
    have hcount : (op :: m.pending).count .not = m.pending.count .not := by
      rw [List.count_cons_of_ne]
      rintro rfl
      cases hop
    simp only [hcount]
    exact ⟨ih.1, fun heq ↦ (ih.2 heq).binary hop _⟩
  | @reduce ls m m' h op below hpending hreduce ih =>
    obtain ⟨hparen, n, rest, hbuild, rfl⟩ := Machine.reduce_eq_ok_iff.mp hreduce
    obtain ⟨right, left, hoperands, hbuilt⟩ := build_eq_ok_iff.mp hbuild
    have htail : m.pending.tail = below := by rw [hpending, List.tail_cons]
    rw [htail] at hreduce ⊢
    rw [hoperands, Operand.count_placeholder_node_cons, hpending] at ih
    simp only [Operand.count_placeholder_node_cons]
    rcases hbuilt with ⟨rfl, -⟩ | ⟨l, rfl, hbinary⟩
    · rw [List.count_cons_self] at ih
      cases left with
      | placeholder =>
        rw [List.count_cons_self] at ih
        refine ⟨Nat.le_of_succ_le_succ ih.1, fun heq ↦ ?_⟩
        refine (ih.2 (congrArg Nat.succ heq)).reduce hpending hreduce fun _ r l rest' hr ↦ ?_
        rw [hoperands] at hr
        exact (List.cons.inj (List.cons.inj hr).2).1.symm
      | node l =>
        -- A real operand is lost, and one placeholder more than negations is left for good.
        rw [Operand.count_placeholder_node_cons] at ih
        exact ⟨by omega, fun heq ↦ absurd heq (by omega)⟩
    · have hnot : op ≠ .not := by
        rintro rfl
        cases hbinary
      rw [List.count_cons_of_ne hnot, Operand.count_placeholder_node_cons] at ih
      exact ⟨ih.1, fun heq ↦ (ih.2 heq).reduce hpending hreduce fun h ↦ absurd h hnot⟩

end Reached

/-! ## Parentheses

`Balanced` walks through a sequence with a depth in hand. Counted from outside: no part from the
beginning on closes more than it opens, and the whole closes all. -/

/-- What is still open behind a part of a balanced sequence is what was opened and not closed. -/
theorem Balanced.of_append {before after : List Lexeme} : ∀ {depth : Nat},
    Balanced depth (before ++ after) → ∃ inner, Balanced inner after ∧
      depth + before.count (.operator .openParen)
        = inner + before.count (.operator .closeParen) := by
  induction before with
  | nil => exact fun h ↦ ⟨_, h, rfl⟩
  | cons l before ih =>
    intro depth h
    cases l with
    | literal token =>
      have hbefore : Balanced depth (before ++ after) := h
      obtain ⟨inner, hinner, hcount⟩ := ih hbefore
      exact ⟨inner, hinner, by simpa using hcount⟩
    | operator op =>
      cases op with
      | openParen =>
        have hbefore : Balanced (depth + 1) (before ++ after) := h
        obtain ⟨inner, hinner, hcount⟩ := ih hbefore
        refine ⟨inner, hinner, ?_⟩
        rw [List.count_cons_self, List.count_cons_of_ne (by decide)]
        omega
      | closeParen =>
        obtain ⟨outer, rfl, hbefore⟩ := h
        obtain ⟨inner, hinner, hcount⟩ := ih hbefore
        refine ⟨inner, hinner, ?_⟩
        rw [List.count_cons_self, List.count_cons_of_ne (by decide)]
        omega
      | not | connective c | comparison c =>
        have hbefore : Balanced depth (before ++ after) := h
        obtain ⟨inner, hinner, hcount⟩ := ih hbefore
        exact ⟨inner, hinner, by simpa using hcount⟩

theorem Balanced.count_le {before ls : List Lexeme} (h : Balanced 0 ls) (hbefore : before <+: ls) :
    before.count (.operator .closeParen) ≤ before.count (.operator .openParen) := by
  obtain ⟨after, rfl⟩ := hbefore
  obtain ⟨inner, -, hcount⟩ := h.of_append
  omega

theorem Balanced.count_eq {ls : List Lexeme} (h : Balanced 0 ls) :
    ls.count (.operator .openParen) = ls.count (.operator .closeParen) := by
  rw [← List.append_nil ls] at h
  obtain ⟨inner, hinner, hcount⟩ := h.of_append
  rw [Balanced] at hinner
  omega

/-! ## Compiled constraints

At the end nothing is pending and the tree is the only operand, so the conservation laws speak of
the tree and the lexemes alone. -/

section Compiled

variable {text : Text} {e : Expression}

/-- The literals of the tree are those of the text, in order, and its operators those of the text
in some order. -/
theorem faithful_of_compile (hblank : text.trimBlanks ≠ []) (h : compile text = .ok e) :
    e.root.leaves = tokens (lexemes text) ∧
      e.root.operators.Perm (operatorsOf (lexemes text)) := by
  obtain ⟨m, hreached, hpending, hoperands, -⟩ := exists_reached_of_compile hblank h
  have hfaithful := hreached.faithful.2 (by rw [hpending, hoperands]; rfl)
  obtain ⟨hleaves, hoperators⟩ := hfaithful
  rw [hoperands] at hleaves hoperators
  rw [Machine.waiting, hpending] at hoperators
  exact ⟨by simpa [Operand.leaves] using hleaves, by simpa [Operand.operators] using hoperators⟩

theorem length_tokens_of_compile (hblank : text.trimBlanks ≠ []) (h : compile text = .ok e) :
    (tokens (lexemes text)).length = (lexemes text).countP Lexeme.isBinary + 1 := by
  obtain ⟨m, hreached, hpending, hoperands, -⟩ := exists_reached_of_compile hblank h
  have hlength := hreached.length_operands
  rw [Machine.waiting, hpending, hoperands] at hlength
  simp only [List.filter_nil, List.length_nil, List.length_singleton] at hlength
  omega

theorem balanced_of_compile (hblank : text.trimBlanks ≠ []) (h : compile text = .ok e) :
    Balanced 0 (lexemes text) := by
  obtain ⟨m, hreached, hpending, -⟩ := exists_reached_of_compile hblank h
  have hbalanced := hreached.balanced [] (by rw [Machine.depth, hpending]; rfl)
  rwa [List.append_nil] at hbalanced

private theorem any_operatorsOf (ls : List Lexeme) :
    (operatorsOf ls).any Operator.isPrimaryVariant = ls.any Lexeme.isPrimaryVariant := by
  rw [operatorsOf, List.any_filterMap]
  congr 1
  funext l
  cases l with
  | literal token => rfl
  | operator op => cases op <;> rfl

theorem forPrimary_of_compile (h : compile text = .ok e) :
    e.forPrimary = e.root.mentionsPrimary := by
  by_cases hblank : text.trimBlanks = []
  · rw [compile, Compilation.ofText, if_pos (by rw [hblank]; rfl)] at h
    cases h
    rfl
  · obtain ⟨m, hreached, -, -, hflag⟩ := exists_reached_of_compile hblank h
    rw [← hflag, hreached.forPrimary_eq, Node.mentionsPrimary,
      (faithful_of_compile hblank h).2.any_eq, any_operatorsOf]

theorem isToken_of_compile (h : compile text = .ok e) : ∀ t ∈ e.root.leaves, IsToken t := by
  intro t ht
  by_cases hblank : text.trimBlanks = []
  · rw [compile, Compilation.ofText, if_pos (by rw [hblank]; rfl)] at h
    cases h
    rw [Node.leaves, List.mem_singleton] at ht
    subst ht
    decide
  · rw [(faithful_of_compile hblank h).1] at ht
    exact allTokens_iff.mp (allTokens_lexemes text) t ht

/-- **Conservation.** A constraint is made of what was read: its literals are the literals of the
text, in order, and its operators those of the text that are no parentheses. The parentheses match,
there is one literal more than operators with two operands, and the flag tells of `^P` and `!^P`. -/
theorem compile_conserves (hblank : text.trimBlanks ≠ []) (h : compile text = .ok e) :
    e.root.leaves = tokens (lexemes text) ∧
      e.root.operators.Perm (operatorsOf (lexemes text)) ∧
      (∀ before, before <+: lexemes text →
        before.count (.operator .closeParen) ≤ before.count (.operator .openParen)) ∧
      (lexemes text).count (.operator .openParen) = (lexemes text).count (.operator .closeParen) ∧
      (tokens (lexemes text)).length = (lexemes text).countP Lexeme.isBinary + 1 ∧
      (e.forPrimary = true ↔ ∃ n ∈ e.root.preorder,
        n.operator? = some (.comparison .primaryUnder) ∨
          n.operator? = some (.comparison .primaryNotUnder)) := by
  obtain ⟨hleaves, hoperators⟩ := faithful_of_compile hblank h
  have hbalanced := balanced_of_compile hblank h
  refine ⟨hleaves, hoperators, fun before hbefore ↦ hbalanced.count_le hbefore,
    hbalanced.count_eq, length_tokens_of_compile hblank h, ?_⟩
  rw [forPrimary_of_compile h]
  exact Node.mentionsPrimary_iff

theorem compile_conserves_juxtaposed : Text.trimBlanks "!(a)&&(b(c)!^P)".toList ≠ [] ∧
    compile "!(a)&&(b(c)!^P)".toList = .ok ⟨.connective .and (.not (.literal ['a']))
      (.comparison .primaryNotUnder (.literal ['b']) (.literal ['c'])), true⟩ ∧
    [['a'], ['b'], ['c']] = tokens (lexemes "!(a)&&(b(c)!^P)".toList) ∧
    [.connective .and, .not, .comparison .primaryNotUnder].Perm
      (operatorsOf (lexemes "!(a)&&(b(c)!^P)".toList)) := by
  have hblank : Text.trimBlanks "!(a)&&(b(c)!^P)".toList ≠ [] := by decide
  have hcompile : compile "!(a)&&(b(c)!^P)".toList = .ok ⟨.connective .and (.not (.literal ['a']))
      (.comparison .primaryNotUnder (.literal ['b']) (.literal ['c'])), true⟩ := by decide +kernel
  obtain ⟨hleaves, hoperators, -⟩ := compile_conserves hblank hcompile
  exact ⟨hblank, hcompile, hleaves, hoperators⟩

end Compiled

end Placement
