import Placement.Node
import Placement.Proofs.Lexeme

/-!
# The grammar

Five kinds of phrases, from the loosest to the tightest, with the usual layering: a disjunction is
a conjunction or extends a disjunction by `||` and a conjunction, and so on down to atoms. A
derivation is a term of `Phrase`; it fixes both the lexemes it writes and the tree it stands for,
left-associative on each level, with no node for parentheses.

## Sentences without derivations

`isSentence_iff` says which sequences have a derivation without mentioning one: those in which
operands and operators take turns and the parentheses match. Precedence does not come in, because
every such sequence can be grouped somehow; it decides only which tree the sequence stands for.
The work is in putting an operand and an operator in front of a disjunction that is derived
already, which has to reach down its left edge to the level of the operator.
-/

namespace Placement

/-- The kinds of phrases, from the loosest to the tightest. -/
inductive Rank
  | disjunction
  | conjunction
  | comparison
  | negation
  | atom
  deriving DecidableEq, Repr

/-- Derivations of the grammar. -/
inductive Phrase : Rank → Type
  | literal (token : Text) : Phrase .atom
  | group (inner : Phrase .disjunction) : Phrase .atom
  | ofAtom (p : Phrase .atom) : Phrase .negation
  | not (p : Phrase .negation) : Phrase .negation
  | ofNegation (p : Phrase .negation) : Phrase .comparison
  | compare (left : Phrase .comparison) (op : Comparison) (right : Phrase .negation) :
      Phrase .comparison
  | ofComparison (p : Phrase .comparison) : Phrase .conjunction
  | and (left : Phrase .conjunction) (right : Phrase .comparison) : Phrase .conjunction
  | ofConjunction (p : Phrase .conjunction) : Phrase .disjunction
  | or (left : Phrase .disjunction) (right : Phrase .conjunction) : Phrase .disjunction

namespace Phrase

/-- What a derivation writes. -/
def lexemes : {r : Rank} → Phrase r → List Lexeme
  | _, literal token => [.literal token]
  | _, group inner => .operator .openParen :: (inner.lexemes ++ [.operator .closeParen])
  | _, ofAtom p | _, ofNegation p | _, ofComparison p | _, ofConjunction p => p.lexemes
  | _, not p => .operator .not :: p.lexemes
  | _, compare left op right => left.lexemes ++ .operator (.comparison op) :: right.lexemes
  | _, and left right => left.lexemes ++ .operator (.connective .and) :: right.lexemes
  | _, or left right => left.lexemes ++ .operator (.connective .or) :: right.lexemes

/-- The tree that a derivation stands for. -/
def tree : {r : Rank} → Phrase r → Node
  | _, literal token => .literal token
  | _, group inner => inner.tree
  | _, ofAtom p | _, ofNegation p | _, ofComparison p | _, ofConjunction p => p.tree
  | _, not p => .not p.tree
  | _, compare left op right => .comparison op left.tree right.tree
  | _, and left right => .connective .and left.tree right.tree
  | _, or left right => .connective .or left.tree right.tree

/-- An operand as a disjunction of its own. -/
def widen (x : Phrase .negation) : Phrase .disjunction :=
  .ofConjunction (.ofComparison (.ofNegation x))

@[simp] theorem lexemes_widen (x : Phrase .negation) : x.widen.lexemes = x.lexemes := rfl

@[simp] theorem tree_widen (x : Phrase .negation) : x.widen.tree = x.tree := rfl

end Phrase

/-- A sequence of lexemes that the grammar derives. -/
def IsSentence (ls : List Lexeme) : Prop := ∃ p : Phrase .disjunction, p.lexemes = ls

/-- The parentheses match, where so many opening ones stand before the sequence. -/
def Balanced : Nat → List Lexeme → Prop
  | depth, [] => depth = 0
  | depth, .operator .openParen :: ls => Balanced (depth + 1) ls
  | depth, .operator .closeParen :: ls => ∃ outer, depth = outer + 1 ∧ Balanced outer ls
  | depth, _ :: ls => Balanced depth ls

/-- The operators with two operands. -/
def Operator.isBinary : Operator → Bool
  | connective _ | comparison _ => true
  | openParen | closeParen | not => false

theorem Lexeme.opensOperand_iff {l : Lexeme} : l.opensOperand = true ↔
    (∃ token, l = .literal token) ∨ l = .operator .openParen ∨ l = .operator .not := by
  cases l with
  | literal token => simp [opensOperand]
  | operator op => cases op <;> simp [opensOperand]

theorem Lexeme.not_opensOperand_iff {l : Lexeme} : l.opensOperand = false ↔
    l = .operator .closeParen ∨ ∃ op, l = .operator op ∧ op.isBinary = true := by
  cases l with
  | literal token => simp [opensOperand]
  | operator op => cases op <;> simp [opensOperand, Operator.isBinary]

theorem balanced_binary {op : Operator} (h : op.isBinary = true) (depth : Nat) (ls : List Lexeme) :
    Balanced depth (.operator op :: ls) ↔ Balanced depth ls := by
  cases op <;> first | rfl | cases h

/-! ## Sentences take turns and match -/

theorem Phrase.alternates_append {r : Rank} (p : Phrase r) {ls : List Lexeme}
    (h : Alternates false ls) : Alternates true (p.lexemes ++ ls) := by
  induction p generalizing ls with
  | literal token => exact ⟨rfl, h⟩
  | group inner ih =>
    rw [lexemes, List.cons_append, List.append_assoc]
    exact ⟨rfl, ih ⟨rfl, h⟩⟩
  | ofAtom p ih | ofNegation p ih | ofComparison p ih | ofConjunction p ih => exact ih h
  | not p ih => exact ⟨rfl, ih h⟩
  | compare left op right ihl ihr | and left right ihl ihr | or left right ihl ihr =>
    rw [lexemes, List.append_assoc]
    exact ihl ⟨rfl, ihr h⟩

theorem Phrase.alternates {r : Rank} (p : Phrase r) : Alternates true p.lexemes := by
  have halt : Alternates true (p.lexemes ++ []) := p.alternates_append rfl
  rwa [List.append_nil] at halt

theorem Phrase.balanced_append {r : Rank} (p : Phrase r) (depth : Nat) (ls : List Lexeme) :
    Balanced depth (p.lexemes ++ ls) ↔ Balanced depth ls := by
  induction p generalizing depth ls with
  | literal token => rfl
  | group inner ih =>
    rw [lexemes, List.cons_append, List.append_assoc, Balanced, ih, List.singleton_append, Balanced]
    simp
  | ofAtom p ih | ofNegation p ih | ofComparison p ih | ofConjunction p ih => exact ih depth ls
  | not p ih => exact ih depth ls
  | compare left op right ihl ihr | and left right ihl ihr | or left right ihl ihr =>
    rw [lexemes, List.append_assoc, ihl, List.cons_append, balanced_binary rfl, ihr]

/-! ## Putting an operand in front

`x op y` is derived whenever the operand `x` and the disjunction `y` are. One lemma a level: the
leftmost phrase of the operator's own level takes `x` in, and the looser levels pass it on. -/

namespace Phrase

private theorem exists_compare (x : Phrase .negation) (op : Comparison) :
    ∀ y : Phrase .comparison, ∃ z : Phrase .comparison,
      z.lexemes = (x.lexemes ++ [.operator (.comparison op)]) ++ y.lexemes
  | .ofNegation y => ⟨.compare (.ofNegation x) op y, by simp [lexemes]⟩
  | .compare left op' right =>
    have ⟨z, hz⟩ := exists_compare x op left
    ⟨.compare z op' right, by simp [lexemes, hz]⟩

private theorem exists_conjunction_of_comparison {before : List Lexeme}
    (h : ∀ y : Phrase .comparison, ∃ z : Phrase .comparison, z.lexemes = before ++ y.lexemes) :
    ∀ y : Phrase .conjunction, ∃ z : Phrase .conjunction, z.lexemes = before ++ y.lexemes
  | .ofComparison y =>
    have ⟨z, hz⟩ := h y
    ⟨.ofComparison z, hz⟩
  | .and left right =>
    have ⟨z, hz⟩ := exists_conjunction_of_comparison h left
    ⟨.and z right, by simp [lexemes, hz]⟩

private theorem exists_disjunction_of_conjunction {before : List Lexeme}
    (h : ∀ y : Phrase .conjunction, ∃ z : Phrase .conjunction, z.lexemes = before ++ y.lexemes) :
    ∀ y : Phrase .disjunction, ∃ z : Phrase .disjunction, z.lexemes = before ++ y.lexemes
  | .ofConjunction y =>
    have ⟨z, hz⟩ := h y
    ⟨.ofConjunction z, hz⟩
  | .or left right =>
    have ⟨z, hz⟩ := exists_disjunction_of_conjunction h left
    ⟨.or z right, by simp [lexemes, hz]⟩

private theorem exists_and (x : Phrase .negation) :
    ∀ y : Phrase .conjunction, ∃ z : Phrase .conjunction,
      z.lexemes = (x.lexemes ++ [.operator (.connective .and)]) ++ y.lexemes
  | .ofComparison y => ⟨.and (.ofComparison (.ofNegation x)) y, by simp [lexemes]⟩
  | .and left right =>
    have ⟨z, hz⟩ := exists_and x left
    ⟨.and z right, by simp [lexemes, hz]⟩

private theorem exists_or (x : Phrase .negation) :
    ∀ y : Phrase .disjunction, ∃ z : Phrase .disjunction,
      z.lexemes = (x.lexemes ++ [.operator (.connective .or)]) ++ y.lexemes
  | .ofConjunction y =>
    ⟨.or (.ofConjunction (.ofComparison (.ofNegation x))) y, by simp [lexemes]⟩
  | .or left right =>
    have ⟨z, hz⟩ := exists_or x left
    ⟨.or z right, by simp [lexemes, hz]⟩

theorem exists_prepend (x : Phrase .negation) {op : Operator} (hop : op.isBinary = true)
    (y : Phrase .disjunction) : ∃ z : Phrase .disjunction,
      z.lexemes = x.lexemes ++ .operator op :: y.lexemes := by
  have hcons : ∀ ls, x.lexemes ++ Lexeme.operator op :: ls
      = (x.lexemes ++ [.operator op]) ++ ls := fun ls ↦ by simp
  rw [hcons]
  cases op with
  | comparison c =>
    exact exists_disjunction_of_conjunction
      (exists_conjunction_of_comparison (exists_compare x c)) y
  | connective c =>
    cases c with
    | and => exact exists_disjunction_of_conjunction (exists_and x) y
    | or => exact exists_or x y
  | openParen | closeParen | not => cases hop

end Phrase

/-! ## Every such sequence is derived

By induction on the length, for a sequence with some parentheses still open: its first operand is
derived, and so is everything up to the first parenthesis that closes none of its own. The two
statements need each other, because an operand may be a group and a disjunction begins with an
operand. -/

/-- An operand in front, and what follows it. -/
private def BeginsWithOperand (depth : Nat) (ls : List Lexeme) : Prop :=
  ∃ (x : Phrase .negation) (rest : List Lexeme), ls = x.lexemes ++ rest ∧
    Alternates false rest ∧ Balanced depth rest

/-- A disjunction in front, and behind it nothing or a closing parenthesis. -/
private def BeginsWithDisjunction (depth : Nat) (ls : List Lexeme) : Prop :=
  ∃ (y : Phrase .disjunction) (rest : List Lexeme), ls = y.lexemes ++ rest ∧
    Alternates false rest ∧ Balanced depth rest ∧
    (rest = [] ∨ ∃ outer, rest = .operator .closeParen :: outer)

theorem Phrase.lexemes_ne_nil {r : Rank} (p : Phrase r) : p.lexemes ≠ [] := by
  induction p with
  | literal token => exact List.cons_ne_nil _ _
  | group inner ih => exact List.cons_ne_nil _ _
  | ofAtom p ih | ofNegation p ih | ofComparison p ih | ofConjunction p ih => exact ih
  | not p ih => exact List.cons_ne_nil _ _
  | compare left op right ihl ihr | and left right ihl ihr | or left right ihl ihr =>
    exact List.append_ne_nil_of_left_ne_nil ihl _

private theorem beginsWithOperand {depth : Nat} {ls : List Lexeme} (halt : Alternates true ls)
    (hbal : Balanced depth ls)
    (ihOperand : ∀ {depth' : Nat} {ls' : List Lexeme}, ls'.length < ls.length →
      Alternates true ls' → Balanced depth' ls' → BeginsWithOperand depth' ls')
    (ihDisjunction : ∀ {depth' : Nat} {ls' : List Lexeme}, ls'.length < ls.length →
      Alternates true ls' → Balanced depth' ls' → BeginsWithDisjunction depth' ls') :
    BeginsWithOperand depth ls := by
  cases ls with
  | nil => exact absurd halt (by simp [Alternates])
  | cons l ls =>
    obtain ⟨hopens, halt⟩ := halt
    rcases Lexeme.opensOperand_iff.mp hopens with ⟨token, rfl⟩ | rfl | rfl
    · exact ⟨.ofAtom (.literal token), ls, rfl, halt, hbal⟩
    · obtain ⟨y, rest, rfl, halt, hbal, rfl | ⟨outer, rfl⟩⟩ :=
        ihDisjunction (Nat.lt_succ_self _) halt hbal
      · exact absurd hbal (Nat.succ_ne_zero depth)
      · obtain ⟨depth', hdepth, hbal⟩ := hbal
        obtain rfl := Nat.succ.inj hdepth
        exact ⟨.ofAtom (.group y), outer, by simp [Phrase.lexemes], halt.2, hbal⟩
    · obtain ⟨x, rest, rfl, halt, hbal⟩ := ihOperand (Nat.lt_succ_self _) halt hbal
      exact ⟨.not x, rest, rfl, halt, hbal⟩

private theorem beginsWithDisjunction {depth : Nat} {ls : List Lexeme}
    (hoperand : BeginsWithOperand depth ls)
    (ih : ∀ {ls' : List Lexeme}, ls'.length < ls.length →
      Alternates true ls' → Balanced depth ls' → BeginsWithDisjunction depth ls') :
    BeginsWithDisjunction depth ls := by
  obtain ⟨x, rest, rfl, halt, hbal⟩ := hoperand
  have hx := List.length_pos_iff.mpr x.lexemes_ne_nil
  cases rest with
  | nil =>
    exact ⟨x.widen, [], rfl, halt, hbal, Or.inl rfl⟩
  | cons l rest =>
    -- A closing parenthesis ends the phrase; an operator makes the operand the left edge of more.
    rcases Lexeme.not_opensOperand_iff.mp halt.1 with rfl | ⟨op, rfl, hop⟩
    · exact ⟨x.widen, _, rfl, halt, hbal, Or.inr ⟨rest, rfl⟩⟩
    · have hexpect : (!(Lexeme.operator op).closesOperand) = true := by
        cases op <;> first | rfl | cases hop
      have halt' := halt.2
      rw [hexpect] at halt'
      rw [balanced_binary hop] at hbal
      obtain ⟨y, rest', hrest, halt', hbal, hstop⟩ :=
        ih (by rw [List.length_append, List.length_cons]; omega) halt' hbal
      obtain ⟨z, hz⟩ := x.exists_prepend hop y
      exact ⟨z, rest', by rw [hz, hrest, List.append_assoc, List.cons_append], halt', hbal, hstop⟩

private theorem beginsWith (n : Nat) : ∀ {depth : Nat} {ls : List Lexeme}, ls.length = n →
    Alternates true ls → Balanced depth ls →
      BeginsWithOperand depth ls ∧ BeginsWithDisjunction depth ls := by
  induction n using Nat.strongRecOn with
  | ind n ih =>
    rintro depth ls rfl halt hbal
    have hoperand := beginsWithOperand halt hbal
      (fun hlt halt hbal ↦ (ih _ hlt rfl halt hbal).1)
      (fun hlt halt hbal ↦ (ih _ hlt rfl halt hbal).2)
    exact ⟨hoperand, beginsWithDisjunction hoperand
      fun hlt halt hbal ↦ (ih _ hlt rfl halt hbal).2⟩

/-- **Sentences.** The grammar derives exactly the sequences in which operands and operators take
turns and the parentheses match. -/
theorem isSentence_iff {ls : List Lexeme} : IsSentence ls ↔ Alternates true ls ∧ Balanced 0 ls := by
  constructor
  · rintro ⟨p, rfl⟩
    have hbal := (p.balanced_append 0 []).mpr rfl
    rw [List.append_nil] at hbal
    exact ⟨p.alternates, hbal⟩
  · rintro ⟨halt, hbal⟩
    obtain ⟨y, rest, rfl, -, hbal, rfl | ⟨outer, rfl⟩⟩ := (beginsWith _ rfl halt hbal).2
    · exact ⟨y, (List.append_nil _).symm⟩
    · obtain ⟨depth, hdepth, -⟩ := hbal
      exact absurd hdepth.symm (Nat.succ_ne_zero depth)

end Placement
