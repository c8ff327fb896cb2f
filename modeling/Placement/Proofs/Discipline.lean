import Mathlib.Data.List.Chain
import Placement.Proofs.SmallSteps

/-!
# The stack of operators

Several arms of the compilation are there for cases that do not occur. No reduction that a `)` or a
binary operator asks for meets a parenthesis or the mark at the bottom, no operator that is reduced
lacks a node to build, and the operand that is left at the end is never the placeholder of a `!`.
`exists_disciplined` says so of every moment of every run, whether or not the text is accepted.

## The order of the stack

What rules these cases out is how the stack is ordered. Each binary operator lies directly on
something looser (`Reached.isChain_pending`): whatever was not looser was reduced before. Nothing is
as tight as a `!`, so no binary operator ever lies directly on one. Between two open parentheses,
where nothing else occurs, this orders the stack completely: binary operators, each tighter than the
one below, and above them every `!` (`layered_of_isChain`).
-/

namespace Placement

/-- From the top: every `!`, and below them binary operators, each looser than the one above. -/
def Layered (segment : List Operator) : Prop :=
  ∃ nots binaries : List Operator, segment = nots ++ binaries ∧ (∀ op ∈ nots, op = .not) ∧
    (∀ op ∈ binaries, op.isBinary = true) ∧
    binaries.Pairwise fun upper lower ↦ lower.level < upper.level

/-- A binary operator lies on something looser. -/
def Operator.MayLieOn (upper lower : Operator) : Prop :=
  upper.isBinary = true → lower.level < upper.level

namespace Operator

/-- A `!` is the tightest. -/
theorem level_le_level_not (op : Operator) : op.level ≤ Operator.not.level := by
  cases op with
  | connective c => cases c <;> decide
  | _ => simp [level]

theorem isBinary_of_ne {op : Operator} (hopen : op ≠ .openParen) (hclose : op ≠ .closeParen)
    (hnot : op ≠ .not) : op.isBinary = true := by
  cases op with
  | openParen => exact absurd rfl hopen
  | closeParen => exact absurd rfl hclose
  | not => exact absurd rfl hnot
  | connective c | comparison c => rfl

end Operator

/-- Without parentheses the order of neighbours is one of layers. -/
theorem layered_of_isChain {segment : List Operator} (h : segment.IsChain Operator.MayLieOn)
    (hopen : .openParen ∉ segment) (hclose : .closeParen ∉ segment) : Layered segment := by
  induction segment with
  | nil => exact ⟨[], [], rfl, List.forall_mem_nil _, List.forall_mem_nil _, .nil⟩
  | cons op below ih =>
    obtain ⟨hhead, hbelow⟩ := List.isChain_cons.mp h
    obtain ⟨nots, binaries, rfl, hnots, hbinaries, hpairs⟩ :=
      ih hbelow (List.not_mem_of_not_mem_cons hopen) (List.not_mem_of_not_mem_cons hclose)
    by_cases hop : op = .not
    · exact ⟨op :: nots, binaries, rfl, List.forall_mem_cons.mpr ⟨hop, hnots⟩, hbinaries, hpairs⟩
    · have hbinary : op.isBinary = true := Operator.isBinary_of_ne
        (Ne.symm (List.ne_of_not_mem_cons hopen)) (Ne.symm (List.ne_of_not_mem_cons hclose)) hop
      cases nots with
      | cons top nots =>
        -- No binary operator lies on a negation.
        have hlower := hhead top rfl hbinary
        rw [hnots top List.mem_cons_self] at hlower
        exact absurd op.level_le_level_not (Nat.not_le_of_lt hlower)
      | nil =>
        refine ⟨[], op :: binaries, rfl, hnots, List.forall_mem_cons.mpr ⟨hbinary, hbinaries⟩,
          List.pairwise_cons.mpr ⟨fun lower hlower ↦ ?_, hpairs⟩⟩
        cases binaries with
        | nil => cases hlower
        | cons next binaries =>
          have hnext : next.level < op.level := hhead next rfl hbinary
          rcases List.mem_cons.mp hlower with rfl | hlower
          · exact hnext
          · exact ((List.pairwise_cons.mp hpairs).1 lower hlower).trans hnext

/-! ## What the machine keeps -/

namespace Reached

variable {ls : List Lexeme} {m : Machine}

theorem isChain_pending (h : Reached ls m) : m.pending.IsChain Operator.MayLieOn := by
  induction h with
  | start => exact .nil
  | literal h token ih => exact ih
  | openParen h ih | not h ih => exact List.isChain_cons.mpr ⟨fun _ _ ↦ nofun, ih⟩
  | binary h hop hlevel ih => exact List.isChain_cons.mpr ⟨fun top htop _ ↦ hlevel top htop, ih⟩
  | closeParen h hpending hop ih =>
    rw [hpending] at ih
    exact ih.tail
  | reduce h hpending hreduce ih =>
    obtain ⟨-, n, rest, -, rfl⟩ := Machine.reduce_eq_ok_iff.mp hreduce
    exact ih.tail

theorem closeParen_not_mem_pending (h : Reached ls m) : .closeParen ∉ m.pending := by
  induction h with
  | start => exact List.not_mem_nil
  | literal h token ih => exact ih
  | openParen h ih | not h ih => exact List.not_mem_cons_of_ne_of_not_mem nofun ih
  | binary h hop hlevel ih =>
    refine List.not_mem_cons_of_ne_of_not_mem ?_ ih
    rintro rfl
    cases hop
  | closeParen h hpending hop ih =>
    rw [hpending] at ih
    exact fun hmem ↦ ih (List.mem_cons_of_mem _ hmem)
  | reduce h hpending hreduce ih =>
    obtain ⟨-, n, rest, -, rfl⟩ := Machine.reduce_eq_ok_iff.mp hreduce
    exact fun hmem ↦ ih (List.mem_of_mem_tail hmem)

/-- Between open parentheses, below them and above them, the operators lie in layers. -/
theorem layered (h : Reached ls m) {segment : List Operator} (hsegment : segment <:+: m.pending)
    (hopen : .openParen ∉ segment) : Layered segment := by
  have hchain : segment.IsChain Operator.MayLieOn := List.IsChain.infix h.isChain_pending hsegment
  have hclose : .closeParen ∉ segment := fun hclose ↦
    h.closeParen_not_mem_pending (hsegment.subset hclose)
  exact layered_of_isChain hchain hopen hclose

theorem exists_node (h : Reached ls m) (hpending : m.pending = []) {x : Operand}
    (hx : m.operands = [x]) : ∃ n, x = .node n := by
  cases x with
  | node n => exact ⟨n, rfl⟩
  | placeholder =>
    -- On top, a placeholder has its negation pending.
    have hnot := h.not_mem_pending (by rw [hx]; rfl)
    rw [hpending] at hnot
    cases hnot

end Reached

/-! ## Moments -/

/-- What holds at every moment. -/
structure Moment.Disciplined (c : Moment) : Prop where
  /-- The mark is at the bottom and nowhere else, and below, between and above the open parentheses
  the operators lie in layers. -/
  entries : ∃ pending, c.entries = pending.map .operator ++ [.bottom] ∧ .closeParen ∉ pending ∧
    ∀ segment, segment <:+: pending → .openParen ∉ segment → Layered segment
  /-- Only at the end of the text can a reduction meet a parenthesis, and none meets the mark. -/
  top : c.reduces = true → ∃ op below, c.entries = .operator op :: below ∧
    (c.phase ≠ .drain → op.category ≠ .paren)
  /-- What a reduction gives two operands makes a node of them. -/
  binary : ∀ op below, c.entries = .operator op :: below → op.category ≠ .paren → op ≠ .not →
    ∀ l r, ∃ n, Node.binary op l r = some n
  /-- When all is reduced, a single operand is a node. -/
  operand : c.phase = .drain → c.reduces = false → ∀ x, c.operands = [x] → ∃ n, x = .node n

namespace Machine

variable {m : Machine} {s : Scanner} {phase : Phase}

theorem exists_entries_of_reduces (hphase : phase.PushesBinary)
    (hreduces : (m.moment s phase).reduces = true) : ∃ op below,
      (m.moment s phase).entries = .operator op :: below ∧
        (phase ≠ .drain → op.category ≠ .paren) := by
  cases hpending : m.pending with
  | nil =>
    rw [reduces_moment_of_nil hpending] at hreduces
    cases hreduces
  | cons op below =>
    rw [reduces_moment_of_pending hpending] at hreduces
    refine ⟨op, marked below, ?_, fun hdrain ↦ hphase.category_ne_paren hdrain hreduces⟩
    rw [moment, hpending]
    rfl

theorem pending_eq_nil_of_drain (hreduces : (m.moment s .drain).reduces = false) :
    m.pending = [] := by
  cases hpending : m.pending with
  | nil => rfl
  | cons op below =>
    rw [reduces_moment_of_pending hpending] at hreduces
    cases hreduces

end Machine

theorem Moment.IsReached.disciplined {c : Moment} (h : c.IsReached) : c.Disciplined := by
  obtain ⟨ls, m, s, phase, hm, hphase, rfl⟩ := h
  constructor
  case entries =>
    exact ⟨m.pending, rfl, hm.closeParen_not_mem_pending, fun _ hsegment ↦ hm.layered hsegment⟩
  case top => exact Machine.exists_entries_of_reduces hphase
  case binary =>
    intro op below _ hparen hnot
    have hopen : op ≠ .openParen := by
      rintro rfl
      exact hparen rfl
    have hclose : op ≠ .closeParen := by
      rintro rfl
      exact hparen rfl
    exact Node.exists_binary (Operator.isBinary_of_ne hopen hclose hnot)
  case operand =>
    rintro rfl hreduces x hx
    exact hm.exists_node (Machine.pending_eq_nil_of_drain hreduces) hx

/-- **The stack keeps its order.** The run on any text is disciplined at each of its moments. -/
theorem exists_disciplined (text : Text) :
    ∃ cs, Runs (.start text) cs (.ofReadings (readings text)) ∧ ∀ c ∈ cs, c.Disciplined := by
  obtain ⟨cs, hruns, hreached⟩ := leadsTo_start text
  exact ⟨cs, hruns, fun c hc ↦ (hreached c hc).disciplined⟩

end Placement
