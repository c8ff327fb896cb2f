import Placement.Proofs.Bytes
import Placement.Proofs.SmallSteps

/-!
# How long a compilation takes

That a compilation ends, and soon, is not plain from its loops. The main loop goes on at the end of
the text while a literal is looked for, some of its rounds pass over nothing, and the loops of
reductions stop only because of how the operators on the stack are ordered. All the same the steps
are linear in the operators that are read, and so in the length of the text (`exists_runs_linear`).

## What pays for a step

Each bound is shown by what is in hand at a moment. Some steps earn and others cost, and none costs
more than it earns together with what it takes from the hand, so neither does a run
(`Runs.countP_le`). What is in hand depends on little. For the rounds of the main loop it is what is
being done (`Phase.turnsLeft`); for the reductions it is the operators that wait on the stack
(`Moment.waiting`); for all steps together it is both.

The mark stays at the bottom throughout, since the only step that would take it away is an error.
-/

namespace Placement

/-! ## What is counted -/

/-- An operator that waits to be reduced. -/
def Entry.waits : Entry → Bool
  | bottom => false
  | operator op => op.category != .paren

namespace Moment

/-- Whether this is a round of the main loop: a literal is looked for, or some text is left. -/
def turns (c : Moment) : Bool :=
  match c.phase with
  | .read expect => expect || !c.scanner.atEnd
  | _ => false

/-- Whether an operator or a parenthesis is read. -/
def readsOperator (c : Moment) : Bool :=
  c.phase == .read false && c.scanner.skipBlanks.readOperator.isSome

/-- Whether a reduction is made, without an error. -/
def reducesWell (c : Moment) : Bool := c.reduces && c.reduce.isOk

/-- Whether an operator that is no parenthesis is put on the stack. -/
def pushes (c : Moment) : Bool :=
  match c.step with
  | .next d => d.entries.tail == c.entries && d.top.waits
  | .done _ => false

def waiting (c : Moment) : Nat := c.entries.countP Entry.waits

end Moment

/-! ## Bounds on runs -/

/-- Where no step costs more than it earns and takes from the hand, no run does. -/
theorem Runs.countP_le (costs earns : Moment → Bool) (pay : Nat) (hand : Moment → Nat)
    (hnext : ∀ c d, c.step = .next d →
      (costs c).toNat + hand d ≤ pay * (earns c).toNat + hand c)
    (hdone : ∀ c outcome, c.step = .done outcome →
      (costs c).toNat ≤ pay * (earns c).toNat + hand c)
    {c : Moment} {cs : List Moment} {outcome : Compilation} (h : Runs c cs outcome) :
    cs.countP costs ≤ pay * cs.countP earns + hand c := by
  have hcons : ∀ (p : Moment → Bool) (c : Moment) (cs : List Moment),
      (c :: cs).countP p = cs.countP p + (p c).toNat := by
    intro p c cs
    rw [List.countP_cons]
    cases p c <;> rfl
  induction h with
  | @done c outcome hstep =>
    rw [hcons, hcons, List.countP_nil, List.countP_nil, Nat.zero_add, Nat.zero_add]
    exact hdone c outcome hstep
  | @next c d cs outcome hstep hrest ih =>
    have hpaid := hnext c d hstep
    rw [hcons, hcons, Nat.mul_add]
    omega

/-! ## Kinds of steps -/

namespace Moment

variable {c d : Moment} {op : Operator} {position : Nat}

/-- What a step can do. -/
inductive Move (c : Moment) : Moment → Prop
  | reduce {d : Moment} (hreduces : c.reduces = true) (hreduce : c.reduce = .ok d) : Move c d
  | literal (hphase : c.phase = .read true) (operands : List Operand) :
      Move c { c with
        scanner := c.scanner.readLiteral.2, phase := .read false, operands := operands }
  | finish (hphase : c.phase = .read false) (hend : c.scanner.skipBlanks.atEnd = true) :
      Move c { c with scanner := c.scanner.skipBlanks, phase := .drain }
  | shift (hphase : c.phase = .read false) {op : Operator} {next : Scanner}
      (hread : c.scanner.skipBlanks.readOperator = some (op, next)) :
      Move c ({ c with scanner := next }.shift op c.scanner.skipBlanks.position)
  | close {position : Nat} (hphase : c.phase = .close position) (htop : c.top.isParen = true) :
      Move c { c with entries := c.entries.tail, phase := .read false }
  | push {op : Operator} (hphase : c.phase = .push op) (hreduces : c.reduces = false) :
      Move c { c with entries := .operator op :: c.entries, phase := .read true }

/-- A reduction takes one waiting operator off and goes on with what was being done. -/
theorem reduce_eq_ok (h : c.reduce = .ok d) : ∃ op, op.category ≠ .paren ∧
    c.entries = .operator op :: d.entries ∧ d.phase = c.phase ∧ d.scanner = c.scanner := by
  rw [reduce] at h
  split at h
  · next op below hentries =>
    split at h
    · cases h
    · next hparen =>
      split at h
      · cases h
      · cases h
        exact ⟨op, hparen, hentries, rfl, rfl⟩
  · cases h

theorem move_of_readOn (hphase : c.phase = .read false) (h : c.readOn = .next d) : c.Move d := by
  cases hend : c.scanner.skipBlanks.atEnd with
  | true =>
    rw [readOn_of_end hend] at h
    cases h
    exact .finish hphase hend
  | false =>
    cases hread : c.scanner.skipBlanks.readOperator with
    | none =>
      rw [readOn_of_stray hend hread] at h
      cases h
    | some found =>
      rw [readOn_of_operator hread] at h
      cases h
      exact .shift hphase hread

theorem reduce_of_step (hreduces : c.reduces = true) (h : c.step = .next d) :
    c.reduce = .ok d := by
  rw [step, if_pos hreduces] at h
  split at h
  · next hreduce =>
    cases h
    exact hreduce
  · cases h

theorem move_of_step (h : c.step = .next d) : c.Move d := by
  by_cases hreduces : c.reduces = true
  · exact .reduce hreduces (reduce_of_step hreduces h)
  · rw [step, if_neg hreduces] at h
    rw [Bool.not_eq_true] at hreduces
    split at h
    · next hphase =>
      cases h
      exact .literal hphase _
    · next hphase => exact move_of_readOn hphase h
    · next position hphase =>
      split at h
      · next htop =>
        cases h
        exact .close hphase htop
      · cases h
    · next op hphase =>
      cases h
      exact .push hphase hreduces
    · cases h

/-! ### Rounds of the main loop -/

end Moment

/-- The rounds that can still be made without reading an operator. -/
def Phase.turnsLeft : Phase → Nat
  | read true => 2
  | read false => 1
  | close _ => 1
  | push _ => 2
  | drain => 0

/-- The steps that can still be made without reading an operator, reductions apart. -/
def Phase.stepsLeft : Phase → Nat
  | read true => 3
  | read false => 2
  | close _ => 3
  | push _ => 5
  | drain => 1

theorem Phase.stepsLeft_pos (phase : Phase) : 0 < phase.stepsLeft := by
  cases phase with
  | read expect => cases expect <;> decide
  | close position | push op | drain => exact Nat.succ_pos _

namespace Moment

variable {c d : Moment} {op : Operator} {outcome : Compilation}

theorem readsOperator_of_read {next : Scanner} (hphase : c.phase = .read false)
    (hread : c.scanner.skipBlanks.readOperator = some (op, next)) : c.readsOperator = true := by
  rw [readsOperator, hphase, hread]
  rfl

theorem reduces_eq_false_of_read {expect : Bool} (hphase : c.phase = .read expect) :
    c.reduces = false := by
  rw [reduces, hphase]

theorem phase_ne_read_of_reduces (hreduces : c.reduces = true) (expect : Bool) :
    c.phase ≠ .read expect := by
  intro hread
  rw [reduces_eq_false_of_read hread] at hreduces
  cases hreduces

theorem turns_eq_false (hphase : ∀ expect, c.phase ≠ .read expect) : c.turns = false := by
  rw [turns]
  split
  · next expect hread => exact absurd hread (hphase expect)
  · rfl

theorem turns_shift_le (c : Moment) (op : Operator) (position : Nat) :
    (c.shift op position).phase.turnsLeft ≤ 2 := by
  cases op <;> simp [shift, Phase.turnsLeft]

/-- A round is paid for by the operator that it reads, or by what was being done. -/
theorem turns_add_le (h : c.step = .next d) :
    c.turns.toNat + d.phase.turnsLeft ≤ 2 * c.readsOperator.toNat + c.phase.turnsLeft := by
  have hround := Bool.toNat_le c.turns
  cases move_of_step h with
  | reduce hreduces hreduce =>
    obtain ⟨-, -, -, hphase, -⟩ := reduce_eq_ok hreduce
    rw [turns_eq_false (phase_ne_read_of_reduces hreduces), hphase]
    exact Nat.add_le_add (Nat.zero_le _) le_rfl
  | literal hphase operands =>
    have hhand : c.phase.turnsLeft = 2 := by rw [hphase]; rfl
    change _ + 1 ≤ _
    omega
  | finish hphase hend =>
    have hhand : c.phase.turnsLeft = 1 := by rw [hphase]; rfl
    change _ + 0 ≤ _
    omega
  | @shift hphase op next hread =>
    have hhand : c.phase.turnsLeft = 1 := by rw [hphase]; rfl
    have hleft := turns_shift_le { c with scanner := next } op c.scanner.skipBlanks.position
    rw [readsOperator_of_read hphase hread, Bool.toNat_true]
    omega
  | close hphase htop =>
    have hhand : c.phase.turnsLeft = 1 := by rw [hphase]; rfl
    rw [turns_eq_false (by rw [hphase]; nofun)]
    change 0 + 1 ≤ _
    omega
  | push hphase hreduces =>
    have hhand : c.phase.turnsLeft = 2 := by rw [hphase]; rfl
    rw [turns_eq_false (by rw [hphase]; nofun)]
    change 0 + 2 ≤ _
    omega

theorem turns_le (c : Moment) : c.turns.toNat ≤ c.phase.turnsLeft := by
  cases hphase : c.phase with
  | read expect =>
    cases expect with
    | true => exact (Bool.toNat_le _).trans (by decide)
    | false => exact Bool.toNat_le _
  | close position | push op | drain =>
    rw [turns_eq_false (by rw [hphase]; nofun)]
    exact Nat.zero_le _

/-! ### Reductions -/

theorem waiting_eq_of_entries (h : c.step = .next d) {entry : Entry}
    (hentries : d.entries = entry :: c.entries) : d.waiting = c.pushes.toNat + c.waiting := by
  have htop : d.top = entry := by
    rw [top, hentries]
    rfl
  have hpushes : c.pushes = entry.waits := by
    rw [pushes, h]
    change (d.entries.tail == c.entries && d.top.waits) = _
    rw [htop, hentries, List.tail_cons, BEq.rfl, Bool.true_and]
  rw [waiting, hentries, List.countP_cons, hpushes, waiting, Nat.add_comm]
  cases entry.waits <;> rfl

theorem waiting_reduce (hreduce : c.reduce = .ok d) : c.waiting = d.waiting + 1 := by
  obtain ⟨op, hparen, hentries, -⟩ := reduce_eq_ok hreduce
  rw [waiting, hentries, List.countP_cons_of_pos (by simpa [Entry.waits] using hparen), waiting]

/-- Only what is put on the stack makes more operators wait. -/
theorem waiting_le (h : c.step = .next d) : d.waiting ≤ c.pushes.toNat + c.waiting := by
  have hsub : d.entries.Sublist c.entries → d.waiting ≤ c.pushes.toNat + c.waiting := fun hsub ↦
    hsub.countP_le.trans (Nat.le_add_left _ _)
  cases move_of_step h with
  | reduce hreduces hreduce =>
    have hwaiting := waiting_reduce hreduce
    omega
  | literal hphase operands => exact hsub (.refl _)
  | finish hphase hend => exact hsub (.refl _)
  | @shift hphase op next hread =>
    cases op with
    | openParen | not => exact (waiting_eq_of_entries h rfl).le
    | closeParen | connective o | comparison o => exact hsub (.refl _)
  | close hphase htop => exact hsub (List.tail_sublist _)
  | push hphase hreduces => exact (waiting_eq_of_entries h rfl).le

theorem reducesWell_add_le (h : c.step = .next d) :
    c.reducesWell.toNat + d.waiting ≤ 1 * c.pushes.toNat + c.waiting := by
  cases hreduces : c.reduces with
  | true =>
    have hwaiting := waiting_reduce (reduce_of_step hreduces h)
    have hone := Bool.toNat_le c.reducesWell
    omega
  | false =>
    have hwaiting := waiting_le h
    rw [reducesWell, hreduces, Bool.false_and, Bool.toNat_false]
    omega

theorem reducesWell_of_done (h : c.step = .done outcome) : c.reducesWell = false := by
  cases hreduces : c.reduces with
  | false => rw [reducesWell, hreduces, Bool.false_and]
  | true =>
    rw [step, if_pos hreduces] at h
    split at h
    · cases h
    · next e hreduce =>
      rw [reducesWell, hreduces, hreduce]
      rfl

/-! ### All steps -/

theorem steps_shift_le (c : Moment) (op : Operator) (position : Nat) :
    (c.shift op position).phase.stepsLeft + (c.shift op position).waiting ≤ 5 + c.waiting := by
  cases op with
  | openParen | closeParen | connective o | comparison o =>
    simp [shift, Phase.stepsLeft, waiting, Entry.waits, Operator.category]
  | not =>
    have hmore : (Entry.operator .not :: c.entries).countP Entry.waits = c.waiting + 1 :=
      List.countP_cons_of_pos rfl
    change 3 + (Entry.operator .not :: c.entries).countP Entry.waits ≤ _
    omega

/-- An operator that is read pays for reading it, for putting it on the stack and for its
reduction. -/
theorem steps_add_le (h : c.step = .next d) : 1 + (d.phase.stepsLeft + d.waiting)
    ≤ 4 * c.readsOperator.toNat + (c.phase.stepsLeft + c.waiting) := by
  cases move_of_step h with
  | reduce hreduces hreduce =>
    obtain ⟨-, -, -, hphase, -⟩ := reduce_eq_ok hreduce
    have hwaiting := waiting_reduce hreduce
    rw [hphase]
    omega
  | literal hphase operands =>
    have hhand : c.phase.stepsLeft = 3 := by rw [hphase]; rfl
    change 1 + (2 + c.waiting) ≤ _
    omega
  | finish hphase hend =>
    have hhand : c.phase.stepsLeft = 2 := by rw [hphase]; rfl
    change 1 + (1 + c.waiting) ≤ _
    omega
  | @shift hphase op next hread =>
    have hhand : c.phase.stepsLeft = 2 := by rw [hphase]; rfl
    have hleft := steps_shift_le { c with scanner := next } op c.scanner.skipBlanks.position
    change _ ≤ 5 + c.waiting at hleft
    rw [readsOperator_of_read hphase hread, Bool.toNat_true]
    omega
  | close hphase htop =>
    have hhand : c.phase.stepsLeft = 3 := by rw [hphase]; rfl
    have hwaiting : c.entries.tail.countP Entry.waits ≤ c.waiting :=
      (List.tail_sublist _).countP_le
    change 1 + (2 + c.entries.tail.countP Entry.waits) ≤ _
    omega
  | push hphase hreduces =>
    have hhand : c.phase.stepsLeft = 5 := by rw [hphase]; rfl
    have hwaiting := waiting_eq_of_entries h rfl
    have hone := Bool.toNat_le c.pushes
    change 1 + (3 + _) ≤ _
    omega

/-! ### The text -/

theorem scanner_shift (c : Moment) (op : Operator) (position : Nat) :
    (c.shift op position).scanner = c.scanner := by
  cases op <;> rfl

theorem readsOperator_eq_false (hphase : c.phase ≠ .read false) : c.readsOperator = false := by
  rw [readsOperator, beq_eq_false_iff_ne.mpr hphase, Bool.false_and]

theorem readsOperator_add_le (h : c.step = .next d) :
    c.readsOperator.toNat + d.scanner.rest.length ≤ c.scanner.rest.length := by
  have hskip := c.scanner.length_skipBlanks_le
  cases move_of_step h with
  | reduce hreduces hreduce =>
    obtain ⟨-, -, -, -, hscanner⟩ := reduce_eq_ok hreduce
    rw [readsOperator_eq_false (phase_ne_read_of_reduces hreduces false), Bool.toNat_false,
      Nat.zero_add, hscanner]
  | literal hphase operands =>
    rw [readsOperator_eq_false (by rw [hphase]; nofun), Bool.toNat_false, Nat.zero_add]
    exact c.scanner.length_readLiteral_le
  | finish hphase hend =>
    have hnone : c.scanner.skipBlanks.readOperator = none := by
      by_contra hsome
      obtain ⟨⟨op, next⟩, hread⟩ := Option.ne_none_iff_exists'.mp hsome
      rw [Scanner.atEnd_eq_false_of_readOperator hread] at hend
      cases hend
    rw [readsOperator, hnone, Option.isSome_none, Bool.and_false, Bool.toNat_false, Nat.zero_add]
    exact hskip
  | @shift hphase op next hread =>
    have hlt := Scanner.length_readOperator_lt hread
    rw [readsOperator_of_read hphase hread, scanner_shift, Bool.toNat_true]
    change 1 + next.rest.length ≤ _
    omega
  | close hphase htop | push hphase hreduces =>
    rw [readsOperator_eq_false (by rw [hphase]; nofun), Bool.toNat_false, Nat.zero_add]

theorem exists_step_of_readsOperator (h : c.readsOperator = true) :
    ∃ d, c.step = .next d ∧ c.scanner.position < d.scanner.position := by
  rw [readsOperator, Bool.and_eq_true, beq_iff_eq] at h
  obtain ⟨hphase, hsome⟩ := h
  obtain ⟨⟨op, next⟩, hread⟩ := Option.isSome_iff_exists.mp hsome
  have hstep : c.step = c.readOn := by
    rw [step, reduces_eq_false_of_read hphase, if_neg Bool.false_ne_true, hphase]
  refine ⟨_, hstep.trans (readOn_of_operator hread), ?_⟩
  obtain ⟨gap, -, -, hgap⟩ := c.scanner.exists_passed_skipBlanks
  obtain ⟨-, hnext, -⟩ := Scanner.eq_of_readOperator hread
  have hsymbol := Text.byteLength_pos op.symbol_ne_nil
  rw [scanner_shift]
  change _ < next.position
  omega

theorem readsOperator_of_done (h : c.step = .done outcome) : c.readsOperator = false := by
  by_contra hread
  rw [Bool.not_eq_false] at hread
  obtain ⟨d, hstep, -⟩ := exists_step_of_readsOperator hread
  rw [h] at hstep
  cases hstep

/-! ### The mark -/

theorem IsReached.mark (h : c.IsReached) :
    c.entries.getLast? = some .bottom ∧ (c.reduces = true → c.top ≠ .bottom) := by
  obtain ⟨ls, m, s, phase, -, -, rfl⟩ := h
  refine ⟨List.getLast?_concat, fun hreduces ↦ ?_⟩
  cases hpending : m.pending with
  | nil =>
    rw [Machine.reduces_moment_of_nil hpending] at hreduces
    cases hreduces
  | cons op below =>
    rw [Machine.top_moment_of_pending hpending]
    nofun

end Moment

open Moment in
/-- **Linear time.** The run on any text makes at most two rounds for each operator or parenthesis
that it reads, and two more, and no more reductions than it puts operators on the stack. Each
operator that is read lies further on in the text, so there are no more of them than characters. The
mark is at the bottom of the stack at every moment, and never what a reduction meets. -/
theorem exists_runs_linear (text : Text) :
    ∃ cs, Runs (.start text) cs (.ofReadings (readings text)) ∧
      cs.countP turns ≤ 2 * cs.countP readsOperator + 2 ∧
      cs.countP reducesWell ≤ cs.countP pushes ∧
      cs.length ≤ 4 * cs.countP readsOperator + 3 ∧
      cs.countP readsOperator ≤ text.length ∧
      ∀ c ∈ cs,
        (c.readsOperator = true →
          ∃ d, c.step = .next d ∧ c.scanner.position < d.scanner.position) ∧
        c.entries.getLast? = some .bottom ∧ (c.reduces = true → c.top ≠ .bottom) := by
  obtain ⟨cs, hruns, hreached⟩ := leadsTo_start text
  have hrounds : cs.countP turns ≤ 2 * cs.countP readsOperator + 2 :=
    hruns.countP_le turns readsOperator 2 (fun c ↦ c.phase.turnsLeft) (fun c d ↦ turns_add_le)
      fun c _ _ ↦ c.turns_le.trans (Nat.le_add_left _ _)
  have hreductions : cs.countP reducesWell ≤ 1 * cs.countP pushes + 0 :=
    hruns.countP_le reducesWell pushes 1 waiting (fun c d ↦ reducesWell_add_le)
      fun c _ hdone ↦ by
        rw [reducesWell_of_done hdone]
        exact Nat.zero_le _
  have hsteps : cs.countP (fun _ ↦ true) ≤ 4 * cs.countP readsOperator + 3 :=
    hruns.countP_le (fun _ ↦ true) readsOperator 4 (fun c ↦ c.phase.stepsLeft + c.waiting)
      (fun c d ↦ steps_add_le) fun c _ _ ↦ by
        have hpos := c.phase.stepsLeft_pos
        rw [Bool.toNat_true]
        omega
  -- Nothing is earned here: the text is in hand from the start.
  have hlength : cs.countP readsOperator ≤ 0 * cs.countP turns + text.length :=
    hruns.countP_le readsOperator turns 0 (fun c ↦ c.scanner.rest.length)
      (fun c d h ↦ by simpa using readsOperator_add_le h) fun c _ hdone ↦ by
        rw [readsOperator_of_done hdone]
        exact Nat.zero_le _
  rw [List.countP_true] at hsteps
  exact ⟨cs, hruns, hrounds, by omega, hsteps, by omega, fun c hc ↦
    ⟨exists_step_of_readsOperator, (hreached c hc).mark⟩⟩

end Placement
