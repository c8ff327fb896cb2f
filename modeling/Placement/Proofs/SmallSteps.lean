import Placement.Proofs.Diagnosis

/-!
# A compilation step by step

The machine of the compilation takes a whole reading in at once, and its stack of operators ends
where the list does. Here the same compilation is cut into the steps of its loops. The main loop
reads a literal or an operator; behind a closing parenthesis, before a binary operator and at the
end of the text there is a loop of reductions. The stack has a mark at its bottom, which nothing is
meant to take away.

A `Moment` is a state between two steps, `Moment.step` leads from one to the next or to the result,
and `Runs` lists the moments up to the result, of which there is one list (`Runs.unique`). Errors
that a loop could run into, at the mark or at an open parenthesis, are all there, whether or not
they can occur.

## Both are the same

Every moment is one of a state that the machine reaches, seen with the mark at the bottom and with
what is being done at the time (`Machine.moment`). So the run on a text has the outcome of its
compilation, and the reductions made (`leadsTo_start`), and each of its moments has the invariants
of the states that are reached.
-/

namespace Placement

/-! ## Moments -/

/-- An entry of the operator stack: an operator, or the mark at the bottom, which is looser than
every operator. -/
inductive Entry
  | bottom
  | operator (op : Operator)
  deriving DecidableEq, Repr

namespace Entry

def level : Entry → Nat
  | bottom => 0
  | operator op => op.level

def isParen : Entry → Bool
  | bottom => false
  | operator op => op.category == .paren

end Entry

/-- What is being done. -/
inductive Phase
  /-- The head of the main loop, and whether a literal is looked for. -/
  | read (expectLiteral : Bool)
  /-- A closing parenthesis was read, at this offset. -/
  | close (position : Nat)
  /-- A binary operator was read. -/
  | push (op : Operator)
  /-- The text is at its end. -/
  | drain
  deriving DecidableEq, Repr

/-- The state of a compilation between two steps. -/
structure Moment where
  scanner : Scanner
  phase : Phase
  operands : List Operand
  entries : List Entry
  forPrimary : Bool
  /-- The reductions made so far, newest first. -/
  reductions : List Reduction
  deriving DecidableEq, Repr

/-- Where a step leads. -/
inductive Progress
  | next (c : Moment)
  | done (outcome : Compilation)

namespace Moment

def start (text : Text) : Moment := ⟨.start text, .read true, [], [.bottom], false, []⟩

/-- The uppermost entry; an empty stack counts as the mark. -/
def top (c : Moment) : Entry := c.entries.head?.getD .bottom

def reject (c : Moment) (error : ParseError) : Progress :=
  .done ⟨.error error, c.reductions.reverse⟩

/-- Whether a loop of reductions goes round once more. -/
def reduces (c : Moment) : Bool :=
  match c.phase with
  | .read _ => false
  | .close _ => !c.top.isParen && c.top != .bottom
  | .push op => op.level ≤ c.top.level
  | .drain => 1 < c.entries.length

/-- Take the uppermost entry away and reduce it. Neither the mark nor a parenthesis can be. -/
def reduce (c : Moment) : Except ParseError Moment :=
  match c.entries with
  | .operator op :: below =>
    if op.category = .paren then .error (.unbalancedParenthesis c.scanner.position)
    else
      match build op c.operands with
      | .error e => .error e
      | .ok (n, rest) =>
        .ok { c with
          operands := .node n :: rest
          entries := below
          reductions := ⟨op, n⟩ :: c.reductions }
  | _ => .error (.unbalancedParenthesis c.scanner.position)

/-- Begin to take in an operator. -/
def shift (c : Moment) (op : Operator) (position : Nat) : Moment :=
  match op with
  | .openParen => { c with entries := .operator .openParen :: c.entries, phase := .read true }
  | .closeParen => { c with phase := .close position }
  | .not => { c with
      entries := .operator .not :: c.entries
      operands := .placeholder :: c.operands
      phase := .read true }
  | op => { c with phase := .push op, forPrimary := c.forPrimary || op.isPrimaryVariant }

/-- The main loop where no literal is looked for. -/
def readOn (c : Moment) : Progress :=
  let s := c.scanner.skipBlanks
  if c.scanner.atEnd then .next { c with phase := .drain }
  else if s.atEnd then .next { c with scanner := s, phase := .drain }
  else
    match s.readOperator with
    | none => c.reject (.expectedOperator s.position s.rest)
    | some (op, next) => .next ({ c with scanner := next }.shift op s.position)

def result (c : Moment) : Compilation :=
  ⟨Machine.result ⟨c.operands, [], c.forPrimary, c.reductions⟩, c.reductions.reverse⟩

def step (c : Moment) : Progress :=
  if c.reduces then
    match c.reduce with
    | .ok next => .next next
    | .error e => c.reject e
  else
    match c.phase with
    | .read true => .next { c with
        scanner := c.scanner.readLiteral.2
        phase := .read false
        operands := (c.scanner.readLiteral.1.map (.node <| .literal ·)).toList ++ c.operands }
    | .read false => c.readOn
    | .close position =>
      if c.top.isParen then .next { c with entries := c.entries.tail, phase := .read false }
      else c.reject (.unbalancedParenthesis position)
    | .push op => .next { c with entries := .operator op :: c.entries, phase := .read true }
    | .drain => .done c.result

end Moment

/-- The moments of a run, the first one included, and its outcome. -/
inductive Runs : Moment → List Moment → Compilation → Prop
  | done {c : Moment} {outcome : Compilation} (h : c.step = .done outcome) : Runs c [c] outcome
  | next {c d : Moment} {cs : List Moment} {outcome : Compilation} (h : c.step = .next d)
      (hrest : Runs d cs outcome) : Runs c (c :: cs) outcome

theorem Runs.unique {c : Moment} {cs cs' : List Moment} {outcome outcome' : Compilation}
    (h : Runs c cs outcome) (h' : Runs c cs' outcome') : cs = cs' ∧ outcome = outcome' := by
  induction h generalizing cs' with
  | done hstep =>
    cases h' with
    | done hstep' =>
      cases hstep.symm.trans hstep'
      exact ⟨rfl, rfl⟩
    | next hstep' _ => cases hstep.symm.trans hstep'
  | next hstep _ ih =>
    cases h' with
    | done hstep' => cases hstep.symm.trans hstep'
    | next hstep' hrest' =>
      cases hstep.symm.trans hstep'
      obtain ⟨rfl, rfl⟩ := ih hrest'
      exact ⟨rfl, rfl⟩

/-! ## Moments of the machine -/

/-- The operators that are reduced in a phase. -/
def Phase.holds : Phase → Operator → Bool
  | read _, _ => false
  | close _, top => top.category != .paren
  | push op, top => op.level ≤ top.level
  | drain, _ => true

/-- The flag for the primary replica is set as soon as the operator is read. -/
def Phase.forPrimary : Phase → Bool
  | push op => op.isPrimaryVariant
  | _ => false

/-- Only binary operators are put on the stack behind reductions. -/
def Phase.PushesBinary (phase : Phase) : Prop := ∀ op, phase = .push op → op.isBinary = true

namespace Phase

theorem pushesBinary_read (expect : Bool) : (read expect).PushesBinary := by
  rintro op ⟨⟩

theorem pushesBinary_close (position : Nat) : (close position).PushesBinary := by
  rintro op ⟨⟩

theorem pushesBinary_push {op : Operator} (hop : op.isBinary = true) :
    (push op).PushesBinary := by
  rintro op' ⟨⟩
  exact hop

theorem pushesBinary_drain : drain.PushesBinary := by
  rintro op ⟨⟩

/-- What is reduced while text is still read is no parenthesis. -/
theorem PushesBinary.category_ne_paren {phase : Phase} (hphase : phase.PushesBinary)
    (hdrain : phase ≠ .drain) {op : Operator} (hholds : phase.holds op = true) :
    op.category ≠ .paren := by
  cases phase with
  | read expect => cases hholds
  | close position => simpa [holds] using hholds
  | push new =>
    have hnew := Operator.category_ne_paren_of_isBinary (hphase new rfl)
    have hlevel := (Operator.two_le_level_iff.mpr hnew).trans (of_decide_eq_true hholds)
    exact Operator.two_le_level_iff.mp hlevel
  | drain => exact absurd rfl hdrain

end Phase

/-- The stack of a state with the mark below it. -/
def marked (pending : List Operator) : List Entry := pending.map .operator ++ [.bottom]

def Machine.moment (m : Machine) (s : Scanner) (phase : Phase) : Moment where
  scanner := s
  phase := phase
  operands := m.operands
  entries := marked m.pending
  forPrimary := m.forPrimary || phase.forPrimary
  reductions := m.reductions

theorem Operator.level_pos (op : Operator) : 0 < op.level := by
  cases op with
  | connective c => cases c <;> decide
  | _ => simp [level]

namespace Machine

variable {m m' : Machine} {s : Scanner} {phase : Phase} {position : Nat} {op : Operator}
  {below : List Operator}

/-! ### Single steps -/

theorem top_moment_of_pending (h : m.pending = op :: below) (s : Scanner) (phase : Phase) :
    (m.moment s phase).top = .operator op := by
  rw [Moment.top, moment, h]
  rfl

theorem top_moment_of_nil (h : m.pending = []) (s : Scanner) (phase : Phase) :
    (m.moment s phase).top = .bottom := by
  rw [Moment.top, moment, h]
  rfl

theorem reduces_moment_of_pending (h : m.pending = op :: below) :
    (m.moment s phase).reduces = phase.holds op := by
  have htop := top_moment_of_pending h s phase
  cases phase with
  | read expect => rfl
  | close position =>
    change (!(m.moment s _).top.isParen && (m.moment s _).top != .bottom) = _
    rw [htop, Bool.eq_iff_iff]
    simp [Entry.isParen, Phase.holds]
  | push top =>
    change decide (top.level ≤ (m.moment s _).top.level) = _
    rw [htop]
    rfl
  | drain => simp [Moment.reduces, moment, marked, h, Phase.holds]

theorem reduces_moment_of_nil (h : m.pending = []) : (m.moment s phase).reduces = false := by
  have htop := top_moment_of_nil h s phase
  cases phase with
  | read expect => rfl
  | close position =>
    change (!(m.moment s _).top.isParen && (m.moment s _).top != .bottom) = _
    rw [htop]
    rfl
  | push top =>
    change decide (top.level ≤ (m.moment s _).top.level) = _
    rw [htop]
    exact decide_eq_false (Nat.not_le_of_lt top.level_pos)
  | drain => simp [Moment.reduces, moment, marked, h]

/-- A loop of reductions stops where the reductions of the machine do. -/
theorem reduces_moment_of_head? (h : ∀ top ∈ m.pending.head?, phase.holds top = false)
    (s : Scanner) : (m.moment s phase).reduces = false := by
  cases hpending : m.pending with
  | nil => exact reduces_moment_of_nil hpending
  | cons top below =>
    rw [reduces_moment_of_pending hpending]
    exact h top (by rw [hpending]; rfl)

/-- A reduction of the moment is one of the state. Only where the operator is a parenthesis can the
offset of the scanner be told. -/
theorem step_moment_of_holds (hpending : m.pending = op :: below) (hholds : phase.holds op = true)
    (hposition : op.category = .paren → position = s.position) :
    (m.moment s phase).step = match m.reduce position op with
      | .ok m' => .next (m'.moment s phase)
      | .error rejection => .done ⟨.error rejection.error, rejection.reductions.reverse⟩ := by
  have hreduces : (m.moment s phase).reduces = true := by
    rwa [reduces_moment_of_pending hpending]
  have hentries : (m.moment s phase).entries = .operator op :: marked below := by
    rw [moment, hpending]
    rfl
  have hoperands : (m.moment s phase).operands = m.operands := rfl
  rw [Moment.step, if_pos hreduces, Moment.reduce, hentries, hoperands, reduce]
  by_cases hparen : op.category = .paren
  · simp only [hparen, if_true, hposition hparen]
    rfl
  · simp only [hparen, if_false]
    cases build op m.operands with
    | error e => rfl
    | ok built =>
      simp only [moment, hpending, List.tail_cons]

end Machine

/-- What comes out when a part of a run may have failed. -/
def Compilation.after (part : Except Rejection Machine) (rest : Machine → Compilation) :
    Compilation :=
  match part with
  | .error rejection => ⟨.error rejection.error, rejection.reductions.reverse⟩
  | .ok m => rest m

def Machine.outcome (m : Machine) : Compilation := ⟨m.result, m.reductions.reverse⟩

theorem Compilation.ofReadings_eq (rs : List Reading) :
    ofReadings rs = .after (Machine.start.run rs) Machine.outcome := by
  rw [ofReadings]
  cases Machine.start.run rs <;> rfl

theorem Compilation.after_bind (x : Except Rejection Machine)
    (f : Machine → Except Rejection Machine) (rest : Machine → Compilation) :
    after (x >>= f) rest = after x fun m ↦ after (f m) rest := by
  cases x <;> rfl

/-! ## Runs -/

def Moment.IsReached (c : Moment) : Prop :=
  ∃ ls m s phase, Reached ls m ∧ phase.PushesBinary ∧ c = m.moment s phase

/-- A run from the moment has this outcome, and leads through states that are reached. -/
def Moment.LeadsTo (c : Moment) (outcome : Compilation) : Prop :=
  ∃ cs, Runs c cs outcome ∧ ∀ d ∈ cs, d.IsReached

namespace Moment.LeadsTo

variable {c d : Moment} {outcome : Compilation}

theorem done (hc : c.IsReached) (h : c.step = .done outcome) : c.LeadsTo outcome :=
  ⟨[c], .done h, List.forall_mem_singleton.mpr hc⟩

theorem next (hc : c.IsReached) (h : c.step = .next d) (hd : d.LeadsTo outcome) :
    c.LeadsTo outcome := by
  obtain ⟨cs, hruns, hcs⟩ := hd
  exact ⟨c :: cs, .next h hruns, List.forall_mem_cons.mpr ⟨hc, hcs⟩⟩

end Moment.LeadsTo

section

variable {ls : List Lexeme} {m : Machine} {s : Scanner} {phase : Phase} {position : Nat}
  {rest : Machine → Compilation}

/-- A loop of reductions makes those of the machine, and then goes on. -/
theorem leadsTo_of_foldlM (hphase : phase.PushesBinary)
    (hposition : ∀ op, phase.holds op = true → op.category = .paren → position = s.position)
    {ops below : List Operator} (hm : Reached ls m) (hpending : m.pending = ops ++ below)
    (hops : ∀ op ∈ ops, phase.holds op = true)
    (hrest : ∀ m', Reached ls m' → m'.pending = below → (m'.moment s phase).LeadsTo (rest m')) :
    (m.moment s phase).LeadsTo (.after (ops.foldlM (Machine.reduce position) m) rest) := by
  induction ops generalizing m with
  | nil => exact hrest m hm hpending
  | cons op ops ih =>
    obtain ⟨hop, hops⟩ := List.forall_mem_cons.mp hops
    have hstep := Machine.step_moment_of_holds hpending hop (hposition op hop)
    have hhere : (m.moment s phase).IsReached := ⟨ls, m, s, phase, hm, hphase, rfl⟩
    rw [List.foldlM_cons, Compilation.after_bind]
    cases hreduce : m.reduce position op with
    | error rejection =>
      rw [hreduce] at hstep
      exact .done hhere hstep
    | ok next =>
      rw [hreduce] at hstep
      have hzero : m.reduce 0 op = .ok next :=
        (Machine.eq_ok_iff_of_toOption (Machine.toOption_reduce position 0 m op) next).mp hreduce
      obtain ⟨-, n, left, -, hnext⟩ := Machine.reduce_eq_ok_iff.mp hreduce
      refine .next hhere hstep (ih (hm.reduce hpending hzero) ?_ hops)
      rw [hnext, hpending]
      rfl

theorem leadsTo_of_reduceWhile (hphase : phase.PushesBinary)
    (hposition : ∀ op, phase.holds op = true → op.category = .paren → position = s.position)
    (hm : Reached ls m) (hrest : ∀ m', Reached ls m' →
      (∀ top ∈ m'.pending.head?, phase.holds top = false) → (m'.moment s phase).LeadsTo (rest m')) :
    (m.moment s phase).LeadsTo (.after (m.reduceWhile phase.holds position) rest) := by
  refine leadsTo_of_foldlM hphase hposition hm List.takeWhile_append_dropWhile.symm
    (fun op ↦ List.mem_takeWhile_imp) fun m' hm' hpending ↦ hrest m' hm' fun top htop ↦ ?_
  exact eq_false_of_mem_head?_dropWhile (hpending ▸ htop)

/-- A closing parenthesis. Above the one that it closes there is no parenthesis to be met. -/
theorem leadsTo_close (hm : Reached ls m) (hrest : ∀ m',
      Reached (ls ++ [.operator .closeParen]) m' → (m'.moment s (.read false)).LeadsTo (rest m')) :
    (m.moment s (.close position)).LeadsTo (.after (m.shift .closeParen position) rest) := by
  rw [Machine.shift, Compilation.after_bind]
  have hphase := Phase.pushesBinary_close position
  refine leadsTo_of_reduceWhile hphase (fun op hop hparen ↦ ?_) hm fun m' hm' hstop ↦ ?_
  · exact absurd hparen (hphase.category_ne_paren (by rintro ⟨⟩) hop)
  · have hhere : (m'.moment s (.close position)).IsReached :=
      ⟨ls, m', s, .close position, hm', hphase, rfl⟩
    have hreduces := Machine.reduces_moment_of_head? hstop s
    cases hpending : m'.pending with
    | nil =>
      have htop := Machine.top_moment_of_nil hpending s (.close position)
      refine .done hhere ?_
      rw [Moment.step, hreduces, if_neg Bool.false_ne_true]
      change (if (m'.moment s (.close position)).top.isParen then _ else _) = _
      rw [htop]
      rfl
    | cons top below =>
      have htop := Machine.top_moment_of_pending hpending s (.close position)
      have hparen : top.category = .paren := by
        simpa [Phase.holds] using hstop top (by rw [hpending]; rfl)
      refine .next hhere ?_ (hrest _ (hm'.closeParen hpending hparen))
      rw [Moment.step, hreduces, if_neg Bool.false_ne_true]
      change (if (m'.moment s (.close position)).top.isParen then _ else _) = _
      rw [htop, Entry.isParen, hparen, if_pos BEq.rfl, Machine.moment, hpending]
      rfl

/-- A binary operator. What is reduced before it is put on the stack is no parenthesis either. -/
theorem leadsTo_push {op : Operator} (hop : op.isBinary = true) (hm : Reached ls m)
    (hrest : ∀ m', Reached (ls ++ [.operator op]) m' →
      (m'.moment s (.read true)).LeadsTo (rest m')) :
    (m.moment s (.push op)).LeadsTo (.after (m.shift op position) rest) := by
  have hphase := Phase.pushesBinary_push hop
  rw [Machine.shift_of_isBinary hop, Compilation.after_bind]
  refine leadsTo_of_reduceWhile hphase (fun top htop hparen ↦ ?_) hm fun m' hm' hstop ↦ ?_
  · exact absurd hparen (hphase.category_ne_paren (by rintro ⟨⟩) htop)
  · have hlower : ∀ top ∈ m'.pending.head?, top.level < op.level := fun top htop ↦
      Nat.lt_of_not_le (of_decide_eq_false (hstop top htop))
    refine .next ⟨ls, m', s, .push op, hm', hphase, rfl⟩ ?_ (hrest _ (hm'.binary hop hlower))
    rw [Moment.step, Machine.reduces_moment_of_head? hstop s, if_neg Bool.false_ne_true]
    simp [Machine.moment, marked, Phase.forPrimary]

theorem leadsTo_drain (hm : Reached ls m) :
    (m.moment s .drain).LeadsTo (.after (m.step (.finished s.position)) Machine.outcome) := by
  -- Here alone a parenthesis is reduced, and told with the offset where the scanner is left.
  refine leadsTo_of_reduceWhile Phase.pushesBinary_drain (fun _ _ _ ↦ rfl) hm
    fun m' hm' hstop ↦ ?_
  refine .done ⟨ls, m', s, .drain, hm', Phase.pushesBinary_drain, rfl⟩ ?_
  rw [Moment.step, Machine.reduces_moment_of_head? hstop s, if_neg Bool.false_ne_true]
  have hflag : (m'.moment s .drain).forPrimary = m'.forPrimary := Bool.or_false _
  change Progress.done (Moment.result _) = .done m'.outcome
  rw [Moment.result, hflag]
  rfl

theorem Machine.shift_moment_of_isBinary {op : Operator} (hop : op.isBinary = true) (m : Machine)
    (s₀ s : Scanner) (position : Nat) :
    Moment.shift { m.moment s₀ (.read false) with scanner := s } op position
      = m.moment s (.push op) := by
  cases op with
  | connective c | comparison c => simp [Moment.shift, moment, Phase.forPrimary]
  | openParen | closeParen | not => cases hop

theorem leadsTo_shift {s₀ : Scanner} (op : Operator) (hm : Reached ls m) (hrest : ∀ m',
      Reached (ls ++ [.operator op]) m' →
        (m'.moment s (.read op.expectsLiteral)).LeadsTo (rest m')) :
    (Moment.shift { m.moment s₀ (.read false) with scanner := s } op position).LeadsTo
      (.after (m.shift op position) rest) := by
  cases op with
  | openParen => exact hrest _ hm.openParen
  | not => exact hrest _ hm.not
  | closeParen => exact leadsTo_close hm hrest
  | connective c | comparison c =>
    rw [Machine.shift_moment_of_isBinary rfl]
    exact leadsTo_push rfl hm hrest

end

/-! ### The main loop -/

namespace Scanner

variable {s next : Scanner} {op : Operator}

theorem skipBlanks_of_atEnd (h : s.atEnd = true) : s.skipBlanks = s := by
  obtain ⟨rest, position⟩ := s
  cases rest with
  | nil => rfl
  | cons c rest => cases h

theorem atEnd_eq_false_of_skipBlanks (h : s.skipBlanks.atEnd = false) : s.atEnd = false := by
  by_contra hend
  rw [Bool.not_eq_false] at hend
  rw [skipBlanks_of_atEnd hend, hend] at h
  cases h

theorem atEnd_eq_false_of_readOperator (h : s.readOperator = some (op, next)) :
    s.atEnd = false := by
  rw [atEnd, List.isEmpty_eq_false_iff]
  intro hnil
  rw [readOperator, hnil, Operator.lookup_nil] at h
  cases h

end Scanner

namespace Moment

variable {c : Moment} {op : Operator} {next : Scanner}

/-- At the end of the text the scanner is left there, whether or not blanks were passed over. -/
theorem readOn_of_end (h : c.scanner.skipBlanks.atEnd = true) :
    c.readOn = .next { c with scanner := c.scanner.skipBlanks, phase := .drain } := by
  rw [readOn]
  by_cases hend : c.scanner.atEnd = true
  · rw [if_pos hend, Scanner.skipBlanks_of_atEnd hend]
  · rw [if_neg hend, if_pos h]

theorem readOn_of_stray (hend : c.scanner.skipBlanks.atEnd = false)
    (hnone : c.scanner.skipBlanks.readOperator = none) : c.readOn =
      c.reject (.expectedOperator c.scanner.skipBlanks.position c.scanner.skipBlanks.rest) := by
  simp only [readOn, Scanner.atEnd_eq_false_of_skipBlanks hend, hend, hnone, Bool.false_eq_true,
    if_false]

theorem readOn_of_operator (hread : c.scanner.skipBlanks.readOperator = some (op, next)) :
    c.readOn = .next ({ c with scanner := next }.shift op c.scanner.skipBlanks.position) := by
  have hend := Scanner.atEnd_eq_false_of_readOperator hread
  simp only [readOn, Scanner.atEnd_eq_false_of_skipBlanks hend, hend, hread, Bool.false_eq_true,
    if_false]

end Moment

theorem Reached.isReached_read {ls : List Lexeme} {m : Machine} (hm : Reached ls m) (s : Scanner)
    (expect : Bool) : (m.moment s (.read expect)).IsReached :=
  ⟨ls, m, s, .read expect, hm, Phase.pushesBinary_read expect, rfl⟩

/-- The main loop reads what the readings list, from any place in the text. -/
theorem leadsTo_read (expect : Bool) (s : Scanner) : ∀ {ls : List Lexeme} {m : Machine},
    Reached ls m → (m.moment s (.read expect)).LeadsTo
      (.after (m.run (readingsFrom expect s)) Machine.outcome) := by
  -- Induction on what is left to read; the state is any that is reached.
  fun_induction readingsFrom expect s with
  | case1 s ih =>
    intro ls m hm
    have hhere := hm.isReached_read s true
    have hstep : (m.moment s (.read true)).step = .next
        { m.moment s.readLiteral.2 (.read false) with
          operands := (s.readLiteral.1.map (.node <| .literal ·)).toList ++ m.operands } := rfl
    rw [Machine.run_cons, Compilation.after_bind]
    cases htoken : s.readLiteral.1 with
    | none =>
      rw [htoken] at hstep
      exact .next hhere hstep (ih hm)
    | some token =>
      rw [htoken] at hstep
      exact .next hhere hstep (ih (hm.literal token))
  | case2 _ s hexpect hend =>
    intro ls m hm
    rw [Bool.not_eq_true] at hexpect
    subst hexpect
    rw [Machine.run_cons]
    refine .next (hm.isReached_read s false) (Moment.readOn_of_end hend) ?_
    have hrun : (m.step (.finished s.skipBlanks.position) >>= fun m ↦ m.run [])
        = m.step (.finished s.skipBlanks.position) := bind_pure _
    rw [hrun]
    exact leadsTo_drain hm
  | case3 _ s hexpect hend hnone =>
    intro ls m hm
    rw [Bool.not_eq_true] at hexpect hend
    subst hexpect
    exact .done (hm.isReached_read s false) (Moment.readOn_of_stray hend hnone)
  | case4 _ s hexpect _ op next hread ih =>
    intro ls m hm
    rw [Bool.not_eq_true] at hexpect
    subst hexpect
    rw [Machine.run_cons, Compilation.after_bind]
    exact .next (hm.isReached_read s false) (Moment.readOn_of_operator hread)
      (leadsTo_shift op hm fun m' hm' ↦ ih hm')

/-- **The run on a text.** It has the outcome of the compilation, with the reductions, and leads
through states that are reached. -/
theorem leadsTo_start (text : Text) :
    (Moment.start text).LeadsTo (.ofReadings (readings text)) := by
  rw [Compilation.ofReadings_eq]
  exact leadsTo_read true (.start text) .start

end Placement
