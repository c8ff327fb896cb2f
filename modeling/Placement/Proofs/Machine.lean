import Placement.Compilation
import Placement.Proofs.Grammar

/-!
# What the machine does

The machine of the compilation works in two rhythms. Between readings it takes in a lexeme; within
a reading it reduces, as often as the lexeme asks for. Invariants do not care about the rhythm, so
`Reached` lists the single moves, a lexeme taken in or an operator reduced, and every fact about
whole compilations is an induction over it.

## Positions

Positions enter errors and nothing else. Successful runs can therefore be studied on lexemes alone,
all placed at offset zero: `compile_eq_ok_iff` says that a text compiles exactly if its readings
reach the end and the machine accepts its lexemes.
-/

namespace Placement

theorem bind_eq_ok_iff {ε α β : Type} {x : Except ε α} {f : α → Except ε β} {b : β} :
    x >>= f = .ok b ↔ ∃ a, x = .ok a ∧ f a = .ok b := by
  cases x <;> simp [bind, Except.bind]

/-! ## Building -/

/-- What a reduction builds: a negation drops whatever is below its operand, and a binary node needs
a real operand there. -/
theorem build_eq_ok_iff {op : Operator} {operands below : List Operand} {n : Node} :
    build op operands = .ok (n, below) ↔ ∃ right left, operands = .node right :: left :: below ∧
      (op = .not ∧ n = .not right ∨ ∃ l, left = .node l ∧ Node.binary op l right = some n) := by
  constructor
  · intro h
    rw [build.eq_def] at h
    split at h
    · next right left below' =>
      refine ⟨right, left, ?_⟩
      split at h
      · cases h
        exact ⟨rfl, Or.inl ⟨rfl, rfl⟩⟩
      · next l hop =>
        split at h
        · next m hbinary =>
          cases h
          exact ⟨rfl, Or.inr ⟨l, rfl, hbinary⟩⟩
        · cases h
      · cases h
    · cases h
  · rintro ⟨right, left, rfl, ⟨rfl, rfl⟩ | ⟨l, rfl, hbinary⟩⟩
    · rfl
    · cases op with
      | not => cases hbinary
      | openParen | closeParen => cases hbinary
      | connective c | comparison c => rw [build, hbinary]; simp

theorem build_append {op : Operator} {operands rest : List Operand} {n : Node}
    (h : build op operands = .ok (n, rest)) (below : List Operand) :
    build op (operands ++ below) = .ok (n, rest ++ below) := by
  obtain ⟨right, left, rfl, hbuilt⟩ := build_eq_ok_iff.mp h
  exact build_eq_ok_iff.mpr ⟨right, left, rfl, hbuilt⟩

namespace Machine

theorem reduce_eq_ok_iff {position : Nat} {m m' : Machine} {op : Operator} :
    m.reduce position op = .ok m' ↔ op.category ≠ .paren ∧ ∃ n below,
      build op m.operands = .ok (n, below) ∧
        m' = ⟨.node n :: below, m.pending.tail, m.forPrimary, ⟨op, n⟩ :: m.reductions⟩ := by
  rw [reduce]
  split
  · next hparen => simp [hparen]
  · next hparen =>
    split
    · next e herror => simp [herror]
    · next n below hbuild => simp [hparen, hbuild, eq_comm]

theorem shift_of_isBinary {op : Operator} (hop : op.isBinary = true) (m : Machine)
    (position : Nat) : m.shift op position = m.reduceWhile (op.level ≤ ·.level) position >>=
      fun m ↦ .ok { m with
        pending := op :: m.pending, forPrimary := m.forPrimary || op.isPrimaryVariant } := by
  cases op <;> first | rfl | cases hop

theorem category_ne_paren_of_foldlM {ops : List Operator} {m m' : Machine}
    (h : ops.foldlM (reduce 0) m = .ok m') : ∀ op ∈ ops, op.category ≠ .paren := by
  induction ops generalizing m with
  | nil => exact List.forall_mem_nil _
  | cons op ops ih =>
    rw [List.foldlM_cons] at h
    obtain ⟨next, hreduce, hfold⟩ := bind_eq_ok_iff.mp h
    exact List.forall_mem_cons.mpr ⟨(reduce_eq_ok_iff.mp hreduce).1, ih hfold⟩

/-- Reducing does not reach below an operator that has to stay. -/
theorem takeWhile_append_of_head? {holds : Operator → Bool} {below : List Operator}
    (h : ∀ top ∈ below.head?, holds top = false) (above : List Operator) :
    (above ++ below).takeWhile holds = above.takeWhile holds := by
  induction above with
  | nil =>
    cases below with
    | nil => rfl
    | cons top below =>
      rw [List.nil_append, List.takeWhile_cons_of_neg (by rw [h top rfl]; exact Bool.false_ne_true),
        List.takeWhile_nil]
  | cons op above ih => rw [List.cons_append, List.takeWhile_cons, List.takeWhile_cons, ih]

/-! ## Positions

Moving a lexeme changes no successful step. `toOption` forgets the error, which is all that a
position can change. -/

private theorem toOption_bind {ε α β : Type} (x : Except ε α) (f : α → Except ε β) :
    (x >>= f).toOption = x.toOption.bind fun a ↦ (f a).toOption := by
  cases x <;> rfl

private theorem toOption_foldlM {ε α β : Type} {f g : β → α → Except ε β}
    (h : ∀ b a, (f b a).toOption = (g b a).toOption) (l : List α) :
    ∀ b, (l.foldlM f b).toOption = (l.foldlM g b).toOption := by
  induction l with
  | nil => intro b; rfl
  | cons a l ih =>
    intro b
    rw [List.foldlM_cons, List.foldlM_cons, toOption_bind, toOption_bind, h]
    simp only [ih]

theorem eq_ok_iff_of_toOption {ε α : Type} {x y : Except ε α}
    (h : x.toOption = y.toOption) (a : α) : x = .ok a ↔ y = .ok a := by
  cases x <;> cases y <;> simp_all [Except.toOption]

theorem toOption_reduce (p q : Nat) (m : Machine) (op : Operator) :
    (m.reduce p op).toOption = (m.reduce q op).toOption := by
  rw [reduce, reduce]
  split <;> rfl

theorem toOption_reduceWhile (holds : Operator → Bool) (p q : Nat) (m : Machine) :
    (m.reduceWhile holds p).toOption = (m.reduceWhile holds q).toOption :=
  toOption_foldlM (toOption_reduce p q) _ m

theorem toOption_shift (p q : Nat) (m : Machine) (op : Operator) :
    (m.shift op p).toOption = (m.shift op q).toOption := by
  cases op with
  | openParen => rfl
  | not => rfl
  | closeParen =>
    rw [shift, shift, toOption_bind, toOption_bind, toOption_reduceWhile _ p q]
    congr 1
    funext m
    cases m.pending <;> rfl
  | connective c | comparison c =>
    rw [shift_of_isBinary rfl, shift_of_isBinary rfl, toOption_bind, toOption_bind,
      toOption_reduceWhile _ p q]

end Machine

/-- A lexeme as a reading, placed at the beginning of the text. -/
def Lexeme.reading : Lexeme → Reading
  | literal token => .literal (some token)
  | operator op => .operator op 0

namespace Machine

def takeIn (m : Machine) (ls : List Lexeme) : Except Rejection Machine :=
  m.run (ls.map Lexeme.reading)

def reduceAll (m : Machine) : Except Rejection Machine := m.pending.foldlM (reduce 0) m

theorem run_cons (m : Machine) (r : Reading) (rs : List Reading) :
    m.run (r :: rs) = m.step r >>= fun m ↦ m.run rs := List.foldlM_cons

theorem takeIn_cons (m : Machine) (l : Lexeme) (ls : List Lexeme) :
    m.takeIn (l :: ls) = m.step l.reading >>= fun m ↦ m.takeIn ls := List.foldlM_cons

theorem takeIn_append (m : Machine) (ls ls' : List Lexeme) :
    m.takeIn (ls ++ ls') = m.takeIn ls >>= fun m ↦ m.takeIn ls' := by
  rw [takeIn, List.map_append]
  exact List.foldlM_append

private theorem toOption_run_of_reads {rs : List Reading} {ls : List Lexeme} (h : Reads rs ls)
    (m : Machine) : (m.run rs).toOption = (m.takeIn ls >>= reduceAll).toOption := by
  induction h generalizing m with
  | finished position =>
    -- The end is no lexeme: there all that is pending is reduced.
    have hall : m.pending.takeWhile (fun _ ↦ true) = m.pending := by
      rw [List.takeWhile_eq_self_iff]
      exact fun _ _ ↦ rfl
    have hstep : m.step (.finished position) = m.pending.foldlM (reduce position) m := by
      rw [step, reduceWhile, hall]
    calc (m.run [.finished position]).toOption
        = (m.pending.foldlM (reduce position) m).toOption := by
          rw [run_cons, hstep]
          exact congrArg Except.toOption (bind_pure _)
      _ = m.reduceAll.toOption := toOption_foldlM (toOption_reduce position 0) _ m
  | none h ih => exact ih m
  | literal token h ih =>
    rw [takeIn_cons, run_cons, bind_assoc, toOption_bind, toOption_bind]
    simp only [ih]
    rfl
  | operator op position h ih =>
    rw [takeIn_cons, run_cons, bind_assoc, toOption_bind, toOption_bind]
    simp only [ih]
    rw [step, toOption_shift position 0]
    rfl

/-- A run over readings that reach the end takes their lexemes in and reduces what is left. -/
theorem run_eq_ok_iff {rs : List Reading} {ls : List Lexeme} (h : Reads rs ls) (m m' : Machine) :
    m.run rs = .ok m' ↔ m.takeIn ls >>= reduceAll = .ok m' :=
  eq_ok_iff_of_toOption (toOption_run_of_reads h m) m'

theorem run_stray_ne_ok (m m' : Machine) (before : List Reading) (position : Nat) (found : Text) :
    m.run (before ++ [.stray position found]) ≠ .ok m' := by
  intro h
  rw [run, List.foldlM_append] at h
  cases hbefore : before.foldlM step m with
  | error e => rw [hbefore] at h; cases h
  | ok m'' => rw [hbefore] at h; cases h

/-- A run over the readings of a text succeeds only if they reach its end. -/
theorem run_readings_eq_ok_iff {text : Text} {m : Machine} : start.run (readings text) = .ok m ↔
    Reads (readings text) (lexemes text) ∧
      start.takeIn (lexemes text) >>= reduceAll = .ok m := by
  refine ⟨fun h ↦ ?_, fun ⟨hreads, h⟩ ↦ (run_eq_ok_iff hreads _ _).mpr h⟩
  rcases reads_or_stray true (.start text) with hreads | ⟨before, position, found, hstray⟩
  · exact ⟨hreads, (run_eq_ok_iff hreads _ _).mp h⟩
  · rw [readings, hstray] at h
    exact absurd h (run_stray_ne_ok _ _ _ _ _)

theorem result_eq_ok_iff {m : Machine} {e : Expression} :
    m.result = .ok e ↔ m.operands = [.node e.root] ∧ m.forPrimary = e.forPrimary := by
  obtain ⟨root, forPrimary⟩ := e
  rw [result]
  split
  · next n hone => simp [hone]
  · next hone => simp [hone]
  · next hne _ =>
    constructor
    · intro h
      cases h
    · rintro ⟨hone, -⟩
      exact absurd hone (hne root)

end Machine

/-! ## Compiling -/

/-- **Acceptance.** A text that is more than blanks compiles exactly if its readings reach the end
and the machine, given its lexemes, is left with one operand, the tree. -/
theorem compile_eq_ok_iff {text : Text} {e : Expression} (h : text.trimBlanks ≠ []) :
    compile text = .ok e ↔ Reads (readings text) (lexemes text) ∧
      ∃ m, Machine.start.takeIn (lexemes text) >>= Machine.reduceAll = .ok m ∧
        m.operands = [.node e.root] ∧ m.forPrimary = e.forPrimary := by
  have hrun : compile text = .ok e ↔
      ∃ m, Machine.start.run (readings text) = .ok m ∧ m.result = .ok e := by
    rw [compile, Compilation.ofText, if_neg (by rwa [List.isEmpty_iff]), Compilation.ofReadings]
    cases Machine.start.run (readings text) with
    | error rejection => simp
    | ok m => simp
  rw [hrun]
  constructor
  · rintro ⟨m, hm, hresult⟩
    obtain ⟨hreads, htake⟩ := Machine.run_readings_eq_ok_iff.mp hm
    exact ⟨hreads, m, htake, Machine.result_eq_ok_iff.mp hresult⟩
  · rintro ⟨hreads, m, hm, hresult⟩
    exact ⟨m, Machine.run_readings_eq_ok_iff.mpr ⟨hreads, hm⟩,
      Machine.result_eq_ok_iff.mpr hresult⟩

/-! ## Moves

The states that the machine passes through, with the lexemes taken in so far. A binary operator is
taken in when everything that binds at least as tightly has been reduced, and a closing parenthesis
when the top of the pending operators is a parenthesis again. -/

inductive Reached : List Lexeme → Machine → Prop
  | start : Reached [] .start
  | literal {ls : List Lexeme} {m : Machine} (h : Reached ls m) (token : Text) :
      Reached (ls ++ [.literal token]) { m with operands := .node (.literal token) :: m.operands }
  | openParen {ls : List Lexeme} {m : Machine} (h : Reached ls m) :
      Reached (ls ++ [.operator .openParen]) { m with pending := .openParen :: m.pending }
  | closeParen {ls : List Lexeme} {m : Machine} (h : Reached ls m) {op : Operator}
      {below : List Operator} (hpending : m.pending = op :: below) (hop : op.category = .paren) :
      Reached (ls ++ [.operator .closeParen]) { m with pending := below }
  | not {ls : List Lexeme} {m : Machine} (h : Reached ls m) :
      Reached (ls ++ [.operator .not])
        { m with pending := .not :: m.pending, operands := .placeholder :: m.operands }
  | binary {ls : List Lexeme} {m : Machine} (h : Reached ls m) {op : Operator}
      (hop : op.isBinary = true) (hlevel : ∀ top ∈ m.pending.head?, top.level < op.level) :
      Reached (ls ++ [.operator op])
        { m with pending := op :: m.pending, forPrimary := m.forPrimary || op.isPrimaryVariant }
  | reduce {ls : List Lexeme} {m m' : Machine} (h : Reached ls m) {op : Operator}
      {below : List Operator} (hpending : m.pending = op :: below)
      (hreduce : m.reduce 0 op = .ok m') : Reached ls m'

namespace Reached

variable {ls : List Lexeme} {m m' : Machine}

theorem foldlM_reduce (h : Reached ls m) {ops below : List Operator}
    (hpending : m.pending = ops ++ below) (hfold : ops.foldlM (Machine.reduce 0) m = .ok m') :
    Reached ls m' ∧ m'.pending = below := by
  induction ops generalizing m with
  | nil =>
    cases hfold
    exact ⟨h, hpending⟩
  | cons op ops ih =>
    rw [List.foldlM_cons] at hfold
    obtain ⟨next, hreduce, hfold⟩ := bind_eq_ok_iff.mp hfold
    refine ih (h.reduce hpending hreduce) ?_ hfold
    obtain ⟨-, n, rest, -, rfl⟩ := Machine.reduce_eq_ok_iff.mp hreduce
    rw [hpending]
    rfl

/-- Reducing stops at an operator that has to stay. -/
theorem reduceWhile (h : Reached ls m) {holds : Operator → Bool}
    (hwhile : m.reduceWhile holds 0 = .ok m') :
    Reached ls m' ∧ ∀ top ∈ m'.pending.head?, holds top = false := by
  obtain ⟨hreached, hpending⟩ := h.foldlM_reduce List.takeWhile_append_dropWhile.symm hwhile
  exact ⟨hreached, fun top htop ↦ eq_false_of_mem_head?_dropWhile (hpending ▸ htop)⟩

theorem step (h : Reached ls m) {l : Lexeme} (hstep : m.step l.reading = .ok m') :
    Reached (ls ++ [l]) m' := by
  cases l with
  | literal token =>
    cases hstep
    exact h.literal token
  | operator op =>
    change m.shift op 0 = .ok m' at hstep
    cases op with
    | openParen =>
      cases hstep
      exact h.openParen
    | not =>
      cases hstep
      exact h.not
    | closeParen =>
      rw [Machine.shift] at hstep
      obtain ⟨next, hwhile, hrest⟩ := bind_eq_ok_iff.mp hstep
      obtain ⟨hnext, hstop⟩ := h.reduceWhile hwhile
      split at hrest
      · cases hrest
      · next op below htop =>
        -- What the reductions stop at is a parenthesis.
        cases hrest
        have hop := hstop op (by rw [htop]; rfl)
        exact hnext.closeParen htop (by simpa using hop)
    | connective c | comparison c =>
      rw [Machine.shift_of_isBinary rfl] at hstep
      obtain ⟨next, hwhile, hrest⟩ := bind_eq_ok_iff.mp hstep
      obtain ⟨hnext, hstop⟩ := h.reduceWhile hwhile
      cases hrest
      exact hnext.binary rfl fun top htop ↦ by simpa using hstop top htop

theorem takeIn (h : Reached ls m) {ls' : List Lexeme} (htake : m.takeIn ls' = .ok m') :
    Reached (ls ++ ls') m' := by
  induction ls' generalizing ls m with
  | nil =>
    cases htake
    rwa [List.append_nil]
  | cons l ls' ih =>
    rw [Machine.takeIn_cons] at htake
    obtain ⟨next, hstep, htake⟩ := bind_eq_ok_iff.mp htake
    have hnext := ih (h.step hstep) htake
    rwa [List.append_assoc] at hnext

theorem of_takeIn_reduceAll (h : Machine.start.takeIn ls >>= Machine.reduceAll = .ok m) :
    Reached ls m ∧ m.pending = [] := by
  obtain ⟨next, htake, hall⟩ := bind_eq_ok_iff.mp h
  exact (Reached.start.takeIn htake).foldlM_reduce (List.append_nil _).symm hall

end Reached

/-- **Where a compilation ends.** A text that is more than blanks compiles only if the machine, on
its lexemes, reaches a state with nothing pending and the tree as its only operand. -/
theorem exists_reached_of_compile {text : Text} {e : Expression} (hblank : text.trimBlanks ≠ [])
    (h : compile text = .ok e) : ∃ m, Reached (lexemes text) m ∧ m.pending = [] ∧
      m.operands = [.node e.root] ∧ m.forPrimary = e.forPrimary := by
  obtain ⟨-, m, hm, hresult⟩ := (compile_eq_ok_iff hblank).mp h
  obtain ⟨hreached, hpending⟩ := Reached.of_takeIn_reduceAll hm
  exact ⟨m, hreached, hpending, hresult⟩

end Placement
