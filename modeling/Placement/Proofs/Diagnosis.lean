import Placement.Proofs.Offsets
import Placement.Proofs.Precedence

/-!
# What an error tells

A text that is rejected is rejected with a reason, and the reason is true of the text: the offset is
that of the parenthesis or of the stray text, the operator was read, the count is that of operands
too many or too few. `ParseError.IsTrueOf` says for each kind of error what this means, in terms of
the readings taken in up to the error (`Machine.examined`), and `isTrueOf_of_compile_eq_error` that
it always holds.

## Where errors come from

A run fails on one reading, and on the way it took in the others, so the state before that reading
is one that the machine reaches (`reached_of_scanned`) and all its invariants hold there. Within the
reading it is one reduction that fails, again in a state that is reached
(`Reached.exists_reduce_eq_error`). What is left is to look at that state.

Two invariants are needed beyond the counts. Pending operators were read (`Reached.mem_of_pending`).
And a placeholder lies on top only while a negation is pending (`Reached.not_mem_pending`), so at
the end, when nothing is, a single operand is never a placeholder.
-/

namespace Placement

/-! ## Runs that fail -/

namespace Machine

/-- The readings that a run takes in: all of them, or those up to the first that it fails on. -/
def examined (m : Machine) : List Reading → List Reading
  | [] => []
  | r :: rs =>
    r :: match m.step r with
      | .ok next => next.examined rs
      | .error _ => []

variable {m m' : Machine} {rs : List Reading} {rejection : Rejection}

theorem examined_of_run_eq_ok (h : m.run rs = .ok m') : m.examined rs = rs := by
  induction rs generalizing m with
  | nil => rfl
  | cons r rs ih =>
    rw [run_cons] at h
    obtain ⟨next, hstep, hrun⟩ := bind_eq_ok_iff.mp h
    rw [examined, hstep]
    exact congrArg (r :: ·) (ih hrun)

theorem exists_step_of_run_eq_error (h : m.run rs = .error rejection) : ∃ before r after next,
    rs = before ++ r :: after ∧ m.examined rs = before ++ [r] ∧ m.run before = .ok next ∧
      next.step r = .error rejection := by
  induction rs generalizing m with
  | nil => cases h
  | cons r rs ih =>
    rw [run_cons] at h
    rw [examined]
    cases hstep : m.step r with
    | error e =>
      rw [hstep] at h
      cases h
      exact ⟨[], r, rs, m, rfl, rfl, rfl, hstep⟩
    | ok next =>
      rw [hstep] at h
      obtain ⟨before, r', after, last, hrs, hexamined, hrun, hfail⟩ := ih h
      refine ⟨r :: before, r', after, last, congrArg (r :: ·) hrs, congrArg (r :: ·) hexamined,
        ?_, hfail⟩
      rw [run_cons, hstep]
      exact hrun

theorem run_concat (m : Machine) (rs : List Reading) (r : Reading) :
    m.run (rs ++ [r]) = m.run rs >>= fun m ↦ m.step r := by
  rw [run, List.foldlM_append]
  refine congrArg (m.run rs >>= ·) (funext fun next ↦ ?_)
  exact bind_pure _

theorem error_of_build {op : Operator} {operands : List Operand} {e : ParseError}
    (h : build op operands = .error e) : e = .missingOperand op := by
  rw [build.eq_def] at h
  split at h
  · split at h
    · cases h
    · split at h <;> cases h
      rfl
    · cases h
      rfl
  · cases h
    rfl

theorem error_of_reduce {position : Nat} {op : Operator}
    (h : m.reduce position op = .error rejection) :
    (op.category = .paren ∧ rejection.error = .unbalancedParenthesis position) ∨
      (op.category ≠ .paren ∧ rejection.error = .missingOperand op) := by
  rw [reduce] at h
  split at h
  · next hparen =>
    cases h
    exact Or.inl ⟨hparen, rfl⟩
  · next hparen =>
    split at h
    · next e hbuild =>
      cases h
      exact Or.inr ⟨hparen, error_of_build hbuild⟩
    · cases h

end Machine

namespace Reached

variable {ls : List Lexeme} {m m' : Machine} {rejection : Rejection}

/-! ## States with an offset

`Reached` is about lexemes at no particular place. Where a step succeeds the place does not
matter. -/

/-- A sequence of reductions fails with one of them, in a state that is reached. -/
private theorem exists_of_foldlM_eq_error {position : Nat} {ops below : List Operator}
    (h : Reached ls m) (hpending : m.pending = ops ++ below)
    (hfold : ops.foldlM (Machine.reduce position) m = .error rejection) :
    ∃ m' op below', Reached ls m' ∧ m'.pending = op :: below' ∧ op ∈ ops ∧
      m'.reduce position op = .error rejection := by
  induction ops generalizing m with
  | nil => cases hfold
  | cons op ops ih =>
    rw [List.foldlM_cons] at hfold
    cases hreduce : m.reduce position op with
    | error e =>
      rw [hreduce] at hfold
      cases hfold
      exact ⟨m, op, ops ++ below, h, hpending, List.mem_cons_self, hreduce⟩
    | ok next =>
      rw [hreduce] at hfold
      have hzero : m.reduce 0 op = .ok next :=
        (Machine.eq_ok_iff_of_toOption (Machine.toOption_reduce position 0 m op) next).mp hreduce
      obtain ⟨-, n, rest, -, hnext⟩ := Machine.reduce_eq_ok_iff.mp hzero
      obtain ⟨m', op', below', hm', hpending', hmem, hfail⟩ := ih (h.reduce hpending hzero)
        (by rw [hnext, hpending]; rfl) hfold
      exact ⟨m', op', below', hm', hpending', List.mem_cons_of_mem op hmem, hfail⟩

theorem exists_reduce_eq_error {holds : Operator → Bool} {position : Nat} (h : Reached ls m)
    (hwhile : m.reduceWhile holds position = .error rejection) :
    ∃ m' op below, Reached ls m' ∧ m'.pending = op :: below ∧ holds op = true ∧
      m'.reduce position op = .error rejection := by
  obtain ⟨m', op, below, hm', hpending, hmem, hfail⟩ :=
    h.exists_of_foldlM_eq_error List.takeWhile_append_dropWhile.symm hwhile
  exact ⟨m', op, below, hm', hpending, List.mem_takeWhile_imp hmem, hfail⟩

theorem reduceWhile_at {holds : Operator → Bool} {position : Nat} (h : Reached ls m)
    (hwhile : m.reduceWhile holds position = .ok m') :
    Reached ls m' ∧ ∀ top ∈ m'.pending.head?, holds top = false :=
  h.reduceWhile ((Machine.eq_ok_iff_of_toOption
    (Machine.toOption_reduceWhile holds position 0 m) m').mp hwhile)

end Reached

/-- The states of a run over the readings of a text are reached with their lexemes. -/
theorem reached_of_scanned {text : Text} {rs : List Reading} {expect : Bool} {s : Scanner}
    (h : Scanned text rs expect s) : ∀ {m : Machine}, Machine.start.run rs = .ok m →
      Reached (rs.filterMap Reading.lexeme?) m := by
  induction h with
  | start =>
    intro m hrun
    cases hrun
    exact .start
  | @literal rs s h ih =>
    intro m hrun
    rw [Machine.run_concat] at hrun
    obtain ⟨m₀, hrun₀, hstep⟩ := bind_eq_ok_iff.mp hrun
    rw [List.filterMap_append]
    cases htoken : s.readLiteral.1 with
    | none =>
      rw [htoken] at hstep
      cases hstep
      rw [show [Reading.literal none].filterMap Reading.lexeme? = [] from rfl, List.append_nil]
      exact ih hrun₀
    | some token =>
      rw [htoken] at hstep
      cases hstep
      exact (ih hrun₀).literal token
  | @operator rs s next op h hread ih =>
    intro m hrun
    rw [Machine.run_concat] at hrun
    obtain ⟨m₀, hrun₀, hstep⟩ := bind_eq_ok_iff.mp hrun
    rw [List.filterMap_append]
    exact (ih hrun₀).step ((Machine.eq_ok_iff_of_toOption
      (Machine.toOption_shift s.skipBlanks.position 0 m₀ op) m).mp hstep)

/-! ## Two more invariants -/

namespace Reached

variable {ls : List Lexeme} {m : Machine}

theorem mem_of_pending (h : Reached ls m) : ∀ op ∈ m.pending, .operator op ∈ ls := by
  induction h with
  | start => exact List.forall_mem_nil _
  | literal h token ih => exact fun op hop ↦ List.mem_append_left _ (ih op hop)
  | openParen h ih | not h ih | binary h hop hlevel ih =>
    refine List.forall_mem_cons.mpr ⟨List.mem_append_right _ List.mem_cons_self, fun op hop ↦ ?_⟩
    exact List.mem_append_left _ (ih op hop)
  | closeParen h hpending hop ih =>
    rw [hpending] at ih
    exact fun op hop ↦ List.mem_append_left _ (ih op (List.mem_cons_of_mem _ hop))
  | reduce h hpending hreduce ih =>
    obtain ⟨-, n, rest, -, rfl⟩ := Machine.reduce_eq_ok_iff.mp hreduce
    exact fun op hop ↦ ih op (List.mem_of_mem_tail hop)

/-- A placeholder lies on top only while a negation is pending. -/
theorem not_mem_pending (h : Reached ls m) :
    .placeholder ∈ m.operands.head? → .not ∈ m.pending := by
  induction h with
  | start | literal h token ih => exact fun htop ↦ by cases htop
  | openParen h ih | binary h hop hlevel ih =>
    exact fun htop ↦ List.mem_cons_of_mem _ (ih htop)
  | not h ih => exact fun _ ↦ List.mem_cons_self
  | @closeParen ls m h op below hpending hop ih =>
    intro htop
    rcases List.mem_cons.mp (hpending ▸ ih htop) with rfl | hbelow
    · cases hop
    · exact hbelow
  | reduce h hpending hreduce ih =>
    obtain ⟨-, n, rest, -, rfl⟩ := Machine.reduce_eq_ok_iff.mp hreduce
    exact fun htop ↦ by cases htop

theorem count_openParen (h : Reached ls m) : ls.count (.operator .openParen)
    = ls.count (.operator .closeParen) + m.depth := by
  have hclosed : ∀ depth, Balanced depth (List.replicate depth (.operator .closeParen)) := by
    intro depth
    induction depth with
    | zero => rfl
    | succ depth ih => exact ⟨depth, rfl, ih⟩
  have hcount := (h.balanced _ (hclosed m.depth)).count_eq
  simpa [List.count_append, List.count_replicate] using hcount

end Reached

/-! ## What each error means -/

/-- What an error says about a text, of which these readings were taken in up to the error. -/
def ParseError.IsTrueOf (text : Text) (read : List Reading) : ParseError → Prop
  -- Either the last thing read closes what nothing opened, or something open is left at the end.
  | unbalancedParenthesis position =>
    (∃ before after, read = before ++ [.operator .closeParen position] ∧
      text.dropBytes position = some (')' :: after) ∧
      Balanced 0 (before.filterMap Reading.lexeme?)) ∨
    position = text.byteLength ∧
      (read.filterMap Reading.lexeme?).count (.operator .closeParen)
        < (read.filterMap Reading.lexeme?).count (.operator .openParen)
  | missingOperand op =>
    .operator op ∈ read.filterMap Reading.lexeme? ∧ op.category ≠ .paren
  | expectedOperator position found =>
    text.dropBytes position = some found ∧ found ≠ [] ∧
      (∀ c ∈ found.head?, isBlank c = false) ∧ (∀ op : Operator, ¬op.symbol <+: found) ∧
      ∃ before front gap,
        read = before ++ [.operator .closeParen (Text.byteLength front), .stray position found] ∧
        AllBlank gap ∧ text = front ++ (')' :: gap) ++ found ∧
        position = Text.byteLength (front ++ (')' :: gap))
  | danglingOperands count =>
    Balanced 0 (read.filterMap Reading.lexeme?) ∧
      count + (read.filterMap Reading.lexeme?).countP Lexeme.isBinary
        = (tokens (read.filterMap Reading.lexeme?)).length ∧
      count ≠ 1

namespace Reached

variable {ls : List Lexeme} {m : Machine} {rejection : Rejection}

/-- An operator that is short of operands was read, whatever is read when this shows. -/
private theorem isTrueOf_missingOperand (h : Reached ls m) {op : Operator} {below : List Operator}
    (hpending : m.pending = op :: below) (hop : op.category ≠ .paren) {text : Text}
    {read : List Reading} (hread : ls ⊆ read.filterMap Reading.lexeme?) :
    (ParseError.missingOperand op).IsTrueOf text read :=
  ⟨hread (h.mem_of_pending op (by rw [hpending]; exact List.mem_cons_self)), hop⟩

theorem balanced_of_pending_eq_nil (h : Reached ls m) (hpending : m.pending = []) :
    Balanced 0 ls := by
  have hbalanced := h.balanced [] (by rw [Machine.depth, hpending]; rfl)
  rwa [List.append_nil] at hbalanced

end Reached

namespace Machine

variable {text : Text} {before : List Reading} {m : Machine} {rejection : Rejection}

theorem isTrueOf_of_shift_eq_error (hm : Reached (before.filterMap Reading.lexeme?) m)
    {op : Operator} {position : Nat} (hmem : Reading.operator op position ∈ readings text)
    (h : m.shift op position = .error rejection) :
    rejection.error.IsTrueOf text (before ++ [.operator op position]) := by
  have hread : before.filterMap Reading.lexeme?
      ⊆ (before ++ [Reading.operator op position]).filterMap Reading.lexeme? := by
    rw [List.filterMap_append]
    exact List.subset_append_left _ _
  -- A reduction on the way fails on no parenthesis, since none is reduced.
  have hreduce : ∀ {holds : Operator → Bool}, (∀ op, holds op = true → op.category ≠ .paren) →
      m.reduceWhile holds position = .error rejection →
      rejection.error.IsTrueOf text (before ++ [.operator op position]) := by
    intro holds hholds hwhile
    obtain ⟨m', top, below, hm', hpending, htop, hfail⟩ := hm.exists_reduce_eq_error hwhile
    rcases error_of_reduce hfail with ⟨hparen, -⟩ | ⟨hparen, herror⟩
    · exact absurd hparen (hholds top htop)
    · rw [herror]
      exact hm'.isTrueOf_missingOperand hpending hparen hread
  cases op with
  | openParen | not => cases h
  | closeParen =>
    rw [shift] at h
    cases hwhile : m.reduceWhile (·.category != .paren) position with
    | error e =>
      rw [hwhile] at h
      cases h
      exact hreduce (fun top htop ↦ by simpa using htop) hwhile
    | ok next =>
      rw [hwhile] at h
      obtain ⟨hnext, -⟩ := hm.reduceWhile_at hwhile
      dsimp only [bind, Except.bind] at h
      split at h
      · next hnil =>
        cases h
        obtain ⟨after, hdrop⟩ := exists_dropBytes_of_operator_mem hmem
        exact Or.inl ⟨before, after, rfl, hdrop, hnext.balanced_of_pending_eq_nil hnil⟩
      · cases h
  | connective c | comparison c =>
    rw [shift_of_isBinary rfl] at h
    cases hwhile : m.reduceWhile _ position with
    | ok next =>
      rw [hwhile] at h
      cases h
    | error e =>
      rw [hwhile] at h
      cases h
      refine hreduce (fun top htop ↦ Operator.two_le_level_iff.mp ?_) hwhile
      refine le_trans (Operator.two_le_level_iff.mpr ?_) (of_decide_eq_true htop)
      exact Operator.category_ne_paren_of_isBinary rfl

theorem isTrueOf_of_finish_eq_error (hm : Reached (before.filterMap Reading.lexeme?) m)
    (h : m.step (.finished text.byteLength) = .error rejection) :
    rejection.error.IsTrueOf text (before ++ [.finished text.byteLength]) := by
  have hread : (before ++ [Reading.finished text.byteLength]).filterMap Reading.lexeme?
      = before.filterMap Reading.lexeme? := by
    rw [List.filterMap_append]
    exact List.append_nil _
  obtain ⟨m', top, below, hm', hpending, -, hfail⟩ := hm.exists_reduce_eq_error h
  rcases error_of_reduce hfail with ⟨hparen, herror⟩ | ⟨hparen, herror⟩
  · -- The parenthesis that stops the reductions is still open.
    rw [herror]
    refine Or.inr ⟨rfl, ?_⟩
    have hdepth : 0 < m'.depth := by
      rw [depth, hpending, List.countP_cons_of_pos (by simp [hparen])]
      exact Nat.succ_pos _
    rw [hread, hm'.count_openParen]
    omega
  · rw [herror]
    exact hm'.isTrueOf_missingOperand hpending hparen (by rw [hread]; exact List.Subset.refl _)

theorem isTrueOf_expectedOperator {s : Scanner} (hs : Scanned text before false s)
    (hend : s.skipBlanks.atEnd = false) (hnone : s.skipBlanks.readOperator = none) :
    (ParseError.expectedOperator s.skipBlanks.position s.skipBlanks.rest).IsTrueOf text
      (before ++ [.stray s.skipBlanks.position s.skipBlanks.rest]) := by
  obtain ⟨before', front, gap, rfl, hgap, htext, hposition⟩ := hs.exists_closeParen hend hnone
  refine ⟨hs.dropBytes_eq, ?_, fun c hc ↦ s.isBlank_of_mem_head?_skipBlanks hc, ?_,
    before', front, gap, by rw [List.append_assoc]; rfl, hgap, htext, hposition⟩
  · rwa [Scanner.atEnd, List.isEmpty_eq_false_iff] at hend
  · exact Operator.lookup_eq_none_iff.mp (Option.map_eq_none_iff.mp hnone)

theorem isTrueOf_of_result_eq_error {read : List Reading} {error : ParseError}
    (hm : Reached (read.filterMap Reading.lexeme?) m) (hpending : m.pending = [])
    (h : m.result = .error error) : error.IsTrueOf text read := by
  have hcount : m.operands.length + (read.filterMap Reading.lexeme?).countP Lexeme.isBinary
      = (tokens (read.filterMap Reading.lexeme?)).length := by
    have hlength := hm.length_operands
    rwa [waiting, hpending] at hlength
  rw [result] at h
  split at h
  · cases h
  · next hone =>
    -- A placeholder would have its negation pending.
    have hnot := hm.not_mem_pending (by rw [hone]; rfl)
    rw [hpending] at hnot
    cases hnot
  · next hnode hplaceholder =>
    cases h
    refine ⟨hm.balanced_of_pending_eq_nil hpending, hcount, fun hlength ↦ ?_⟩
    obtain ⟨x, hx⟩ := List.length_eq_one_iff.mp hlength
    cases x with
    | placeholder => exact hplaceholder hx
    | node n => exact hnode n hx

theorem isTrueOf_of_step_eq_error {expect : Bool} {s : Scanner} {r : Reading}
    {after : List Reading} (hs : Scanned text before expect s)
    (hrest : readingsFrom expect s = r :: after) (hmem : r ∈ readings text)
    (hm : Reached (before.filterMap Reading.lexeme?) m) (hfail : m.step r = .error rejection) :
    rejection.error.IsTrueOf text (before ++ [r]) := by
  cases expect with
  | true =>
    rw [readingsFrom_true] at hrest
    obtain ⟨rfl, -⟩ := List.cons.inj hrest
    cases htoken : s.readLiteral.1 <;> rw [htoken] at hfail <;> cases hfail
  | false =>
    rcases readingsFrom_false_cases s with ⟨hend, hlast⟩ | ⟨hend, hnone, hlast⟩ |
      ⟨op, next, hread, hmore⟩
    · rw [hlast] at hrest
      obtain ⟨rfl, -⟩ := List.cons.inj hrest
      rw [hs.position_eq_byteLength hend] at hfail ⊢
      exact isTrueOf_of_finish_eq_error hm hfail
    · rw [hlast] at hrest
      obtain ⟨rfl, -⟩ := List.cons.inj hrest
      cases hfail
      exact isTrueOf_expectedOperator hs hend hnone
    · rw [hmore] at hrest
      obtain ⟨rfl, -⟩ := List.cons.inj hrest
      exact isTrueOf_of_shift_eq_error hm hmem hfail

end Machine

/-- **Errors tell the truth.** Whatever text is rejected, what its error says is true of the text
and of the readings taken in up to the error, which are a part of all its readings. -/
theorem isTrueOf_of_compile_eq_error {text : Text} {error : ParseError}
    (h : compile text = .error error) :
    Machine.start.examined (readings text) <+: readings text ∧
      error.IsTrueOf text (Machine.start.examined (readings text)) := by
  rw [compile, Compilation.ofText] at h
  split at h
  · cases h
  · rw [Compilation.ofReadings] at h
    cases hrun : Machine.start.run (readings text) with
    | ok m =>
      rw [hrun] at h
      obtain ⟨-, htake⟩ := Machine.run_readings_eq_ok_iff.mp hrun
      obtain ⟨hm, hpending⟩ := Reached.of_takeIn_reduceAll htake
      rw [Machine.examined_of_run_eq_ok hrun]
      exact ⟨List.prefix_rfl, Machine.isTrueOf_of_result_eq_error hm hpending h⟩
    | error rejection =>
      rw [hrun] at h
      cases h
      obtain ⟨before, r, after, m, hsplit, hexamined, hbefore, hfail⟩ :=
        Machine.exists_step_of_run_eq_error hrun
      obtain ⟨expect, s, hs, hrest⟩ := exists_scanned hsplit (List.cons_ne_nil r after)
      have hmem : r ∈ readings text := by
        rw [hsplit]
        exact List.mem_append_right _ List.mem_cons_self
      rw [hexamined]
      exact ⟨⟨after, by rw [hsplit, List.append_assoc]; rfl⟩,
        Machine.isTrueOf_of_step_eq_error hs hrest hmem (reached_of_scanned hs hbefore) hfail⟩

theorem isTrueOf_expectedOperator_bytes :
    compile "(é) ü".toList = .error (.expectedOperator 5 ['ü']) ∧
      (ParseError.expectedOperator 5 ['ü']).IsTrueOf "(é) ü".toList
        [.literal none, .operator .openParen 0, .literal (some ['é']), .operator .closeParen 3,
          .stray 5 ['ü']] := by
  have hcompile : compile "(é) ü".toList = .error (.expectedOperator 5 ['ü']) := by decide +kernel
  have hexamined : Machine.start.examined (readings "(é) ü".toList)
      = [.literal none, .operator .openParen 0, .literal (some ['é']), .operator .closeParen 3,
        .stray 5 ['ü']] := by decide +kernel
  exact ⟨hcompile, hexamined ▸ (isTrueOf_of_compile_eq_error hcompile).2⟩

end Placement
