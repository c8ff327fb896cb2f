import Placement.Proofs.Precedence

/-!
# Constraints inside constraints

Accepted texts can be put together: in parentheses each of them keeps its own tree, whatever stands
around it. This holds of all texts that are accepted, also of those that are no sentences, so it
does not come out of the grammar. What is behind it is a frame property of the machine.

## The frame

The machine looks at the top of its stacks only, and a run that succeeds on empty stacks never
reaches for more than it put there itself. So the same run goes through on top of any other state
(`Machine.onTop`), as long as nothing reduces what is pending below. A parenthesis sees to that: it
is looser than every operator, and only a closing parenthesis that the text itself does not match
could take it away, which alone would have been an error.
-/

namespace Placement

/-! ## The machine on top of another state -/

/-- The state `m` with that of an inner run on top of it. -/
def Machine.onTop (inner m : Machine) : Machine where
  operands := inner.operands ++ m.operands
  pending := inner.pending ++ m.pending
  forPrimary := m.forPrimary || inner.forPrimary
  reductions := inner.reductions ++ m.reductions

namespace Machine

variable {inner inner' m : Machine}

theorem start_onTop (m : Machine) : start.onTop m = m := by
  simp [onTop, start]

theorem reduce_onTop {op : Operator} {below : List Operator}
    (hpending : inner.pending = op :: below) (h : inner.reduce 0 op = .ok inner') :
    (inner.onTop m).reduce 0 op = .ok (inner'.onTop m) ∧ inner'.pending = below := by
  obtain ⟨hparen, n, rest, hbuild, rfl⟩ := reduce_eq_ok_iff.mp h
  refine ⟨reduce_eq_ok_iff.mpr ⟨hparen, n, _, build_append hbuild m.operands, ?_⟩, ?_⟩
  · simp [onTop, hpending]
  · rw [hpending, List.tail_cons]

theorem foldlM_reduce_onTop {ops below : List Operator} (hpending : inner.pending = ops ++ below)
    (h : ops.foldlM (reduce 0) inner = .ok inner') :
    ops.foldlM (reduce 0) (inner.onTop m) = .ok (inner'.onTop m) ∧ inner'.pending = below := by
  induction ops generalizing inner with
  | nil =>
    cases h
    exact ⟨rfl, hpending⟩
  | cons op ops ih =>
    rw [List.foldlM_cons] at h ⊢
    obtain ⟨next, hreduce, hfold⟩ := bind_eq_ok_iff.mp h
    obtain ⟨hreduce', hbelow⟩ := reduce_onTop (m := m) hpending hreduce
    obtain ⟨hfold', hrest⟩ := ih hbelow hfold
    exact ⟨bind_eq_ok_iff.mpr ⟨_, hreduce', hfold'⟩, hrest⟩

/-- An operator below that has to stay is what the inner run finds at the bottom of its stack. -/
theorem reduceWhile_onTop {holds : Operator → Bool}
    (hbelow : ∀ top ∈ m.pending.head?, holds top = false)
    (h : inner.reduceWhile holds 0 = .ok inner') :
    (inner.onTop m).reduceWhile holds 0 = .ok (inner'.onTop m) := by
  have htake : (inner.onTop m).pending.takeWhile holds = inner.pending.takeWhile holds :=
    takeWhile_append_of_head? hbelow inner.pending
  rw [reduceWhile, htake]
  exact (foldlM_reduce_onTop List.takeWhile_append_dropWhile.symm h).1

private theorem shift_closeParen_onTop (hm : ∀ top ∈ m.pending.head?, top.category = .paren)
    (h : inner.shift .closeParen 0 = .ok inner') :
    (inner.onTop m).shift .closeParen 0 = .ok (inner'.onTop m) := by
  rw [shift] at h ⊢
  obtain ⟨next, hwhile, hrest⟩ := bind_eq_ok_iff.mp h
  have hwhile' := reduceWhile_onTop (fun top htop ↦ by simpa using hm top htop) hwhile
  refine bind_eq_ok_iff.mpr ⟨next.onTop m, hwhile', ?_⟩
  split at hrest
  · cases hrest
  · next op below hpending =>
    cases hrest
    have hpending' : (next.onTop m).pending = op :: (below ++ m.pending) := by
      rw [onTop, hpending, List.cons_append]
    rw [hpending']
    rfl

/-- A binary operator reduces nothing below a parenthesis. -/
private theorem shift_binary_onTop (hm : ∀ top ∈ m.pending.head?, top.category = .paren)
    {op : Operator} (hop : op.isBinary = true) (h : inner.shift op 0 = .ok inner') :
    (inner.onTop m).shift op 0 = .ok (inner'.onTop m) := by
  have hlevel := Operator.two_le_level_iff.mpr (Operator.category_ne_paren_of_isBinary hop)
  have hstop : ∀ top ∈ m.pending.head?, decide (op.level ≤ top.level) = false := by
    intro top htop
    have hloose : ¬2 ≤ top.level := fun htwo ↦ Operator.two_le_level_iff.mp htwo (hm top htop)
    exact decide_eq_false (by omega)
  rw [shift_of_isBinary hop] at h ⊢
  obtain ⟨next, hwhile, hrest⟩ := bind_eq_ok_iff.mp h
  cases hrest
  refine bind_eq_ok_iff.mpr ⟨next.onTop m, reduceWhile_onTop hstop hwhile, ?_⟩
  simp [onTop, Bool.or_assoc]

theorem step_onTop (hm : ∀ top ∈ m.pending.head?, top.category = .paren) {l : Lexeme}
    (h : inner.step l.reading = .ok inner') :
    (inner.onTop m).step l.reading = .ok (inner'.onTop m) := by
  cases l with
  | literal token =>
    cases h
    rfl
  | operator op =>
    change inner.shift op 0 = .ok inner' at h
    change (inner.onTop m).shift op 0 = .ok (inner'.onTop m)
    cases op with
    | openParen | not =>
      cases h
      rfl
    | closeParen => exact shift_closeParen_onTop hm h
    | connective c | comparison c => exact shift_binary_onTop hm rfl h

theorem takeIn_onTop (hm : ∀ top ∈ m.pending.head?, top.category = .paren) {ls : List Lexeme}
    (h : inner.takeIn ls = .ok inner') : (inner.onTop m).takeIn ls = .ok (inner'.onTop m) := by
  induction ls generalizing inner with
  | nil =>
    cases h
    rfl
  | cons l ls ih =>
    rw [takeIn_cons] at h ⊢
    obtain ⟨next, hstep, htake⟩ := bind_eq_ok_iff.mp h
    exact bind_eq_ok_iff.mpr ⟨_, step_onTop hm hstep, ih htake⟩

end Machine

/-- **Frame.** The lexemes of an accepted text can be taken in wherever a disjunction may begin, and
leave the tree of the text. -/
theorem takenIn_of_compile {text : Text} {e : Expression} (hblank : text.trimBlanks ≠ [])
    (h : compile text = .ok e) : TakenIn .disjunction (lexemes text) e.root := by
  obtain ⟨-, m, hm, hoperands, -⟩ := (compile_eq_ok_iff hblank).mp h
  obtain ⟨inner, htake, hall⟩ := bind_eq_ok_iff.mp hm
  rw [Machine.reduceAll] at hall
  intro base hbase
  -- Only a parenthesis is looser than a disjunction.
  have hparen : ∀ top ∈ base.pending.head?, top.category = .paren := by
    intro top htop
    by_contra hne
    exact absurd (Operator.two_le_level_iff.mpr hne) (Nat.not_le_of_lt (hbase (by decide) top htop))
  refine ⟨inner.pending, inner.onTop base, ?_, rfl, fun op hop ↦ ?_, ?_⟩
  · have htake' := Machine.takeIn_onTop hparen htake
    rwa [Machine.start_onTop] at htake'
  · exact Operator.two_le_level_iff.mpr (Machine.category_ne_paren_of_foldlM hall op hop)
  · obtain ⟨hfold, hpending⟩ :=
      Machine.foldlM_reduce_onTop (m := base) (List.append_nil _).symm hall
    refine ⟨(m.onTop base).forPrimary, (m.onTop base).reductions, hfold.trans ?_⟩
    simp only [Machine.onTop, hoperands, hpending, List.singleton_append, List.nil_append]

/-! ## Texts in parentheses -/

def Text.inParens (t : Text) : Text := '(' :: (t ++ [')'])

/-- A text in parentheses is read as it is alone, behind any blanks and whatever comes behind it. -/
theorem Reads.inParens {s gap rest : Text} {ls ls' : List Lexeme} {expect : Bool}
    (hgap : AllBlank gap) (hs : Reads (readings s) ls)
    (hrest : ∀ position, Reads (readingsFrom false ⟨rest, position⟩) ls') (position : Nat) :
    Reads (readingsFrom expect ⟨gap ++ (s.inParens ++ rest), position⟩)
      (.operator .openParen :: (ls ++ .operator .closeParen :: ls')) := by
  have htext : s.inParens ++ rest
      = Operator.openParen.symbol ++ (s ++ (Operator.closeParen.symbol ++ rest)) := by
    simp [Text.inParens, Operator.symbol]
  have hclose : ∀ position, Reads (readingsFrom false
      ⟨Operator.closeParen.symbol ++ rest, position⟩) (.operator .closeParen :: ls') :=
    Reads.symbol allBlank_nil (Operator.lookup_symbol_append .closeParen (Or.inl rfl)) hrest
  have hseam : ∀ c ∈ (Operator.closeParen.symbol ++ rest).head?, Operator.separates c = true := by
    intro c hc
    obtain rfl := Option.some_inj.mp hc
    rfl
  have hinner := Reads.append hseam (endsLiteral_symbol_append .closeParen rest) hclose hs
  rw [htext]
  exact Reads.symbol hgap (Operator.lookup_symbol_append .openParen (Or.inl rfl)) hinner position

private theorem reads_nil (position : Nat) : Reads (readingsFrom false ⟨[], position⟩) [] :=
  readingsFrom_false_nil position ▸ .finished position

theorem reads_group {s : Text} {ls : List Lexeme} (h : Reads (readings s) ls) :
    Reads (readings s.inParens) (.operator .openParen :: (ls ++ [.operator .closeParen])) := by
  have hgroup : Reads (readingsFrom true _) _ := .inParens allBlank_nil h reads_nil 0
  simpa [readings, Scanner.start] using hgroup

theorem reads_not_group {s : Text} {ls : List Lexeme} (h : Reads (readings s) ls) :
    Reads (readings ('!' :: s.inParens))
      (.operator .not :: .operator .openParen :: (ls ++ [.operator .closeParen])) := by
  have hlook := Operator.not.lookup_symbol_cons (c := '(') rfl (s ++ [')'] ++ [])
  have hnot : Reads (readingsFrom true _) _ :=
    .symbol allBlank_nil hlook (.inParens allBlank_nil h reads_nil) 0
  simpa [readings, Scanner.start, Operator.symbol, Text.inParens] using hnot

theorem reads_joined {s t : Text} {ls ls' : List Lexeme} (hs : Reads (readings s) ls)
    (ht : Reads (readings t) ls') (op : Operator) :
    Reads (readings (s.inParens ++ [' '] ++ op.symbol ++ [' '] ++ t.inParens))
      ((.operator .openParen :: (ls ++ [.operator .closeParen])) ++ .operator op ::
        (.operator .openParen :: (ls' ++ [.operator .closeParen]))) := by
  have hlook := op.lookup_symbol_cons (c := ' ') rfl (t.inParens ++ [])
  have hright : ∀ position, Reads (readingsFrom false _) _ :=
    .symbol allBlank_space hlook (.inParens allBlank_space ht reads_nil)
  have hleft : Reads (readingsFrom true _) _ := .inParens allBlank_nil hs hright 0
  simpa [readings, Scanner.start] using hleft

/-! ## Putting constraints together -/

theorem Node.mentionsPrimary_of_binary {op : Operator} {l r n : Node} (h : binary op l r = some n) :
    n.mentionsPrimary = (op.isPrimaryVariant || (l.mentionsPrimary || r.mentionsPrimary)) := by
  simp [mentionsPrimary, operators_of_binary h]

theorem Operator.exists_rank {op : Operator} (hop : op.isBinary = true) :
    ∃ r : Rank, op.level = r.level ∧ r.level < Rank.atom.level := by
  cases op with
  | connective c =>
    cases c with
    | or => exact ⟨.disjunction, rfl, by decide⟩
    | and => exact ⟨.conjunction, rfl, by decide⟩
  | comparison c => exact ⟨.comparison, rfl, by decide⟩
  | openParen | closeParen | not => cases hop

theorem Rank.disjunction_level_le (r : Rank) : Rank.disjunction.level ≤ r.level := by
  cases r <;> decide

/-- **Composition.** Two accepted texts in parentheses with an operator between them are accepted,
and the tree joins their trees. One accepted text in parentheses is accepted with its own tree, and
behind `!` with the negation of it. -/
theorem compile_joined {s t : Text} {e e' : Expression} (hs : s.trimBlanks ≠ [])
    (ht : t.trimBlanks ≠ []) (he : compile s = .ok e) (he' : compile t = .ok e') :
    (∀ op : Operator, op.isBinary = true → ∃ n, Node.binary op e.root e'.root = some n ∧
      compile (s.inParens ++ [' '] ++ op.symbol ++ [' '] ++ t.inParens)
        = .ok ⟨n, e.forPrimary || e'.forPrimary || op.isPrimaryVariant⟩) ∧
      compile s.inParens = .ok e ∧
      compile ('!' :: s.inParens) = .ok ⟨.not e.root, e.forPrimary⟩ := by
  have hreads := ((compile_eq_ok_iff hs).mp he).1
  have hreads' := ((compile_eq_ok_iff ht).mp he').1
  have hgroup := (takenIn_of_compile hs he).group
  have hgroup' := (takenIn_of_compile ht he').group
  rw [forPrimary_of_compile he, forPrimary_of_compile he']
  refine ⟨fun op hop ↦ ?_, ?_, ?_⟩
  · obtain ⟨n, hn⟩ := Node.exists_binary hop e.root e'.root
    obtain ⟨r, hlevel, hr⟩ := Operator.exists_rank hop
    have hjoined := (hgroup.mono hr.le).binary hgroup' hlevel hr hn
    refine ⟨n, hn, ?_⟩
    rw [compile_of_takenIn (reads_joined hreads hreads' op) (hjoined.mono r.disjunction_level_le),
      Node.mentionsPrimary_of_binary hn, Bool.or_comm]
  · rw [compile_of_takenIn (reads_group hreads) (hgroup.mono (Rank.disjunction_level_le _)),
      ← forPrimary_of_compile he]
  · have hoperand : TakenIn .negation _ e.root := hgroup.mono le_rfl
    rw [compile_of_takenIn (reads_not_group hreads)
      (hoperand.not.mono (Rank.disjunction_level_le _))]
    simp [Node.mentionsPrimary, Operator.isPrimaryVariant]

theorem compile_joined_juxtaposed :
    compile "a(b)==".toList = .ok ⟨.comparison .equal (.literal ['a']) (.literal ['b']), false⟩ ∧
    compile "!c ^P d".toList
      = .ok ⟨.comparison .primaryUnder (.not (.literal ['c'])) (.literal ['d']), true⟩ ∧
    compile "(a(b)==) || (!c ^P d)".toList = .ok ⟨.connective .or
      (.comparison .equal (.literal ['a']) (.literal ['b']))
      (.comparison .primaryUnder (.not (.literal ['c'])) (.literal ['d'])), true⟩ := by
  have he : compile "a(b)==".toList
      = .ok ⟨.comparison .equal (.literal ['a']) (.literal ['b']), false⟩ := by decide +kernel
  have he' : compile "!c ^P d".toList
      = .ok ⟨.comparison .primaryUnder (.not (.literal ['c'])) (.literal ['d']), true⟩ := by
    decide +kernel
  obtain ⟨n, hn, hcompile⟩ :=
    (compile_joined (by decide) (by decide) he he').1 (.connective .or) rfl
  cases hn
  exact ⟨he, he', hcompile⟩

end Placement
