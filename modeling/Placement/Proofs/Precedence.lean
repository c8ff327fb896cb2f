import Placement.Proofs.Conservation

/-!
# Precedence

The machine builds the tree of the grammar: comparisons bind tighter than `&&` and `&&` tighter
than `||`, all to the left, and `!` binds tightest.

## The invariant

Reductions are delayed, so a phrase that has been taken in is not yet one operand. It is *held*:
some operators of it are still pending above those that were there before, all at least as tight as
the phrase, and reducing just these leaves its tree on the operands that were there before.
Whatever comes next reduces exactly them. A looser binary operator, a closing parenthesis and the
end all reach down to the operators of the surrounding phrase and stop there.

A phrase can be taken in wherever the pending operator below it is looser (`Rank.Admits`). Operands
need no such condition, since nothing in them reduces what lies below: that is why `!` is put on
the stack without looking at it.

Nothing of this speaks of derivations. `TakenIn` says it of any sequence of lexemes and any tree,
and it is closed under the rules of the grammar; derivations have it by induction.
-/

namespace Placement

/-- How tight a phrase is, in the precedences of operators; operands are as tight as literals. -/
def Rank.level : Rank → Nat
  | disjunction => 2
  | conjunction => 3
  | comparison => 4
  | negation | atom => literalLevel

/-- The phrase may begin here: a pending operator below it is looser. -/
def Rank.Admits (r : Rank) (m : Machine) : Prop :=
  r.level < literalLevel → ∀ top ∈ m.pending.head?, top.level < r.level

/-- Parentheses are the loosest operators. -/
theorem Operator.two_le_level_iff {op : Operator} : 2 ≤ op.level ↔ op.category ≠ .paren := by
  cases op with
  | connective c => cases c <;> decide
  | comparison c => simp [level, category]
  | openParen | closeParen | not => decide

theorem Rank.admits_of_level_eq {r : Rank} (h : r.level = literalLevel) (m : Machine) :
    r.Admits m := fun hlt ↦ absurd hlt (by omega)

theorem Rank.Admits.mono {r r' : Rank} {m : Machine} (h : r'.Admits m)
    (hr : r'.level ≤ r.level) : r.Admits m :=
  fun hlt top htop ↦ (h (hr.trans_lt hlt) top htop).trans_le hr

/-- The machine `m'` is `m` with a phrase of rank `r` and tree `n` on it, of which the operators
`above` still wait. -/
structure Held (r : Rank) (n : Node) (above : List Operator) (m m' : Machine) : Prop where
  pending : m'.pending = above ++ m.pending
  /-- The operators that wait bind at least as tightly as the phrase. -/
  tight : ∀ op ∈ above, r.level ≤ op.level
  /-- Reducing them leaves the tree. -/
  settles : ∃ flag log, above.foldlM (Machine.reduce 0) m'
    = .ok ⟨.node n :: m.operands, m.pending, flag, log⟩

namespace Held

variable {r : Rank} {n : Node} {above : List Operator} {m m' : Machine}

theorem mono (h : Held r n above m m') {r' : Rank} (hr : r'.level ≤ r.level) :
    Held r' n above m m' :=
  ⟨h.pending, fun op hop ↦ hr.trans (h.tight op hop), h.settles⟩

/-- What reduces the phrase and stops below it settles the phrase. -/
theorem reduceWhile (h : Held r n above m m') (holds : Operator → Bool)
    (habove : ∀ op : Operator, r.level ≤ op.level → holds op = true)
    (hbelow : ∀ top ∈ m.pending.head?, holds top = false) :
    ∃ flag log, m'.reduceWhile holds 0
      = .ok ⟨.node n :: m.operands, m.pending, flag, log⟩ := by
  have htake : m'.pending.takeWhile holds = above := by
    rw [h.pending, Machine.takeWhile_append_of_head? hbelow, List.takeWhile_eq_self_iff]
    exact fun op hop ↦ habove op (h.tight op hop)
  rw [Machine.reduceWhile, htake]
  exact h.settles

/-- A closing parenthesis behind a disjunction leaves its tree as one operand. -/
theorem closeParen
    (h : Held .disjunction n above { m with pending := .openParen :: m.pending } m') :
    ∃ m'', m'.shift .closeParen 0 = .ok m'' ∧ Held .atom n [] m m'' := by
  obtain ⟨flag, log, hwhile⟩ := h.reduceWhile (·.category != .paren)
    (fun op hop ↦ by simpa using Operator.two_le_level_iff.mp hop)
    (fun top htop ↦ by
      obtain rfl := Option.some_inj.mp htop
      rfl)
  refine ⟨⟨.node n :: m.operands, m.pending, flag, log⟩, ?_, rfl, nofun, flag, log, rfl⟩
  rw [Machine.shift, hwhile]
  rfl

/-- A binary operator behind a phrase of its own level settles it and waits on it. -/
theorem shift (h : Held r n above m m') {op : Operator} (hop : op.isBinary = true)
    (hlevel : op.level = r.level) (hm : ∀ top ∈ m.pending.head?, top.level < op.level) :
    ∃ m'', m'.shift op 0 = .ok m'' ∧ m''.pending = op :: m.pending ∧
      m''.operands = .node n :: m.operands := by
  obtain ⟨flag, log, hwhile⟩ := h.reduceWhile (op.level ≤ ·.level)
    (fun top htop ↦ by rw [hlevel]; exact decide_eq_true htop)
    (fun top htop ↦ decide_eq_false (Nat.not_le_of_lt (hm top htop)))
  refine ⟨⟨.node n :: m.operands, op :: m.pending, flag || op.isPrimaryVariant, log⟩, ?_, rfl, rfl⟩
  rw [Machine.shift_of_isBinary hop, hwhile]
  rfl

/-- The operator below a phrase can be reduced once the phrase is. -/
theorem settles_append (h : Held r n above m m') {op : Operator} {below : List Operator}
    {n' : Node} {rest : List Operand} (hpending : m.pending = op :: below)
    (hparen : op.category ≠ .paren) (hbuild : build op (.node n :: m.operands) = .ok (n', rest)) :
    ∃ flag log, (above ++ [op]).foldlM (Machine.reduce 0) m'
      = .ok ⟨.node n' :: rest, below, flag, log⟩ := by
  obtain ⟨flag, log, hsettles⟩ := h.settles
  refine ⟨flag, ⟨op, n'⟩ :: log, ?_⟩
  rw [List.foldlM_append, hsettles]
  change [op].foldlM (Machine.reduce 0) _ = _
  rw [List.foldlM_cons, Machine.reduce_eq_ok_iff.mpr ⟨hparen, n', rest, hbuild, rfl⟩, hpending]
  rfl

/-- A tighter phrase on a binary operator on a left operand is a phrase of the operator's rank. -/
theorem binary {op : Operator} {l n' : Node} {r' : Rank} {m₀ : Machine} (h : Held r n above m m')
    (hpending : m.pending = op :: m₀.pending) (hoperands : m.operands = .node l :: m₀.operands)
    (hlevel : op.level = r'.level) (hr : r'.level < r.level)
    (hbinary : Node.binary op l n = some n') : Held r' n' (above ++ [op]) m₀ m' where
  pending := by rw [h.pending, hpending, List.append_assoc, List.singleton_append]
  tight := by
    intro top htop
    rcases List.mem_append.mp htop with htop | htop
    · exact hr.le.trans (h.tight top htop)
    · rw [List.mem_singleton.mp htop, hlevel]
  settles := by
    refine h.settles_append hpending ?_ (build_eq_ok_iff.mpr ⟨n, .node l, ?_, Or.inr ⟨l, rfl, ?_⟩⟩)
    · exact Operator.category_ne_paren_of_isBinary (Node.isBinary_of_binary hbinary)
    · rw [hoperands]
    · exact hbinary

end Held

/-! ## Taking a phrase in -/

/-- Wherever a phrase of this rank may begin, the machine takes the lexemes in and then holds the
tree. -/
def TakenIn (r : Rank) (ls : List Lexeme) (n : Node) : Prop :=
  ∀ m : Machine, r.Admits m → ∃ above m', m.takeIn ls = .ok m' ∧ Held r n above m m'

namespace TakenIn

variable {r r' : Rank} {ls ls' : List Lexeme} {l n n' : Node}

theorem mono (h : TakenIn r ls n) (hr : r'.level ≤ r.level) : TakenIn r' ls n := by
  intro m hm
  obtain ⟨above, m', htake, hheld⟩ := h m (hm.mono hr)
  exact ⟨above, m', htake, hheld.mono hr⟩

theorem ne_nil (h : TakenIn .disjunction ls n) : ls ≠ [] := by
  rintro rfl
  obtain ⟨above, m', htake, hheld⟩ := h .start fun _ top htop ↦ by cases htop
  cases htake
  have habove : above = [] := by simpa [Machine.start] using hheld.pending
  obtain ⟨flag, log, hsettles⟩ := hheld.settles
  rw [habove] at hsettles
  cases hsettles

theorem literal (token : Text) : TakenIn .atom [.literal token] (.literal token) :=
  fun m _ ↦ ⟨[], _, rfl, rfl, List.forall_mem_nil _, m.forPrimary, m.reductions, rfl⟩

theorem group (h : TakenIn .disjunction ls n) :
    TakenIn .atom (.operator .openParen :: (ls ++ [.operator .closeParen])) n := by
  intro m _
  -- Inside, the parenthesis is the pending operator below, and it is looser than everything.
  obtain ⟨above, m₁, htake, hheld⟩ := h { m with pending := .openParen :: m.pending }
    fun _ top htop ↦ by
      obtain rfl := Option.some_inj.mp htop
      decide
  obtain ⟨m₂, hshift, hheld⟩ := hheld.closeParen
  refine ⟨[], m₂, ?_, hheld⟩
  rw [Machine.takeIn_cons]
  change Machine.takeIn { m with pending := .openParen :: m.pending } _ = _
  rw [Machine.takeIn_append, htake]
  change m₁.takeIn [.operator .closeParen] = _
  rw [Machine.takeIn_cons]
  change m₁.shift .closeParen 0 >>= _ = _
  rw [hshift]
  rfl

theorem not (h : TakenIn .negation ls n) : TakenIn .negation (.operator .not :: ls) (.not n) := by
  intro m _
  -- The `!` is put on top of whatever is there, and the operand needs no condition either.
  obtain ⟨above, m₁, htake, hheld⟩ := h
    { m with pending := .not :: m.pending, operands := .placeholder :: m.operands }
    (Rank.admits_of_level_eq rfl _)
  refine ⟨above ++ [.not], m₁, htake, ?_, ?_, hheld.settles_append rfl (by decide) rfl⟩
  · rw [hheld.pending, List.append_assoc, List.singleton_append]
  · intro op hop
    rcases List.mem_append.mp hop with hop | hop
    · exact hheld.tight op hop
    · rw [List.mem_singleton.mp hop]
      decide

/-- The binary levels, all at once: a phrase of the operator's rank, the operator, and a tighter
phrase. -/
theorem binary {op : Operator} (hleft : TakenIn r ls l) (hright : TakenIn r' ls' n)
    (hlevel : op.level = r.level) (hr : r.level < r'.level)
    (hbinary : Node.binary op l n = some n') : TakenIn r (ls ++ .operator op :: ls') n' := by
  intro m hm
  have hop := Node.isBinary_of_binary hbinary
  have hloose : r.level < literalLevel := hr.trans_le (by cases r' <;> decide)
  obtain ⟨above, m₁, htake, hheld⟩ := hleft m hm
  obtain ⟨m₂, hshift, hpending, hoperands⟩ :=
    hheld.shift hop hlevel fun top htop ↦ hlevel ▸ hm hloose top htop
  -- The operator is now the pending one below the right operand, and looser than it.
  obtain ⟨above', m₃, htake', hheld'⟩ := hright m₂ fun _ top htop ↦ by
    rw [hpending] at htop
    obtain rfl := Option.some_inj.mp htop
    rwa [hlevel]
  refine ⟨_, m₃, ?_, hheld'.binary hpending hoperands hlevel hr hbinary⟩
  rw [Machine.takeIn_append, htake]
  change m₁.takeIn (.operator op :: ls') = _
  rw [Machine.takeIn_cons]
  change m₁.shift op 0 >>= _ = _
  rw [hshift]
  exact htake'

end TakenIn

/-- **Taking in.** Wherever a phrase may begin, the machine takes it in and then holds its tree. -/
theorem Phrase.takenIn {r : Rank} (p : Phrase r) : TakenIn r p.lexemes p.tree := by
  induction p with
  | literal token => exact .literal token
  | group inner ih => exact ih.group
  | not p ih => exact ih.not
  | ofAtom p ih | ofNegation p ih | ofComparison p ih | ofConjunction p ih =>
    exact ih.mono (by decide)
  | compare left op right ihl ihr => exact ihl.binary ihr rfl (by decide) rfl
  | and left right ihl ihr => exact ihl.binary ihr rfl (by decide) rfl
  | or left right ihl ihr => exact ihl.binary ihr rfl (by decide) rfl

/-! ## Compiling a sentence -/

theorem compile_of_takenIn {text : Text} {ls : List Lexeme} {n : Node}
    (hreads : Reads (readings text) ls) (h : TakenIn .disjunction ls n) :
    compile text = .ok ⟨n, n.mentionsPrimary⟩ := by
  have hlexemes := hreads.lexemes_eq
  have hblank : text.trimBlanks ≠ [] := by
    intro htrim
    rw [lexemes_of_allBlank (Text.trim_eq_nil_iff.mp htrim)] at hlexemes
    exact h.ne_nil hlexemes.symm
  -- At the end nothing was pending before the phrase, so all that waits belongs to it.
  obtain ⟨above, m, htake, hheld⟩ := h .start fun _ _ htop ↦ by cases htop
  obtain ⟨flag, log, hsettles⟩ := hheld.settles
  have hpending : m.pending = above := hheld.pending.trans (List.append_nil above)
  have hcompile : compile text = .ok ⟨n, flag⟩ := by
    rw [compile_eq_ok_iff hblank, hlexemes]
    refine ⟨hreads, ⟨[.node n], [], flag, log⟩, ?_, rfl, rfl⟩
    rw [htake]
    change m.reduceAll = _
    rw [Machine.reduceAll, hpending]
    exact hsettles
  rw [hcompile, ← forPrimary_of_compile hcompile]

theorem compile_of_reads {text : Text} (p : Phrase .disjunction)
    (h : Reads (readings text) p.lexemes) :
    compile text = .ok ⟨p.tree, p.tree.mentionsPrimary⟩ := compile_of_takenIn h p.takenIn

/-- **Completeness.** However a sentence is written, it compiles to the tree that its derivation
stands for. -/
theorem compile_written {text : Text} (p : Phrase .disjunction) (htokens : AllTokens p.lexemes)
    (hwritten : Written none p.lexemes text) :
    compile text = .ok ⟨p.tree, p.tree.mentionsPrimary⟩ := by
  exact compile_of_reads p (reads_of_written hwritten p.alternates htokens 0)

theorem compile_written_group : compile "!(a || b)&& c".toList =
    .ok ⟨.connective .and (.not (.connective .or (.literal ['a']) (.literal ['b'])))
      (.literal ['c']), false⟩ := by
  have hwritten : Written none [.operator .not, .operator .openParen, .literal ['a'],
      .operator (.connective .or), .literal ['b'], .operator .closeParen,
      .operator (.connective .and), .literal ['c']]
      ([] ++ ['!'] ++ ([] ++ ['('] ++ ([] ++ ['a'] ++ ([' '] ++ ['|', '|'] ++ ([' '] ++ ['b'] ++
        ([] ++ [')'] ++ ([] ++ ['&', '&'] ++ ([' '] ++ ['c'] ++ [])))))))) := by
    refine .cons ?_ ?_ (.cons ?_ ?_ (.cons ?_ ?_ (.cons ?_ ?_ (.cons ?_ ?_ (.cons ?_ ?_
      (.cons ?_ ?_ (.cons ?_ ?_ (.nil ?_))))))))
    all_goals simp [AllBlank, isBlank, Lexeme.needsBlank, Operator.category]
  refine compile_written (.ofConjunction (.and (.ofComparison (.ofNegation (.not (.ofAtom (.group
    (.or (.widen (.ofAtom (.literal ['a'])))
      (.ofComparison (.ofNegation (.ofAtom (.literal ['b']))))))))))
    (.ofNegation (.ofAtom (.literal ['c']))))) (allTokens_iff.mpr ?_) hwritten
  decide

end Placement
