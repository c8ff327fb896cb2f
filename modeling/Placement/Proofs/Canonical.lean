import Placement.Proofs.Precedence

/-!
# The canonical form

The canonical form of a tree is one of the texts that write a derivation of it, so the reader
undoes it by completeness. Which derivation this is, `Node.phrase` says: parentheses around every
pair of operands and around a negated literal.

What has to be checked is the spacing. The canonical form puts a blank on either side of an operator
with two operands and none anywhere else, and none is needed there: `!` never stands before a
literal, and the other neighbours are parentheses.
-/

namespace Placement

namespace Node

/-- The derivation that the canonical form of a tree writes. -/
def phrase : Node → Phrase .negation
  | literal token => .ofAtom (.literal token)
  | not (literal token) => .not (.ofAtom (.group (Phrase.widen (.ofAtom (.literal token)))))
  | not x => .not x.phrase
  | connective .and l r => .ofAtom (.group (.ofConjunction
      (.and (.ofComparison (.ofNegation l.phrase)) (.ofNegation r.phrase))))
  | connective .or l r => .ofAtom (.group (.or l.phrase.widen
      (.ofComparison (.ofNegation r.phrase))))
  | comparison op l r => .ofAtom (.group (.ofConjunction (.ofComparison
      (.compare (.ofNegation l.phrase) op r.phrase))))

theorem tree_phrase (n : Node) : n.phrase.tree = n := by
  fun_induction phrase n <;> simp_all [Phrase.tree]

/-- The lexemes of two operands with an operator between them, in parentheses. -/
def grouped (op : Operator) (l r : Node) : List Lexeme :=
  .operator .openParen :: (l.phrase.lexemes ++ .operator op :: r.phrase.lexemes)
    ++ [.operator .closeParen]

theorem lexemes_phrase_connective (op : Connective) (l r : Node) :
    (connective op l r).phrase.lexemes = grouped (.connective op) l r := by
  cases op <;> rfl

theorem lexemes_phrase_comparison (op : Comparison) (l r : Node) :
    (comparison op l r).phrase.lexemes = grouped (.comparison op) l r := rfl

end Node

/-! ## Spacing -/

/-- The lexeme may follow with this much space before it. -/
def Lexeme.FitsAfter (prev : Option Lexeme) (gap : Text) (l : Lexeme) : Prop :=
  AllBlank gap ∧ ((∃ p ∈ prev, p.needsBlank l) → gap ≠ [])

namespace Lexeme

theorem fitsAfter_blank (prev : Option Lexeme) (l : Lexeme) : l.FitsAfter prev [' '] :=
  ⟨allBlank_space, fun _ ↦ List.cons_ne_nil _ _⟩

theorem fitsAfter_openParen (l : Lexeme) : l.FitsAfter (some (.operator .openParen)) [] := by
  refine ⟨allBlank_nil, ?_⟩
  rintro ⟨p, hp, hneeds⟩
  obtain rfl := Option.some_inj.mp hp
  cases l with
  | literal token => exact absurd rfl hneeds
  | operator op => cases hneeds

theorem closeParen_fitsAfter (prev : Option Lexeme) :
    FitsAfter prev [] (.operator .closeParen) := by
  refine ⟨allBlank_nil, ?_⟩
  rintro ⟨p, -, hneeds⟩
  cases p with
  | literal token => exact absurd rfl hneeds
  | operator op => cases hneeds

theorem fitsAfter_operator (op op' : Operator) :
    FitsAfter (some (.operator op)) [] (.operator op') := by
  refine ⟨allBlank_nil, ?_⟩
  rintro ⟨p, hp, hneeds⟩
  obtain rfl := Option.some_inj.mp hp
  cases hneeds

end Lexeme

theorem Written.lexeme {prev : Option Lexeme} {l : Lexeme} {ls : List Lexeme} {gap rest : Text}
    (hfits : l.FitsAfter prev gap) (hrest : Written (some l) ls rest) :
    Written prev (l :: ls) (gap ++ (l.text ++ rest)) := by
  rw [← List.append_assoc]
  exact .cons hfits.1 hfits.2 hrest

/-- Wherever the first lexeme of an operand fits and the text goes on from the last one, the
canonical form writes the operand. -/
def Node.WritesItself (n : Node) : Prop :=
  ∀ {prev : Option Lexeme} {gap : Text} {ls : List Lexeme} {rest : Text},
    (∀ l ∈ n.phrase.lexemes.head?, l.FitsAfter prev gap) →
      Written n.phrase.lexemes.getLast? ls rest →
        Written prev (n.phrase.lexemes ++ ls) (gap ++ (n.render ++ rest))

namespace Node

theorem writesItself_literal (token : Text) : (literal token).WritesItself :=
  fun hfits hrest ↦ .lexeme (hfits _ rfl) hrest

/-- Two operands with an operator and blanks between them, in parentheses. -/
private theorem written_grouped {op : Operator} {l r : Node} (hl : l.WritesItself)
    (hr : r.WritesItself) {prev : Option Lexeme} {gap : Text} {ls : List Lexeme} {rest : Text}
    (hfits : (Lexeme.operator .openParen).FitsAfter prev gap)
    (hrest : Written (some (.operator .closeParen)) ls rest) :
    Written prev (grouped op l r ++ ls) (gap ++ (['('] ++ l.render ++ [' '] ++ op.symbol ++ [' ']
      ++ r.render ++ [')'] ++ rest)) := by
  -- From the last lexeme to the first, since the rest of the text is what is written already.
  have hclose := Written.lexeme (Lexeme.closeParen_fitsAfter r.phrase.lexemes.getLast?) hrest
  have hright := hr (fun l _ ↦ Lexeme.fitsAfter_blank (some (.operator op)) l) hclose
  have hop := Written.lexeme (Lexeme.fitsAfter_blank l.phrase.lexemes.getLast? _) hright
  have hopen := Written.lexeme hfits (hl (fun l _ ↦ Lexeme.fitsAfter_openParen l) hop)
  simpa [grouped, Lexeme.text, Operator.symbol] using hopen

private theorem writesItself_of_grouped {n : Node} {op : Operator} {l r : Node}
    (hl : l.WritesItself) (hr : r.WritesItself) (hlexemes : n.phrase.lexemes = grouped op l r)
    (hrender : n.render
      = ['('] ++ l.render ++ [' '] ++ op.symbol ++ [' '] ++ r.render ++ [')']) :
    n.WritesItself := by
  intro prev gap ls rest hfits hrest
  rw [hlexemes] at hfits hrest ⊢
  rw [grouped, List.getLast?_append] at hrest
  rw [hrender]
  exact written_grouped hl hr (hfits _ rfl) hrest

private theorem writesItself_not_literal (token : Text) : (not (literal token)).WritesItself := by
  intro prev gap ls rest hfits hrest
  have hclose := Written.lexeme (Lexeme.closeParen_fitsAfter (some (.literal token))) hrest
  have hliteral := Written.lexeme (Lexeme.fitsAfter_openParen (.literal token)) hclose
  have hopen := Written.lexeme (Lexeme.fitsAfter_operator .not .openParen) hliteral
  have hnot := Written.lexeme (hfits _ rfl) hopen
  simpa [phrase, Phrase.lexemes, render, Lexeme.text, Operator.symbol] using hnot

theorem phrase_not {x : Node} (hx : x.isLiteral = false) : (not x).phrase = .not x.phrase := by
  cases x <;> first | rfl | cases hx

theorem render_not {x : Node} (hx : x.isLiteral = false) : (not x).render = '!' :: x.render := by
  cases x <;> first | rfl | cases hx

theorem exists_head_phrase {x : Node} (hx : x.isLiteral = false) :
    ∃ op, x.phrase.lexemes.head? = some (.operator op) := by
  cases x with
  | literal token => cases hx
  | not y => cases y <;> exact ⟨.not, rfl⟩
  | connective op l r => cases op <;> exact ⟨.openParen, rfl⟩
  | comparison op l r => exact ⟨.openParen, rfl⟩

private theorem writesItself_not {x : Node} (hx : x.isLiteral = false) (hwrites : x.WritesItself) :
    (not x).WritesItself := by
  intro prev gap ls rest hfits hrest
  rw [phrase_not hx, Phrase.lexemes] at hfits hrest ⊢
  rw [List.getLast?_cons, Option.getD_of_ne_none (by simpa using x.phrase.lexemes_ne_nil)] at hrest
  obtain ⟨op, hop⟩ := exists_head_phrase hx
  have hfirst : ∀ l ∈ x.phrase.lexemes.head?, l.FitsAfter (some (.operator .not)) [] := by
    intro l hl
    rw [hop] at hl
    obtain rfl := Option.some_inj.mp hl
    exact Lexeme.fitsAfter_operator .not op
  rw [render_not hx]
  exact Written.lexeme (hfits _ rfl) (hwrites hfirst hrest)

theorem writesItself (n : Node) : n.WritesItself := by
  induction n with
  | literal token => exact writesItself_literal token
  | not x ih =>
    -- Only a literal is put in parentheses of its own behind `!`.
    cases hx : x.isLiteral with
    | true =>
      obtain ⟨token, htoken⟩ := Option.isSome_iff_exists.mp hx
      cases x <;> cases htoken
      exact writesItself_not_literal token
    | false => exact writesItself_not hx ih
  | connective op l r ihl ihr =>
    exact writesItself_of_grouped ihl ihr (lexemes_phrase_connective op l r) rfl
  | comparison op l r ihl ihr =>
    exact writesItself_of_grouped ihl ihr (lexemes_phrase_comparison op l r) rfl

theorem written_render (n : Node) : Written none n.phrase.widen.lexemes n.render := by
  have hfits : ∀ l ∈ n.phrase.lexemes.head?, l.FitsAfter none [] :=
    fun l _ ↦ ⟨allBlank_nil, fun ⟨p, hp, _⟩ ↦ by cases hp⟩
  have hwritten := n.writesItself hfits (.nil allBlank_nil)
  rwa [List.append_nil, List.append_nil] at hwritten

end Node

/-! ## Reading it back -/

theorem Phrase.tokens_lexemes {r : Rank} (p : Phrase r) : tokens p.lexemes = p.tree.leaves := by
  induction p with
  | literal token => rfl
  | group inner ih =>
    simpa [lexemes, tree, tokens, Lexeme.token?, List.filterMap_cons] using ih
  | ofAtom p ih | ofNegation p ih | ofComparison p ih | ofConjunction p ih => exact ih
  | not p ih =>
    simpa [lexemes, tree, tokens, Lexeme.token?, Node.leaves, List.filterMap_cons] using ih
  | compare left op right ihl ihr | and left right ihl ihr | or left right ihl ihr =>
    rw [tokens] at ihl ihr ⊢
    simp [lexemes, tree, Lexeme.token?, Node.leaves, List.filterMap_cons, ihl, ihr]

/-- The canonical form of a tree whose literals are tokens compiles to the tree. -/
theorem Node.compile_render {n : Node} (htokens : ∀ t ∈ n.leaves, IsToken t) :
    compile n.render = .ok ⟨n, n.mentionsPrimary⟩ := by
  have hall : AllTokens n.phrase.widen.lexemes := by
    rw [allTokens_iff, Phrase.tokens_lexemes, Phrase.tree_widen, tree_phrase]
    exact htokens
  have hreads := reads_of_written n.written_render n.phrase.widen.alternates hall 0
  have hcompile := compile_of_reads n.phrase.widen hreads
  rwa [Phrase.tree_widen, tree_phrase] at hcompile

/-- **Round trip.** Reading undoes writing for every tree whose literals are tokens, and all trees
that are read are of this kind. -/
theorem compile_render_eq : (∀ n : Node, (∀ t ∈ n.leaves, IsToken t) →
      compile n.render = .ok ⟨n, n.mentionsPrimary⟩) ∧
    ∀ (text : Text) (e : Expression), compile text = .ok e →
      (∀ t ∈ e.root.leaves, IsToken t) ∧ compile e.render = .ok e := by
  refine ⟨fun n ↦ Node.compile_render, fun text e h ↦ ?_⟩
  have htokens := isToken_of_compile h
  refine ⟨htokens, ?_⟩
  rw [Expression.render, Node.compile_render htokens, ← forPrimary_of_compile h]

theorem compile_render_eq_negated :
    compile "!!(a)".toList = .ok ⟨.not (.not (.literal ['a'])), false⟩ ∧
    compile "(!(a) && (x ^P y))".toList = .ok ⟨.connective .and (.not (.literal ['a']))
      (.comparison .primaryUnder (.literal ['x']) (.literal ['y'])), true⟩ := by
  refine ⟨compile_render_eq.1 (.not (.not (.literal ['a']))) (by decide), ?_⟩
  have hcompile : compile "! a&&x ^P y".toList = .ok ⟨.connective .and (.not (.literal ['a']))
      (.comparison .primaryUnder (.literal ['x']) (.literal ['y'])), true⟩ := by decide +kernel
  exact (compile_render_eq.2 _ _ hcompile).2

end Placement
