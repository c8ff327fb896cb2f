import Placement.Proofs.Precedence

/-!
# Soundness, and what slips through

No step of the machine looks at what stands next to what, so acceptance alone does not make a
sentence of a text: `a(b)==` compiles to the tree of `a == b`. Here it is shown that this is the
only way in. An accepted text is a sentence as soon as no operand directly follows another
(`isSentence_iff_not_juxtaposed`), and then its tree is the one that the grammar gives it.

## Counting

An accepted text has one literal more than it has operators with two operands. Reading from left to
right, each lexeme that stands where it should keeps the two numbers in step, and each operator or
closing parenthesis that stands where an operand was due puts the literals behind. Only an operand
that follows an operand could make up for it. So without such a pair the numbers come out right
exactly if operands and operators took turns all along (`length_tokens_le`).
-/

namespace Placement

/-- Somewhere an operand directly follows another, with no operator between them. -/
def Juxtaposed (ls : List Lexeme) : Prop :=
  ∃ a b, [a, b] <:+: ls ∧ a.closesOperand = true ∧ b.opensOperand = true

theorem Juxtaposed.cons {l : Lexeme} {ls : List Lexeme} (h : Juxtaposed ls) :
    Juxtaposed (l :: ls) := by
  obtain ⟨a, b, hinfix, hpair⟩ := h
  exact ⟨a, b, List.infix_cons hinfix, hpair⟩

theorem opensOperand_of_not_juxtaposed {l b : Lexeme} {ls : List Lexeme}
    (h : ¬Juxtaposed (l :: ls)) (hl : l.closesOperand = true) (hb : b ∈ ls.head?) :
    b.opensOperand = false := by
  rw [← Bool.not_eq_true]
  intro hopens
  obtain ⟨rest, rfl⟩ := List.head?_eq_some_iff.mp hb
  exact h ⟨l, b, (List.prefix_append [l, b] rest).isInfix, hl, hopens⟩

namespace Alternates

theorem of_append {expect : Bool} {before after : List Lexeme}
    (h : Alternates expect (before ++ after)) : ∃ expect', Alternates expect' after := by
  induction before generalizing expect with
  | nil => exact ⟨expect, h⟩
  | cons l before ih => exact ih h.2

theorem not_juxtaposed {expect : Bool} {ls : List Lexeme} (h : Alternates expect ls) :
    ¬Juxtaposed ls := by
  rintro ⟨a, b, ⟨before, after, rfl⟩, ha, hb⟩
  rw [List.append_assoc] at h
  obtain ⟨expect', -, hopens, -⟩ := h.of_append
  rw [ha, hb] at hopens
  cases hopens

end Alternates

/-! ## Counting -/

/-- A lexeme that begins and completes an operand is a literal, and one that does neither has an
operand on both sides. -/
private theorem length_token_add_one (l : Lexeme) : l.token?.toList.length + 1
    = l.opensOperand.toNat + l.closesOperand.toNat + l.isBinary.toNat := by
  cases l with
  | literal token => rfl
  | operator op => cases op <;> rfl

private theorem length_tokens_cons (l : Lexeme) (ls : List Lexeme) :
    (tokens (l :: ls)).length = l.token?.toList.length + (tokens ls).length := by
  cases l <;> simp [tokens, Lexeme.token?, List.filterMap_cons, Nat.add_comm]

private theorem countP_isBinary_cons (l : Lexeme) (ls : List Lexeme) :
    (l :: ls).countP Lexeme.isBinary = l.isBinary.toNat + ls.countP Lexeme.isBinary := by
  rw [List.countP_cons, Nat.add_comm]
  cases l.isBinary <;> rfl

/-- Where no operand follows another there are never too many literals, and there are enough only
if operands and operators take turns. The flag says whether an operand is due. -/
theorem length_tokens_le {ls : List Lexeme} : ∀ {expect : Bool}, ¬Juxtaposed ls →
    (∀ l ∈ ls.head?, expect = false → l.opensOperand = false) →
      (tokens ls).length + (!expect).toNat ≤ ls.countP Lexeme.isBinary + 1 ∧
        ((tokens ls).length + (!expect).toNat = ls.countP Lexeme.isBinary + 1 →
          Alternates expect ls) := by
  induction ls with
  | nil =>
    intro expect _ _
    cases expect with
    | false => exact ⟨le_rfl, fun _ ↦ rfl⟩
    | true => exact ⟨Nat.zero_le _, fun h ↦ absurd h (by decide)⟩
  | cons l ls ih =>
    intro expect hjuxtaposed hfirst
    have hnext : ∀ b ∈ ls.head?, (!l.closesOperand) = false → b.opensOperand = false :=
      fun b hb hcloses ↦ opensOperand_of_not_juxtaposed hjuxtaposed (by simpa using hcloses) hb
    obtain ⟨hle, heq⟩ := ih (fun h ↦ hjuxtaposed h.cons) hnext
    have hcount := length_token_add_one l
    -- Without a neighbour to the left an operand can only begin where one is due.
    have hopens : l.opensOperand.toNat ≤ expect.toNat := by
      cases expect with
      | false => rw [hfirst l rfl rfl]
      | true => exact l.opensOperand.toNat_le
    have hexpect : (!expect).toNat + expect.toNat = 1 := by cases expect <;> rfl
    rw [length_tokens_cons, countP_isBinary_cons]
    rw [Bool.not_not] at hle heq
    refine ⟨by omega, fun h ↦ ⟨?_, heq (by omega)⟩⟩
    -- If the counts are equal in the end, then none of the bounds on the way was strict.
    have hdue : l.opensOperand.toNat = expect.toNat := by omega
    revert hdue
    cases l.opensOperand <;> cases expect <;> decide

/-! ## Accepted texts -/

/-- **Soundness.** An accepted text that is more than blanks is a sentence exactly if nowhere in it
an operand directly follows another, and its tree is that of any derivation it has. -/
theorem isSentence_iff_not_juxtaposed {text : Text} {e : Expression}
    (hblank : text.trimBlanks ≠ []) (h : compile text = .ok e) :
    (IsSentence (lexemes text) ↔ ¬Juxtaposed (lexemes text)) ∧
      ∀ p : Phrase .disjunction, p.lexemes = lexemes text → p.tree = e.root := by
  refine ⟨⟨fun hsentence ↦ (isSentence_iff.mp hsentence).1.not_juxtaposed, fun hapart ↦ ?_⟩, ?_⟩
  · -- Acceptance gives the count and the parentheses, and the count gives the turns.
    have hcount := length_tokens_of_compile hblank h
    have halternates : Alternates true (lexemes text) :=
      (length_tokens_le hapart fun _ _ h ↦ by cases h).2 hcount
    exact isSentence_iff.mpr ⟨halternates, balanced_of_compile hblank h⟩
  · intro p hp
    have hreads := ((compile_eq_ok_iff hblank).mp h).1
    rw [← hp] at hreads
    have htree := compile_of_reads p hreads
    rw [h] at htree
    exact (congrArg Expression.root (Except.ok.inj htree)).symm

theorem isSentence_and_not : IsSentence (lexemes "(a)&&!(b)".toList) := by
  have hcompile : compile "(a)&&!(b)".toList
      = .ok ⟨.connective .and (.literal ['a']) (.not (.literal ['b'])), false⟩ := by decide +kernel
  have hlexemes : lexemes "(a)&&!(b)".toList = [.operator .openParen, .literal ['a'],
      .operator .closeParen, .operator (.connective .and), .operator .not, .operator .openParen,
      .literal ['b'], .operator .closeParen] := by decide +kernel
  refine (isSentence_iff_not_juxtaposed (by decide) hcompile).1.mpr ?_
  rw [hlexemes]
  refine Alternates.not_juxtaposed (?_ : Alternates true _)
  exact ⟨rfl, rfl, rfl, rfl, rfl, rfl, rfl, rfl, rfl⟩

/-- The pair in the middle is let through, since the operator at the end makes up for it. -/
theorem compile_juxtaposed : compile "a(b)==".toList
      = .ok ⟨.comparison .equal (.literal ['a']) (.literal ['b']), false⟩ ∧
    ¬IsSentence (lexemes "a(b)==".toList) := by
  have hlexemes : lexemes "a(b)==".toList = [.literal ['a'], .operator .openParen, .literal ['b'],
      .operator .closeParen, .operator (.comparison .equal)] := by decide +kernel
  refine ⟨by decide +kernel, fun hsentence ↦ ?_⟩
  rw [hlexemes] at hsentence
  have hopens := (isSentence_iff.mp hsentence).1.2.1
  exact absurd hopens (by decide)

end Placement
