import Placement.Proofs.Token

/-!
# Lexemes

A constraint is a sequence of lexemes, literals and operators, written one after another with
blanks between them. Two relations tie the sequence to the text. `Written` is the side of the
writer: which texts write a sequence, and where a blank has to stand. `Reads` is the side of the
scanner: which lexemes its readings amount to, if it reaches the end.

## What the writer has to respect

A sequence is read back only if operands and operators take turns in it (`Alternates`), since
whether a literal is looked for depends on what was read before. Given that, blanks are needed
between a literal and an operator only: neighbouring operators do not run together, because the
second of them is then `(`, `)` or `!`, or stands behind a parenthesis.
-/

namespace Placement

/-- A literal or an operator, without the blanks around it. -/
inductive Lexeme
  | literal (token : Text)
  | operator (op : Operator)
  deriving DecidableEq, Repr

namespace Lexeme

def text : Lexeme → Text
  | literal token => token
  | operator op => op.symbol

/-- Whether an operand begins with this lexeme: a literal, an opening parenthesis or `!`. -/
def opensOperand : Lexeme → Bool
  | literal _ => true
  | operator op => op == .openParen || op == .not

/-- Whether an operand is complete with this lexeme: a literal or a closing parenthesis. -/
def closesOperand : Lexeme → Bool
  | literal _ => true
  | operator op => !op.expectsLiteral

/-- Whether a blank has to stand between two neighbours: between a literal and an operator that is
no parenthesis. -/
def needsBlank : Lexeme → Lexeme → Prop
  | literal _, operator op | operator op, literal _ => op.category ≠ .paren
  | _, _ => False

end Lexeme

/-- Operands and operators take turns. The flag says whether an operand has to come first; at the
end none may be missing. -/
def Alternates : Bool → List Lexeme → Prop
  | expect, [] => expect = false
  | expect, l :: ls => l.opensOperand = expect ∧ Alternates (!l.closesOperand) ls

def AllTokens (ls : List Lexeme) : Prop := ∀ token, Lexeme.literal token ∈ ls → IsToken token

/-! ## Writing -/

/-- The texts that write a sequence of lexemes behind a given one: any blanks at either end and
between neighbours, and at least one where one is needed. -/
inductive Written : Option Lexeme → List Lexeme → Text → Prop
  | nil {prev : Option Lexeme} {gap : Text} (hgap : AllBlank gap) : Written prev [] gap
  | cons {prev : Option Lexeme} {l : Lexeme} {ls : List Lexeme} {gap rest : Text}
      (hgap : AllBlank gap) (hsep : (∃ p ∈ prev, p.needsBlank l) → gap ≠ [])
      (hrest : Written (some l) ls rest) : Written prev (l :: ls) (gap ++ l.text ++ rest)

/-! ## Reading -/

def Reading.lexeme? : Reading → Option Lexeme
  | .literal token => token.map .literal
  | .operator op _ => some (.operator op)
  | .finished _ | .stray _ _ => none

/-- The lexemes of a text, in the order in which the scanner finds them. -/
def lexemes (text : Text) : List Lexeme := (readings text).filterMap Reading.lexeme?

/-- The readings reach the end of the text and amount to these lexemes. -/
inductive Reads : List Reading → List Lexeme → Prop
  | finished (position : Nat) : Reads [.finished position] []
  | none {rs : List Reading} {ls : List Lexeme} (h : Reads rs ls) : Reads (.literal none :: rs) ls
  | literal {rs : List Reading} {ls : List Lexeme} (token : Text) (h : Reads rs ls) :
      Reads (.literal (some token) :: rs) (.literal token :: ls)
  | operator {rs : List Reading} {ls : List Lexeme} (op : Operator) (position : Nat)
      (h : Reads rs ls) : Reads (.operator op position :: rs) (.operator op :: ls)

theorem Reads.filterMap_lexeme? {rs : List Reading} {ls : List Lexeme} (h : Reads rs ls) :
    rs.filterMap Reading.lexeme? = ls := by
  induction h with
  | finished position => rfl
  | none _ ih => exact ih
  | literal token _ ih => exact congrArg (Lexeme.literal token :: ·) ih
  | operator op position _ ih => exact congrArg (Lexeme.operator op :: ·) ih

theorem Reads.lexemes_eq {text : Text} {ls : List Lexeme} (h : Reads (readings text) ls) :
    lexemes text = ls := h.filterMap_lexeme?

/-! ### One reading at a time -/

theorem readingsFrom_true (s : Scanner) :
    readingsFrom true s = .literal s.readLiteral.1 :: readingsFrom false s.readLiteral.2 := by
  rw [readingsFrom, if_pos rfl]

private theorem skipBlanks_append {gap : Text} (hgap : AllBlank gap) (t : Text) (position : Nat) :
    Scanner.skipBlanks ⟨gap ++ t, position⟩
      = Scanner.skipBlanks ⟨t, position + Text.byteLength gap⟩ := by
  simp only [Scanner.skipBlanks, List.dropWhile_append_of_pos hgap,
    List.takeWhile_append_of_pos hgap, Text.byteLength_append, Nat.add_assoc]

theorem readingsFrom_false_append {gap : Text} (hgap : AllBlank gap) (t : Text) (position : Nat) :
    readingsFrom false ⟨gap ++ t, position⟩
      = readingsFrom false ⟨t, position + Text.byteLength gap⟩ := by
  rw [readingsFrom, if_neg Bool.false_ne_true, skipBlanks_append hgap, readingsFrom,
    if_neg Bool.false_ne_true]

theorem readingsFrom_false_nil (position : Nat) :
    readingsFrom false ⟨[], position⟩ = [.finished position] := by
  rw [readingsFrom]
  rfl

theorem readingsFrom_false_of_readOperator {s next : Scanner} {op : Operator}
    (h : s.skipBlanks.readOperator = some (op, next)) :
    readingsFrom false s
      = .operator op s.skipBlanks.position :: readingsFrom op.expectsLiteral next := by
  have hend : s.skipBlanks.atEnd = false := by
    rw [Scanner.atEnd, List.isEmpty_eq_false_iff]
    intro hnil
    rw [Scanner.readOperator, hnil, Operator.lookup_nil] at h
    cases h
  rw [readingsFrom, if_neg Bool.false_ne_true, hend, if_neg Bool.false_ne_true]
  split
  · next hnone =>
    rw [h] at hnone
    cases hnone
  · next op' next' hsome =>
    rw [h, Option.some_inj, Prod.mk.injEq] at hsome
    rw [hsome.1, hsome.2]

theorem readingsFrom_false_symbol {op : Operator} {t : Text} (position : Nat)
    (h : Operator.lookup (op.symbol ++ t) = some op) :
    readingsFrom false ⟨op.symbol ++ t, position⟩
      = .operator op position
        :: readingsFrom op.expectsLiteral ⟨t, position + Text.byteLength op.symbol⟩ := by
  have hskip : Scanner.skipBlanks ⟨op.symbol ++ t, position⟩ = ⟨op.symbol ++ t, position⟩ := by
    cases hsym : op.symbol with
    | nil => exact absurd hsym op.symbol_ne_nil
    | cons c u =>
      have hc : ¬isBlank c = true := by
        rw [op.isBlank_of_mem_symbol (by rw [hsym]; exact List.mem_cons_self)]
        exact Bool.false_ne_true
      rw [Scanner.skipBlanks, List.cons_append]
      simp only [List.dropWhile_cons_of_neg hc, List.takeWhile_cons_of_neg hc, Text.byteLength_nil,
        Nat.add_zero]
  have hread : Scanner.readOperator ⟨op.symbol ++ t, position⟩
      = some (op, ⟨t, position + Text.byteLength op.symbol⟩) := by
    rw [Scanner.readOperator, h, Option.map_some, List.drop_left]
  rw [readingsFrom_false_of_readOperator (by rw [hskip, hread]), hskip]

namespace Scanner

theorem exists_passed_skipBlanks (s : Scanner) : ∃ gap, AllBlank gap ∧
    s.rest = gap ++ s.skipBlanks.rest ∧ s.skipBlanks.position = s.position + gap.byteLength :=
  ⟨s.rest.takeWhile isBlank, fun _ hc ↦ List.mem_takeWhile_imp hc,
    List.takeWhile_append_dropWhile.symm, rfl⟩

theorem eq_of_readOperator {s next : Scanner} {op : Operator}
    (h : s.readOperator = some (op, next)) : s.rest = op.symbol ++ next.rest ∧
      next.position = s.position + op.symbol.byteLength ∧
      Operator.lookup (op.symbol ++ next.rest) = some op := by
  obtain ⟨op', hlook, heq⟩ := Option.map_eq_some_iff.mp h
  obtain ⟨rfl, rfl⟩ := Prod.mk.inj heq
  have hsymbol := List.prefix_iff_eq_append.mp
    (List.isPrefixOf_iff_prefix.mp (Operator.isPrefixOf_of_lookup hlook))
  exact ⟨hsymbol.symm, rfl, by rwa [hsymbol]⟩

end Scanner

theorem exists_gap_of_readOperator {s next : Scanner} {op : Operator}
    (h : s.skipBlanks.readOperator = some (op, next)) :
    ∃ gap, AllBlank gap ∧ s.rest = gap ++ (op.symbol ++ next.rest) ∧
      Operator.lookup (op.symbol ++ next.rest) = some op := by
  obtain ⟨gap, hgap, hrest, -⟩ := s.exists_passed_skipBlanks
  obtain ⟨hsymbol, -, hlook⟩ := Scanner.eq_of_readOperator h
  exact ⟨gap, hgap, by rw [hrest, hsymbol], hlook⟩

/-- An operator is read behind any blanks, also where an operand is due: there a literal is looked
for first, and there is none. -/
theorem Reads.symbol {expect : Bool} {gap t : Text} {op : Operator} {ls : List Lexeme}
    (hgap : AllBlank gap) (hlook : Operator.lookup (op.symbol ++ t) = some op)
    (h : ∀ position, Reads (readingsFrom op.expectsLiteral ⟨t, position⟩) ls) (position : Nat) :
    Reads (readingsFrom expect ⟨gap ++ (op.symbol ++ t), position⟩) (.operator op :: ls) := by
  cases expect with
  | false =>
    rw [readingsFrom_false_append hgap, readingsFrom_false_symbol _ hlook]
    exact .operator op _ (h _)
  | true =>
    rw [readingsFrom_true, Scanner.readLiteral_blanks hgap (endsLiteral_symbol_append op t),
      readingsFrom_false_symbol _ hlook]
    exact .none (.operator op _ (h _))

theorem lexemes_of_allBlank {text : Text} (h : AllBlank text) : lexemes text = [] := by
  have hread : Scanner.readLiteral ⟨text ++ [], 0⟩ = _ := Scanner.readLiteral_blanks h rfl
  rw [List.append_nil] at hread
  rw [lexemes, readings, Scanner.start, readingsFrom_true, hread, readingsFrom_false_nil]
  rfl

/-! ## What is written is read

The seams first: what the text goes on with behind a literal, and behind an operator. -/

/-- Behind a literal come blanks and then an operator or the end, and the first character is one
that no symbol reaches across. -/
private theorem exists_seam_of_written {token : Text} {ls : List Lexeme} {t : Text}
    (h : Written (some (.literal token)) ls t) (halt : Alternates false ls) :
    ∃ after remaining, t = after ++ remaining ∧ AllBlank after ∧ endsLiteral remaining = true ∧
      ∀ c ∈ t.head?, Operator.separates c = true := by
  cases h with
  | @nil _ gap hgap =>
    refine ⟨t, [], (List.append_nil t).symm, hgap, rfl, fun c hc ↦ ?_⟩
    rw [Operator.separates, hgap c (List.mem_of_mem_head? hc)]
    rfl
  | @cons _ l ls gap rest hgap hsep hrest =>
    cases l with
    | literal token' => exact absurd halt.1 (by simp [Lexeme.opensOperand])
    | operator op =>
      refine ⟨gap, op.symbol ++ rest, List.append_assoc _ _ _, hgap,
        endsLiteral_symbol_append op rest, fun c hc ↦ ?_⟩
      cases gap with
      | cons b gap =>
        obtain rfl : b = c := Option.some_inj.mp hc
        rw [Operator.separates, hgap b List.mem_cons_self]
        rfl
      | nil =>
        -- Without a blank in between the operator is a parenthesis.
        have hparen : op.category = .paren := by
          by_contra hne
          exact hsep ⟨_, rfl, hne⟩ rfl
        cases op with
        | openParen | closeParen =>
          obtain rfl := Option.some_inj.mp hc
          rfl
        | _ => cases hparen

/-- An operator is not lengthened by what is written behind it. -/
private theorem lookup_of_written {op : Operator} {ls : List Lexeme} {t : Text}
    (h : Written (some (.operator op)) ls t) (halt : Alternates op.expectsLiteral ls) :
    Operator.lookup (op.symbol ++ t) = some op := by
  refine Operator.lookup_symbol_append op ?_
  by_cases hparen : op.category = .paren
  · exact Or.inl hparen
  · refine Or.inr fun c hc ↦ ?_
    have hexpect : op.expectsLiteral = true := by cases op <;> first | rfl | exact absurd rfl hparen
    rw [hexpect] at halt
    cases h with
    | nil =>
      rw [Alternates] at halt
      cases halt
    | @cons _ l ls gap rest hgap hsep hrest =>
      cases gap with
      | cons b gap =>
        obtain rfl : b = c := Option.some_inj.mp hc
        exact Operator.lengthens_of_isBlank (hgap b List.mem_cons_self)
      | nil =>
        -- Without a blank in between an operand begins with an operator, hence with `(` or `!`.
        cases l with
        | literal token => exact absurd rfl (hsep ⟨_, rfl, hparen⟩)
        | operator op' =>
          have hopens := halt.1
          rw [Lexeme.opensOperand, Bool.or_eq_true, beq_iff_eq, beq_iff_eq] at hopens
          rcases hopens with rfl | rfl <;>
          · obtain rfl := Option.some_inj.mp hc
            rfl

/-- **Reading back.** The readings of a written sequence are the sequence. -/
theorem reads_of_written {prev : Option Lexeme} {ls : List Lexeme} {t : Text}
    (h : Written prev ls t) : ∀ {expect : Bool}, Alternates expect ls → AllTokens ls →
      ∀ position, Reads (readingsFrom expect ⟨t, position⟩) ls := by
  induction h with
  | @nil _ gap hgap =>
    intro expect halt _ position
    rw [Alternates] at halt
    rw [halt, ← List.append_nil gap, readingsFrom_false_append hgap, readingsFrom_false_nil]
    exact .finished _
  | @cons _ l ls gap rest hgap hsep hrest ih =>
    intro expect halt htokens position
    have htokens' : AllTokens ls := fun token hmem ↦ htokens token (List.mem_cons_of_mem l hmem)
    obtain ⟨hopens, halt⟩ := halt
    cases l with
    | literal token =>
      -- The scanner passes over the blanks behind a literal together with it.
      obtain ⟨after, remaining, rfl, hafter, hremaining, hseam⟩ := exists_seam_of_written hrest halt
      obtain rfl : true = expect := hopens
      have htoken : IsToken token := htokens token List.mem_cons_self
      have hih : Reads (readingsFrom false ⟨after ++ remaining,
          position + Text.byteLength (gap ++ token)⟩) ls := ih halt htokens' _
      rw [readingsFrom_false_append hafter, Nat.add_assoc, ← Text.byteLength_append] at hih
      rw [readingsFrom_true, Lexeme.text, ← List.append_assoc,
        Scanner.readLiteral_append hgap htoken hafter hremaining hseam]
      exact .literal token hih
    | operator op =>
      have hlook := lookup_of_written hrest (by simpa [Lexeme.closesOperand] using halt)
      have hih := fun position ↦ ih halt htokens' position
      rw [Lexeme.closesOperand, Bool.not_not] at hih
      rw [Lexeme.text, List.append_assoc]
      exact .symbol hgap hlook hih position

/-! ## A text inside another

What is read of a text does not change when more follows it, as long as that begins with an operator
and no symbol reaches across. Nothing is said of the lexemes here: the text may be any that is read
to its end. -/

theorem Reads.append {t : Text} {ls' : List Lexeme}
    (hseam : ∀ c ∈ t.head?, Operator.separates c = true) (hends : endsLiteral t = true)
    (hrest : ∀ position, Reads (readingsFrom false ⟨t, position⟩) ls') {expect : Bool}
    {s : Scanner} {ls : List Lexeme} (h : Reads (readingsFrom expect s) ls) :
    ∀ position, Reads (readingsFrom expect ⟨s.rest ++ t, position⟩) (ls ++ ls') := by
  fun_induction readingsFrom expect s generalizing ls with
  | case1 s ih =>
    intro position
    obtain ⟨position', hread⟩ := Scanner.readLiteral_append_of_separates hseam hends s position
    rw [readingsFrom_true, hread]
    generalize s.readLiteral.1 = token at h
    cases h with
    | none h => exact .none (ih h position')
    | literal token h => exact .literal token (ih h position')
  | case2 _ s hexpect hend =>
    intro position
    have hblank : AllBlank s.rest := by
      rw [Scanner.atEnd, List.isEmpty_iff] at hend
      exact List.dropWhile_eq_nil_iff.mp hend
    rw [Bool.not_eq_true] at hexpect
    cases h
    rw [hexpect, readingsFrom_false_append hblank, List.nil_append]
    exact hrest _
  | case3 _ s hexpect hend hnone => cases h
  | case4 _ s hexpect hend op next hread ih =>
    intro position
    obtain ⟨gap, hgap, hs, hlook⟩ := exists_gap_of_readOperator hread
    have hlook' : Operator.lookup (op.symbol ++ (next.rest ++ t)) = some op := by
      rw [← List.append_assoc, Operator.lookup_append_of_separates _ hseam, hlook]
      exact List.append_ne_nil_of_left_ne_nil op.symbol_ne_nil _
    rw [hs, List.append_assoc, List.append_assoc]
    cases h with
    | operator op position' h => exact .symbol hgap hlook' (ih h) position

/-! ## Any text

Two facts that need no writer: the readings of a text either reach its end or stop at something
stray, and all literals among them are tokens. -/

theorem reads_or_stray (expect : Bool) (s : Scanner) :
    Reads (readingsFrom expect s) ((readingsFrom expect s).filterMap Reading.lexeme?) ∨
      ∃ before position found, readingsFrom expect s = before ++ [.stray position found] := by
  fun_induction readingsFrom expect s with
  | case1 s ih =>
    rcases ih with ih | ⟨before, position, found, ih⟩
    · left
      cases s.readLiteral.1 with
      | none => exact .none ih
      | some token => exact .literal token ih
    · exact Or.inr ⟨_ :: before, position, found, by rw [ih, List.cons_append]⟩
  | case2 _ s _ hend => exact Or.inl (.finished _)
  | case3 _ s _ hend hnone => exact Or.inr ⟨[], _, _, rfl⟩
  | case4 _ s _ hend op next hread ih =>
    rcases ih with ih | ⟨before, position, found, ih⟩
    · exact Or.inl (.operator op _ ih)
    · exact Or.inr ⟨_ :: before, position, found, by rw [ih, List.cons_append]⟩

theorem isToken_of_mem_readingsFrom {expect : Bool} {s : Scanner} {token : Text}
    (h : .literal (some token) ∈ readingsFrom expect s) : IsToken token := by
  fun_induction readingsFrom expect s with
  | case1 s ih =>
    rcases List.mem_cons.mp h with heq | h
    · rw [Reading.literal.injEq] at heq
      exact Scanner.isToken_of_readLiteral (Prod.ext heq.symm rfl)
    · exact ih h
  | case2 _ s _ hend => simp at h
  | case3 _ s _ hend hnone => simp at h
  | case4 _ s _ hend op next hread ih =>
    rcases List.mem_cons.mp h with heq | h
    · cases heq
    · exact ih h

theorem allTokens_lexemes (text : Text) : AllTokens (lexemes text) := by
  intro token hmem
  obtain ⟨reading, hreading, hlexeme⟩ := List.mem_filterMap.mp hmem
  cases reading with
  | literal found =>
    obtain ⟨token', rfl, heq⟩ := Option.map_eq_some_iff.mp hlexeme
    rw [Lexeme.literal.injEq] at heq
    exact heq ▸ isToken_of_mem_readingsFrom hreading
  | operator op position => cases hlexeme
  | finished position => cases hlexeme
  | stray position found => cases hlexeme

end Placement
