import Placement.Proofs.Lexeme

/-!
# Where readings stand

Readings carry byte offsets, the scanner's own count of what it has passed. Here the count is tied
to the text. `Scanned` follows the scanner from the beginning of a text, one reading at a time, and
at every place that it comes to the text is what was passed and what is left, the offset the length
of the first part (`Scanned.exists_passed`). So an operator stands in the text where its reading
says (`exists_dropBytes_of_operator_mem`).

## What is stray

A reading is stray where an operator has to follow and none does. Behind a literal this cannot be,
since a literal only ends where an operator begins. So what is stray stands behind a closing
parenthesis, with nothing but blanks in between (`Scanned.exists_closeParen`).
-/

namespace Placement

theorem endsLiteral_splitLiteral (t : Text) : endsLiteral (splitLiteral t).2 = true := by
  induction t with
  | nil => rfl
  | cons c t ih =>
    rw [splitLiteral]
    split
    · assumption
    · exact ih

theorem Operator.expectsLiteral_eq_false_iff {op : Operator} :
    op.expectsLiteral = false ↔ op = .closeParen := by
  rw [expectsLiteral, bne_eq_false_iff_eq]

/-- Where no literal is looked for there are three ways to go on. -/
theorem readingsFrom_false_cases (s : Scanner) :
    (s.skipBlanks.atEnd = true ∧ readingsFrom false s = [.finished s.skipBlanks.position]) ∨
    (s.skipBlanks.atEnd = false ∧ s.skipBlanks.readOperator = none ∧
      readingsFrom false s = [.stray s.skipBlanks.position s.skipBlanks.rest]) ∨
    ∃ op next, s.skipBlanks.readOperator = some (op, next) ∧ readingsFrom false s
      = .operator op s.skipBlanks.position :: readingsFrom op.expectsLiteral next := by
  cases hend : s.skipBlanks.atEnd with
  | true => exact Or.inl ⟨rfl, by rw [readingsFrom, if_neg Bool.false_ne_true, if_pos hend]⟩
  | false =>
    cases hread : s.skipBlanks.readOperator with
    | some found =>
      exact Or.inr (Or.inr ⟨found.1, found.2, rfl, readingsFrom_false_of_readOperator hread⟩)
    | none =>
      refine Or.inr (Or.inl ⟨rfl, rfl, ?_⟩)
      rw [readingsFrom, if_neg Bool.false_ne_true, hend, if_neg Bool.false_ne_true]
      split
      · rfl
      · next hsome =>
        rw [hread] at hsome
        cases hsome

/-! ## Following the scanner -/

/-- The readings of a text up to a place, the scanner there, and whether a literal may come next. -/
inductive Scanned (text : Text) : List Reading → Bool → Scanner → Prop
  | start : Scanned text [] true (.start text)
  | literal {rs : List Reading} {s : Scanner} (h : Scanned text rs true s) :
      Scanned text (rs ++ [.literal s.readLiteral.1]) false s.readLiteral.2
  | operator {rs : List Reading} {s next : Scanner} {op : Operator} (h : Scanned text rs false s)
      (hread : s.skipBlanks.readOperator = some (op, next)) :
      Scanned text (rs ++ [.operator op s.skipBlanks.position]) op.expectsLiteral next

/-- Any part of the readings, from the beginning on and short of the last, leads to a place from
which the others are read. -/
theorem exists_scanned {text : Text} {before : List Reading} : ∀ {after : List Reading},
    readings text = before ++ after → after ≠ [] →
      ∃ expect s, Scanned text before expect s ∧ readingsFrom expect s = after := by
  induction before using List.reverseRecOn with
  | nil => exact fun h _ ↦ ⟨true, .start text, .start, h⟩
  | append_singleton before r ih =>
    intro after h hne
    -- There is a reading left after `before`, the one that `after` follows.
    rw [List.append_assoc] at h
    obtain ⟨expect, s, hs, hafter⟩ := ih h (List.cons_ne_nil r after)
    cases expect with
    | true =>
      rw [readingsFrom_true] at hafter
      obtain ⟨rfl, hrest⟩ := List.cons.inj hafter
      exact ⟨false, _, hs.literal, hrest⟩
    | false =>
      rcases readingsFrom_false_cases s with ⟨-, hlast⟩ | ⟨-, -, hlast⟩ | ⟨op, next, hread, hmore⟩
      · rw [hlast] at hafter
        exact absurd (List.cons.inj hafter).2.symm hne
      · rw [hlast] at hafter
        exact absurd (List.cons.inj hafter).2.symm hne
      · rw [hmore] at hafter
        obtain ⟨rfl, hrest⟩ := List.cons.inj hafter
        exact ⟨_, next, hs.operator hread, hrest⟩

namespace Scanner

/-! ### Single steps -/

theorem exists_passed_readLiteral (s : Scanner) : ∃ passed,
    s.rest = passed ++ s.readLiteral.2.rest ∧
      s.readLiteral.2.position = s.position + passed.byteLength :=
  ⟨(splitLiteral s.rest).1, (splitLiteral_append s.rest).symm, rfl⟩

theorem isBlank_of_mem_head?_skipBlanks (s : Scanner) {c : Char}
    (h : c ∈ s.skipBlanks.rest.head?) : isBlank c = false :=
  eq_false_of_mem_head?_dropWhile h

theorem readOperator_ne_none_of_endsLiteral {s : Scanner} (h : endsLiteral s.rest = true)
    (hend : s.skipBlanks.atEnd = false) : s.skipBlanks.readOperator ≠ none := by
  cases hrest : s.rest with
  | nil =>
    rw [atEnd, skipBlanks, hrest] at hend
    cases hend
  | cons c t =>
    rw [hrest, endsLiteral_cons] at h
    obtain ⟨op, hlook⟩ := Option.isSome_iff_exists.mp h
    have hblank : isBlank c = false := by
      rw [Bool.eq_false_iff]
      intro hc
      rw [Operator.lookup_cons_of_isBlank hc] at hlook
      cases hlook
    have hskip : s.skipBlanks.rest = c :: t := by
      rw [skipBlanks, hrest]
      exact List.dropWhile_cons_of_neg (by rw [hblank]; exact Bool.false_ne_true)
    rw [readOperator, hskip, hlook]
    exact Option.some_ne_none _

end Scanner

namespace Scanned

variable {text : Text} {rs : List Reading} {expect : Bool} {s : Scanner}

/-- The text is what was passed and what is left, and the offset says how much was passed. -/
theorem exists_passed (h : Scanned text rs expect s) :
    ∃ passed, text = passed ++ s.rest ∧ s.position = passed.byteLength := by
  induction h with
  | start => exact ⟨[], rfl, rfl⟩
  | @literal rs s h ih =>
    obtain ⟨passed, htext, hposition⟩ := ih
    obtain ⟨more, hrest, hnext⟩ := s.exists_passed_readLiteral
    exact ⟨passed ++ more, by rw [htext, hrest, List.append_assoc],
      by rw [hnext, hposition, Text.byteLength_append]⟩
  | @operator rs s next op h hread ih =>
    obtain ⟨passed, htext, hposition⟩ := ih
    obtain ⟨gap, -, hrest, hskip⟩ := s.exists_passed_skipBlanks
    obtain ⟨hsymbol, hnext, -⟩ := Scanner.eq_of_readOperator hread
    refine ⟨passed ++ (gap ++ op.symbol), ?_, ?_⟩
    · rw [htext, hrest, hsymbol]
      simp only [List.append_assoc]
    · rw [hnext, hskip, hposition, Text.byteLength_append, Text.byteLength_append, Nat.add_assoc]

theorem exists_passed_skipBlanks (h : Scanned text rs expect s) : ∃ passed,
    text = passed ++ s.skipBlanks.rest ∧ s.skipBlanks.position = passed.byteLength := by
  obtain ⟨passed, htext, hposition⟩ := h.exists_passed
  obtain ⟨gap, -, hrest, hskip⟩ := s.exists_passed_skipBlanks
  exact ⟨passed ++ gap, by rw [htext, hrest, List.append_assoc],
    by rw [hskip, hposition, Text.byteLength_append]⟩

theorem dropBytes_eq (h : Scanned text rs expect s) :
    text.dropBytes s.skipBlanks.position = some s.skipBlanks.rest := by
  obtain ⟨passed, htext, hposition⟩ := h.exists_passed_skipBlanks
  rw [hposition, htext]
  exact Text.dropBytes_byteLength_append _ _

theorem position_eq_byteLength (h : Scanned text rs expect s) (hend : s.skipBlanks.atEnd = true) :
    s.skipBlanks.position = text.byteLength := by
  obtain ⟨passed, htext, hposition⟩ := h.exists_passed_skipBlanks
  rw [Scanner.atEnd, List.isEmpty_iff] at hend
  rw [hposition, htext, hend, List.append_nil]

/-- What is stray stands behind a closing parenthesis, with nothing but blanks in between. -/
theorem exists_closeParen (h : Scanned text rs false s) (hend : s.skipBlanks.atEnd = false)
    (hnone : s.skipBlanks.readOperator = none) : ∃ before front gap,
      rs = before ++ [.operator .closeParen (Text.byteLength front)] ∧ AllBlank gap ∧
      text = front ++ (')' :: gap) ++ s.skipBlanks.rest ∧
      s.skipBlanks.position = Text.byteLength (front ++ (')' :: gap)) := by
  generalize hexpect : false = expect at h
  cases h with
  | start => cases hexpect
  | literal h =>
    exact absurd hnone
      (Scanner.readOperator_ne_none_of_endsLiteral (endsLiteral_splitLiteral _) hend)
  | operator h hread =>
    obtain rfl := Operator.expectsLiteral_eq_false_iff.mp hexpect.symm
    obtain ⟨front, htext, hposition⟩ := h.exists_passed_skipBlanks
    obtain ⟨hsymbol, hnext, -⟩ := Scanner.eq_of_readOperator hread
    obtain ⟨gap, hgap, hrest, hskip⟩ := s.exists_passed_skipBlanks
    refine ⟨_, front, gap, by rw [hposition], hgap, ?_, ?_⟩
    · rw [htext, hsymbol, hrest]
      simp [Operator.symbol]
    · rw [hskip, hnext, hposition]
      simp [Operator.symbol, Nat.add_assoc]

end Scanned

/-! ## Operators -/

theorem exists_dropBytes_of_operator_mem {text : Text} {op : Operator} {position : Nat}
    (h : .operator op position ∈ readings text) :
    ∃ after, text.dropBytes position = some (op.symbol ++ after) := by
  obtain ⟨before, after, hsplit⟩ := List.append_of_mem h
  obtain ⟨expect, s, hs, hread⟩ := exists_scanned hsplit (List.cons_ne_nil _ _)
  cases expect with
  | true =>
    rw [readingsFrom_true] at hread
    cases hread
  | false =>
    rcases readingsFrom_false_cases s with ⟨-, hlast⟩ | ⟨-, -, hlast⟩ | ⟨op', next, hop, hmore⟩
    · rw [hlast] at hread
      cases hread
    · rw [hlast] at hread
      cases hread
    · rw [hmore] at hread
      obtain ⟨rfl, rfl⟩ := Reading.operator.inj (List.cons.inj hread).1
      rw [hs.dropBytes_eq, (Scanner.eq_of_readOperator hop).1]
      exact ⟨_, rfl⟩

end Placement
