import Placement.Proofs.Machine
import Placement.Proofs.Offsets

/-!
# Blanks beside operators

Blanks may be put in at either end of a constraint and on either side of any of its operators
without changing what it compiles to. This is a statement about two texts: `Spaced` relates a text
to one that has blanks inserted at some given places, as byte offsets, and `seams` lists the places
that are meant, as the reader finds them.

## Why nothing changes

Symbols hold no blanks. So a symbol that occurs in the wider text occurs in the narrower one as well
(`Spaced.prefix_of_prefix`): inserting blanks may take occurrences of symbols away, never add any.
Where the narrower text has no symbol, the wider one has none either, and so literals extend as far
as before, up to blanks that are trimmed. And where an operator is read, its own symbol is left as
it is, since no seam lies inside it, and those tried before it are still not there.
-/

namespace Placement

/-- The two ends of an operator, as byte offsets. -/
def Reading.ends : Reading → List Nat
  | .operator op position => [position, position + op.symbol.byteLength]
  | .literal _ | .finished _ | .stray _ _ => []

/-- The places at which blanks do not matter: both ends of a text, and both ends of every operator
that is read in it. -/
def seams (text : Text) : List Nat :=
  0 :: text.byteLength :: (readings text).flatMap Reading.ends

/-- The texts made from one that begins at byte offset `n` by inserting blanks at some places. -/
inductive Spaced (places : List Nat) : Nat → Text → Text → Prop
  | nil {n : Nat} {gap : Text} (hgap : AllBlank gap) (hplace : gap ≠ [] → n ∈ places) :
      Spaced places n [] gap
  | cons {n : Nat} {c : Char} {t t' gap : Text} (hgap : AllBlank gap)
      (hplace : gap ≠ [] → n ∈ places) (h : Spaced places (n + c.utf8Size) t t') :
      Spaced places n (c :: t) (gap ++ c :: t')

namespace Spaced

variable {places : List Nat} {n : Nat} {t t' rest : Text}

/-! ## Parts of a spaced text -/

/-- A part that no place touches is left as it is. -/
theorem exists_tight {passed : Text} (h : Spaced places n (passed ++ rest) t')
    (hplaces : ∀ place ∈ places, place < n ∨ n + Text.byteLength passed ≤ place) :
    ∃ u, t' = passed ++ u ∧ Spaced places (n + Text.byteLength passed) rest u := by
  induction passed generalizing n t' with
  | nil => exact ⟨t', rfl, h⟩
  | cons c passed ih =>
    have hsize := c.utf8Size_pos
    rw [Text.byteLength_cons] at hplaces ⊢
    cases h with
    | @cons _ _ _ t' gap hgap hplace h =>
      -- What is inserted before `c` stands at `n`, which is no place for it.
      have hnil : gap = [] := by
        by_contra hne
        rcases hplaces n (hplace hne) with hlt | hle <;> omega
      obtain ⟨u, rfl, hu⟩ := ih h fun place hmem ↦ by
        rcases hplaces place hmem with hlt | hle <;> omega
      rw [Nat.add_assoc] at hu
      exact ⟨u, by rw [hnil]; rfl, hu⟩

/-- A part that no place lies inside of is left as it is, behind some blanks. -/
theorem exists_gap {passed : Text} (h : Spaced places n (passed ++ rest) t')
    (hplaces : ∀ place ∈ places, place ≤ n ∨ n + Text.byteLength passed ≤ place) :
    ∃ gap u, AllBlank gap ∧ t' = gap ++ (passed ++ u) ∧
      Spaced places (n + Text.byteLength passed) rest u := by
  cases passed with
  | nil => exact ⟨[], t', allBlank_nil, rfl, h⟩
  | cons c passed =>
    have hsize := c.utf8Size_pos
    rw [Text.byteLength_cons] at hplaces ⊢
    cases h with
    | @cons _ _ _ t' gap hgap hplace h =>
      obtain ⟨u, rfl, hu⟩ := h.exists_tight fun place hmem ↦ by
        rcases hplaces place hmem with hle | hle <;> omega
      rw [Nat.add_assoc] at hu
      exact ⟨gap, u, hgap, rfl, hu⟩

theorem exists_gap_of_allBlank {blanks : Text} (hblanks : AllBlank blanks)
    (h : Spaced places n (blanks ++ rest) t') : ∃ gap u, AllBlank gap ∧ t' = gap ++ u ∧
      Spaced places (n + Text.byteLength blanks) rest u := by
  induction blanks generalizing n t' with
  | nil => exact ⟨[], t', allBlank_nil, rfl, h⟩
  | cons c blanks ih =>
    obtain ⟨hc, hblanks⟩ := List.forall_mem_cons.mp hblanks
    cases h with
    | @cons _ _ _ t' gap hgap hplace h =>
      obtain ⟨gap', u, hgap', rfl, hu⟩ := ih hblanks h
      rw [Nat.add_assoc] at hu
      refine ⟨gap ++ c :: gap', u, ?_, by rw [List.append_assoc, List.cons_append], hu⟩
      exact List.forall_mem_append.mpr ⟨hgap, List.forall_mem_cons.mpr ⟨hc, hgap'⟩⟩

theorem eq_gap_of_nil (h : Spaced places n [] t') : AllBlank t' := by
  cases h with
  | nil hgap hplace => exact hgap

theorem subset (h : Spaced places n t t') : t ⊆ t' := by
  induction h with
  | nil => exact List.nil_subset _
  | cons hgap hplace h ih =>
    refine List.cons_subset.mpr ⟨List.mem_append_right _ List.mem_cons_self, fun d hd ↦ ?_⟩
    exact List.mem_append_right _ (List.mem_cons_of_mem _ (ih hd))

/-! ## Symbols -/

/-- What begins the wider text and holds no blank begins the narrower one. -/
theorem prefix_of_prefix (h : Spaced places n t t') {w : Text}
    (hw : ∀ c ∈ w, isBlank c = false) (hbegins : w <+: t') : w <+: t := by
  induction h generalizing w with
  | @nil n gap hgap hplace =>
    cases w with
    | nil => exact List.nil_prefix
    | cons c w =>
      have hblank := hgap c (hbegins.subset List.mem_cons_self)
      rw [hw c List.mem_cons_self] at hblank
      cases hblank
  | @cons n d t t' gap hgap hplace h ih =>
    cases w with
    | nil => exact List.nil_prefix
    | cons c w =>
      obtain ⟨hc, hw⟩ := List.forall_mem_cons.mp hw
      cases gap with
      | cons b gap =>
        -- The first character would be one of the blanks put in.
        obtain ⟨rfl, -⟩ := List.cons_prefix_cons.mp hbegins
        rw [hgap c List.mem_cons_self] at hc
        cases hc
      | nil =>
        obtain ⟨rfl, hrest⟩ := List.cons_prefix_cons.mp hbegins
        exact List.cons_prefix_cons.mpr ⟨rfl, ih hw hrest⟩

/-- A symbol that begins before the inserted blanks and reaches behind them did so without them. -/
theorem symbol_prefix (h : Spaced places n t t') (op : Operator) (s : Text)
    (hbegins : op.symbol <+: s ++ t') : op.symbol <+: s ++ t := by
  rcases List.prefix_or_prefix_of_prefix hbegins (List.prefix_append s t') with hs | ⟨w, hw⟩
  · exact hs.trans (List.prefix_append s t)
  · -- The part of the symbol that reaches behind `s` holds no blank.
    have hblank : ∀ c ∈ w, isBlank c = false := fun c hc ↦
      op.isBlank_of_mem_symbol (by rw [← hw]; exact List.mem_append_right _ hc)
    rw [← hw, List.prefix_append_right_inj] at hbegins ⊢
    exact h.prefix_of_prefix hblank hbegins

theorem lookup_eq_none (h : Spaced places n t t') {s : Text}
    (hnone : Operator.lookup (s ++ t) = none) : Operator.lookup (s ++ t') = none := by
  rw [Operator.lookup_eq_none_iff] at hnone ⊢
  exact fun op hbegins ↦ hnone op (h.symbol_prefix op s hbegins)

/-- An operator that is read is read again: its own symbol is there, and those before it in the
catalog are still not. -/
theorem lookup_eq_some (h : Spaced places n t t') {op : Operator}
    (hsome : Operator.lookup (op.symbol ++ t) = some op) :
    Operator.lookup (op.symbol ++ t') = some op := by
  rw [Operator.lookup, List.find?_eq_some_iff_append] at hsome ⊢
  obtain ⟨-, before, after, hcatalog, hbefore⟩ := hsome
  refine ⟨Operator.begins_iff.mpr (List.prefix_append _ _), before, after, hcatalog,
    fun other hother ↦ ?_⟩
  have hnot := hbefore other hother
  rw [Bool.not_eq_true', ← Bool.not_eq_true, Operator.begins_iff] at hnot ⊢
  exact fun hbegins ↦ hnot (h.symbol_prefix other op.symbol hbegins)

theorem passes (h : Spaced places n t t') {passed : Text} (hpasses : Passes passed t) :
    Passes passed t' := fun s hs hne ↦ h.lookup_eq_none (hpasses s hs hne)

end Spaced

/-! ## Reading a spaced text -/

theorem Text.trim_append_append {p : Char → Bool} {before after : Text}
    (hbefore : ∀ c ∈ before, p c = true) (hafter : ∀ c ∈ after, p c = true) (t : Text) :
    (before ++ t ++ after).trim p = t.trim p := by
  have hend : ∀ u : Text, trimEnd p (u ++ after) = trimEnd p u := by
    intro u
    rw [trimEnd, List.reverse_append, List.dropWhile_append_of_pos, trimEnd]
    exact fun c hc ↦ hafter c (List.mem_reverse.mp hc)
  rw [trim, List.append_assoc, List.dropWhile_append_of_pos hbefore, List.dropWhile_append, trim]
  split
  · next hnil =>
    rw [List.isEmpty_iff.mp hnil, List.dropWhile_eq_nil_iff.mpr hafter]
  · exact hend _

theorem le_of_mem_ends {expect : Bool} {s : Scanner} {place : Nat}
    (h : place ∈ (readingsFrom expect s).flatMap Reading.ends) : s.position ≤ place := by
  fun_induction readingsFrom expect s with
  | case1 s ih =>
    obtain ⟨passed, -, hposition⟩ := s.exists_passed_readLiteral
    have hle := ih h
    omega
  | case2 _ s _ hend => cases h
  | case3 _ s _ hend hnone => cases h
  | case4 _ s _ hend op next hread ih =>
    obtain ⟨gap, -, -, hskip⟩ := s.exists_passed_skipBlanks
    obtain ⟨-, hnext, -⟩ := Scanner.eq_of_readOperator hread
    rw [List.flatMap_cons, List.mem_append] at h
    rcases h with hhere | hlater
    · simp only [Reading.ends, List.mem_cons, List.not_mem_nil, or_false] at hhere
      omega
    · have hle := ih hlater
      omega

/-- From here on, places lie beside the operators that are read or at the end. -/
def Clear (places : List Nat) (expect : Bool) (s : Scanner) : Prop :=
  ∀ place ∈ places, place ≤ s.position ∨ place ∈ (readingsFrom expect s).flatMap Reading.ends ∨
    s.position + Text.byteLength s.rest ≤ place

namespace Clear

variable {places : List Nat} {s next : Scanner} {op : Operator}

/-- No place lies inside a literal, and behind it they are as before. -/
theorem literal (h : Clear places true s) : Clear places false s.readLiteral.2 ∧
    ∀ place ∈ places, place ≤ s.position ∨ s.readLiteral.2.position ≤ place := by
  obtain ⟨passed, hrest, hposition⟩ := s.exists_passed_readLiteral
  have hlength := congrArg Text.byteLength hrest
  rw [Text.byteLength_append] at hlength
  rw [Clear, readingsFrom_true] at h
  refine ⟨fun place hmem ↦ ?_, fun place hmem ↦ ?_⟩
  · rcases h place hmem with hle | hends | hle
    · exact Or.inl (by omega)
    · exact Or.inr (Or.inl hends)
    · exact Or.inr (Or.inr (by omega))
  · rcases h place hmem with hle | hends | hle
    · exact Or.inl hle
    · exact Or.inr (le_of_mem_ends hends)
    · exact Or.inr (by omega)

theorem operator (h : Clear places false s) (hread : s.skipBlanks.readOperator = some (op, next)) :
    Clear places op.expectsLiteral next ∧
      ∀ place ∈ places, place ≤ s.skipBlanks.position ∨ next.position ≤ place := by
  obtain ⟨gap, -, hrest, hskip⟩ := s.exists_passed_skipBlanks
  obtain ⟨hsymbol, hnext, -⟩ := Scanner.eq_of_readOperator hread
  have hlength := congrArg Text.byteLength hrest
  rw [Text.byteLength_append, hsymbol, Text.byteLength_append] at hlength
  rw [Clear, readingsFrom_false_of_readOperator hread, List.flatMap_cons] at h
  simp only [Reading.ends, List.mem_append, List.mem_cons, List.not_mem_nil, or_false] at h
  refine ⟨fun place hmem ↦ ?_, fun place hmem ↦ ?_⟩
  · rcases h place hmem with hle | ((hbegin | hend) | hends) | hle
    · exact Or.inl (by omega)
    · exact Or.inl (by omega)
    · exact Or.inl (by omega)
    · exact Or.inr (Or.inl hends)
    · exact Or.inr (Or.inr (by omega))
  · rcases h place hmem with hle | ((hbegin | hend) | hends) | hle
    · exact Or.inl (by omega)
    · exact Or.inl (by omega)
    · exact Or.inr (by omega)
    · exact Or.inr (le_of_mem_ends hends)
    · exact Or.inr (by omega)

end Clear

namespace Spaced

variable {places : List Nat} {s next : Scanner} {op : Operator} {t' : Text}

/-- Where an operator is read, the wider text has it behind blanks as well. -/
theorem exists_symbol (h : Spaced places s.position s.rest t') (hclear : Clear places false s)
    (hread : s.skipBlanks.readOperator = some (op, next)) : ∃ gap u, AllBlank gap ∧
      t' = gap ++ (op.symbol ++ u) ∧ Operator.lookup (op.symbol ++ u) = some op ∧
      Spaced places next.position next.rest u := by
  obtain ⟨gap, hgap, hrest, hskip⟩ := s.exists_passed_skipBlanks
  obtain ⟨hsymbol, hnext, hlook⟩ := Scanner.eq_of_readOperator hread
  rw [hrest, hsymbol] at h
  obtain ⟨gap', u, hgap', rfl, hu⟩ := h.exists_gap_of_allBlank hgap
  rw [← hskip] at hu
  obtain ⟨gap'', v, hgap'', rfl, hv⟩ := hu.exists_gap (hnext ▸ (hclear.operator hread).2)
  rw [← hnext] at hv
  exact ⟨gap' ++ gap'', v, List.forall_mem_append.mpr ⟨hgap', hgap''⟩,
    (List.append_assoc _ _ _).symm, hv.lookup_eq_some hlook, hv⟩

theorem allBlank_of_atEnd (h : Spaced places s.position s.rest t')
    (hend : s.skipBlanks.atEnd = true) : AllBlank t' := by
  obtain ⟨gap, hgap, hrest, -⟩ := s.exists_passed_skipBlanks
  rw [Scanner.atEnd, List.isEmpty_iff] at hend
  rw [hrest, hend] at h
  obtain ⟨gap', u, hgap', rfl, hu⟩ := h.exists_gap_of_allBlank hgap
  exact List.forall_mem_append.mpr ⟨hgap', hu.eq_gap_of_nil⟩

theorem exists_ending (h : Spaced places s.position s.rest t') (hclear : Clear places false s)
    (hends : endsLiteral s.rest = true) : ∃ gap remaining, AllBlank gap ∧
      t' = gap ++ remaining ∧ endsLiteral remaining = true := by
  rcases readingsFrom_false_cases s with ⟨hend, -⟩ | ⟨hend, hnone, -⟩ | ⟨op, next, hread, -⟩
  · exact ⟨t', [], h.allBlank_of_atEnd hend, (List.append_nil _).symm, rfl⟩
  · exact absurd hnone (Scanner.readOperator_ne_none_of_endsLiteral hends hend)
  · obtain ⟨gap, u, hgap, rfl, -⟩ := h.exists_symbol hclear hread
    exact ⟨gap, _, hgap, rfl, endsLiteral_symbol_append op u⟩

/-- The same literal is read, and what is left for the wider text is wider than what is left for the
narrower one, blanks apart. -/
theorem exists_readLiteral (h : Spaced places s.position s.rest t') (hclear : Clear places true s)
    (position : Nat) : ∃ gap remaining position', AllBlank gap ∧
      Spaced places s.readLiteral.2.position s.readLiteral.2.rest (gap ++ remaining) ∧
      Scanner.readLiteral ⟨t', position⟩
        = (s.readLiteral.1, ⟨remaining, position' + Text.byteLength gap⟩) := by
  obtain ⟨hnext, hplaces⟩ := hclear.literal
  rw [← splitLiteral_append s.rest] at h
  obtain ⟨gap, u, hgap, rfl, hu⟩ := h.exists_gap hplaces
  obtain ⟨gap', remaining, hgap', rfl, hremaining⟩ :=
    exists_ending (s := s.readLiteral.2) hu hnext (endsLiteral_splitLiteral s.rest)
  refine ⟨gap', remaining, position + Text.byteLength (gap ++ (splitLiteral s.rest).1), hgap', hu,
    ?_⟩
  -- The literal is split where it ends together with the blanks around it, which are trimmed.
  have hpasses : Passes (gap ++ (splitLiteral s.rest).1 ++ gap') remaining := by
    rw [List.append_assoc]
    exact (hgap.passes _).append (Passes.append (hu.passes (passes_splitLiteral s.rest))
      (hgap'.passes _))
  have hsplit := splitLiteral_eq hpasses hremaining
  have htrim : Text.trimBlanks (gap ++ (splitLiteral s.rest).1 ++ gap')
      = (splitLiteral s.rest).1.trimBlanks := Text.trim_append_append hgap hgap' _
  rw [Nat.add_assoc, ← Text.byteLength_append]
  simp only [List.append_assoc] at hsplit htrim ⊢
  simp only [Scanner.readLiteral, hsplit, htrim]

end Spaced

/-- **Reading on.** A spaced text has the lexemes of the narrower one. -/
theorem Reads.spaced {places : List Nat} {expect : Bool} {s : Scanner} {ls : List Lexeme}
    (h : Reads (readingsFrom expect s) ls) (hclear : Clear places expect s) {t' : Text}
    (hspaced : Spaced places s.position s.rest t') :
    ∀ position, Reads (readingsFrom expect ⟨t', position⟩) ls := by
  fun_induction readingsFrom expect s generalizing ls t' with
  | case1 s ih =>
    intro position
    obtain ⟨gap, remaining, position', hgap, hrest, hread⟩ :=
      hspaced.exists_readLiteral hclear position
    rw [readingsFrom_true, hread, ← readingsFrom_false_append hgap]
    have hnext := fun {l} (h : Reads _ l) ↦ ih h hclear.literal.1 hrest position'
    generalize s.readLiteral.1 = token at h
    cases h with
    | none h => exact .none (hnext h)
    | literal token h => exact .literal token (hnext h)
  | case2 _ s hexpect hend =>
    intro position
    rw [Bool.not_eq_true] at hexpect
    cases h
    rw [hexpect, ← List.append_nil t',
      readingsFrom_false_append (hspaced.allBlank_of_atEnd hend), readingsFrom_false_nil]
    exact .finished _
  | case3 _ s hexpect hend hnone => cases h
  | case4 _ s hexpect hend op next hread ih =>
    intro position
    rw [Bool.not_eq_true] at hexpect
    subst hexpect
    obtain ⟨gap, u, hgap, rfl, hlook, hu⟩ := hspaced.exists_symbol hclear hread
    cases h with
    | operator op position' h =>
      exact .symbol hgap hlook (ih h (hclear.operator hread).1 hu) position

/-- **Spacing.** Blanks inserted at either end of an accepted text and beside its operators change
nothing: the wider text compiles to the same constraint. -/
theorem compile_spaced {text text' : Text} {e : Expression} (hblank : text.trimBlanks ≠ [])
    (h : compile text = .ok e) (hspaced : Spaced (seams text) 0 text text') :
    compile text' = .ok e := by
  have hblank' : text'.trimBlanks ≠ [] := by
    rw [Text.trimBlanks, Ne, Text.trim_eq_nil_iff] at hblank ⊢
    exact fun hall ↦ hblank fun c hc ↦ hall c (hspaced.subset hc)
  have hclear : Clear (seams text) true (.start text) := by
    intro place hmem
    rcases List.mem_cons.mp hmem with rfl | hmem
    · exact Or.inl le_rfl
    · rcases List.mem_cons.mp hmem with rfl | hmem
      · exact Or.inr (Or.inr (Nat.zero_add _).le)
      · exact Or.inr (Or.inl hmem)
  obtain ⟨hreads, hmachine⟩ := (compile_eq_ok_iff hblank).mp h
  have hreads' : Reads (readings text') (lexemes text) := hreads.spaced hclear hspaced 0
  rw [compile_eq_ok_iff hblank', hreads'.lexemes_eq]
  exact ⟨hreads', hmachine⟩

theorem compile_spaced_bars :
    compile "!a|||b".toList
      = .ok ⟨.connective .or (.not (.literal ['a'])) (.literal ['|', 'b']), false⟩ ∧
    Spaced (seams "!a|||b".toList) 0 "!a|||b".toList " ! a\t|| |b\n".toList ∧
    compile " ! a\t|| |b\n".toList
      = .ok ⟨.connective .or (.not (.literal ['a'])) (.literal ['|', 'b']), false⟩ := by
  have hcompile : compile "!a|||b".toList
      = .ok ⟨.connective .or (.not (.literal ['a'])) (.literal ['|', 'b']), false⟩ := by
    decide +kernel
  have hseams : seams "!a|||b".toList = [0, 6, 0, 1, 2, 4] := by decide +kernel
  have hspaced : Spaced (seams "!a|||b".toList) 0 ['!', 'a', '|', '|', '|', 'b']
      ([' '] ++ '!' :: ([' '] ++ 'a' :: (['\t'] ++ '|' :: ([] ++ '|' :: ([' '] ++ '|' ::
        ([] ++ 'b' :: ['\n'])))))) := by
    rw [hseams]
    refine .cons ?_ ?_ (.cons ?_ ?_ (.cons ?_ ?_ (.cons ?_ ?_ (.cons ?_ ?_ (.cons ?_ ?_
      (.nil ?_ ?_))))))
    all_goals simp [AllBlank, isBlank, Char.utf8Size]
  exact ⟨hcompile, hspaced, compile_spaced (by decide) hcompile hspaced⟩

end Placement
