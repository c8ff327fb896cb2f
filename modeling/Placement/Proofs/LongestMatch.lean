import Mathlib.Order.Bounds.Basic
import Placement.Proofs.Boundaries

/-!
# The first symbol and the longest

What the scanner has to find is said most plainly in bytes: at which offsets of a text the bytes of
a symbol stand (`Operator.OccursAt`), offsets inside a character included. A literal ends at the
first of them, and the operator read there is the longest one (`Scanner.first_and_longest`).

The scanner itself is quicker. It looks at the beginnings of characters only, passes over ASCII
letters and digits unseen, and takes the first operator of the catalog that fits.

## Why the quick way is right

That no symbol begins inside a character is a matter of encoding, and was settled where texts are
compared with their bytes. That the first operator is the longest is the order of the catalog: no
symbol begins one that is tried after it (`Operator.pairwise_catalog`). Of two symbols that stand at
one place the shorter begins the longer, so the longer is the one that is tried first.
-/

namespace Placement

namespace Operator

/-- The bytes of the operator's symbol stand in the text at this offset. -/
def OccursAt (op : Operator) (text : Text) (offset : Nat) : Prop :=
  op.symbol.toBytes <+: text.toBytes.drop offset

theorem occursAt_iff {op : Operator} {text : Text} {offset : Nat} :
    op.OccursAt text offset ↔ ∃ rest, text.dropBytes offset = some rest ∧ op.symbol <+: rest :=
  Text.toBytes_prefix_drop_iff op.allAscii_symbol op.symbol_ne_nil

theorem occursAt_iff_of_dropBytes {op : Operator} {text rest : Text} {offset : Nat}
    (h : text.dropBytes offset = some rest) : op.OccursAt text offset ↔ op.symbol <+: rest := by
  simp [occursAt_iff, h]

/-! ## The order of the catalog -/

/-- No symbol begins one that is tried after it. -/
theorem pairwise_catalog : catalog.Pairwise fun op later ↦ ¬op.symbol <+: later.symbol := by
  decide

theorem symbol_prefix_of_lookup {t : Text} {op : Operator} (h : lookup t = some op) :
    op.symbol <+: t := List.isPrefixOf_iff_prefix.mp (isPrefixOf_of_lookup h)

/-- Whatever else begins a text is shorter than what is looked up. -/
theorem eq_or_length_lt_of_lookup {t : Text} {op other : Operator} (h : lookup t = some op)
    (hother : other.symbol <+: t) : other = op ∨ other.symbol.length < op.symbol.length := by
  obtain ⟨-, before, after, hcatalog, hbefore⟩ := List.find?_eq_some_iff_append.mp h
  have hmem := other.mem_catalog
  rw [hcatalog, List.mem_append, List.mem_cons] at hmem
  rcases hmem with hmem | rfl | hmem
  · -- What is tried before `op` does not begin the text.
    have hnot := hbefore other hmem
    rw [begins_iff.mpr hother] at hnot
    cases hnot
  · exact Or.inl rfl
  · have horder := pairwise_catalog
    rw [hcatalog, List.pairwise_append, List.pairwise_cons] at horder
    have hnot : ¬op.symbol <+: other.symbol := horder.2.1.1 other hmem
    refine Or.inr ?_
    by_contra hle
    exact hnot (List.prefix_of_prefix_length_le (symbol_prefix_of_lookup h) hother
      (Nat.le_of_not_lt hle))

/-- What is looked up is the longest operator that begins the text. -/
theorem lookup_eq_some_iff {t : Text} {op : Operator} : lookup t = some op ↔
    op.symbol <+: t ∧ ∀ other : Operator, other.symbol <+: t →
      other = op ∨ other.symbol.length < op.symbol.length := by
  constructor
  · intro h
    exact ⟨symbol_prefix_of_lookup h, fun other ↦ eq_or_length_lt_of_lookup h⟩
  · rintro ⟨hop, hlongest⟩
    obtain ⟨found, hfound⟩ := Option.isSome_iff_exists.mp (lookup_isSome_iff.mpr ⟨op, hop⟩)
    -- Both are the longest, so each of them would be shorter than the other.
    rcases eq_or_length_lt_of_lookup hfound hop with rfl | hlt
    · exact hfound
    · rcases hlongest found (symbol_prefix_of_lookup hfound) with rfl | hlt'
      · exact hfound
      · omega

theorem lookupAt_eq_some_iff {text : Text} {offset : Nat} {op : Operator} :
    lookupAt text offset = some op ↔ op.OccursAt text offset ∧
      ∀ other : Operator, other.OccursAt text offset →
        other = op ∨ other.symbol.length < op.symbol.length := by
  rw [lookupAt]
  cases hdrop : text.dropBytes offset with
  | none => simp [occursAt_iff, hdrop]
  | some rest =>
    simp only [occursAt_iff_of_dropBytes hdrop]
    exact lookup_eq_some_iff

theorem isSome_lookupAt_iff {text : Text} {offset : Nat} :
    (lookupAt text offset).isSome = true ↔ ∃ op : Operator, op.OccursAt text offset := by
  rw [lookupAt]
  cases hdrop : text.dropBytes offset with
  | none => simp [occursAt_iff, hdrop]
  | some rest =>
    simp only [occursAt_iff_of_dropBytes hdrop]
    exact lookup_isSome_iff

end Operator

/-! ## Where a literal ends -/

/-- Of two beginnings of one text the shorter begins the longer. -/
theorem Text.exists_append_of_byteLength_le {t u t' u' : Text} (h : t ++ u = t' ++ u')
    (hle : t.byteLength ≤ t'.byteLength) : ∃ between, t' = t ++ between ∧ u = between ++ u' := by
  rcases List.append_eq_append_iff.mp h with ⟨between, ht, hu⟩ | ⟨excess, rfl, hu⟩
  · exact ⟨between, ht, hu⟩
  · obtain rfl : excess = [] := by
      by_contra hne
      have hpos := byteLength_pos hne
      rw [byteLength_append] at hle
      omega
    exact ⟨[], by rw [List.append_nil, List.append_nil], hu.symm⟩

/-- No symbol occurs where a literal is passed over, at whatever offset. -/
theorem Passes.not_occursAt {front passed remaining : Text} (h : Passes passed remaining)
    {offset : Nat} (hle : front.byteLength ≤ offset)
    (hlt : offset < front.byteLength + passed.byteLength) (op : Operator) :
    ¬op.OccursAt (front ++ (passed ++ remaining)) offset := by
  rw [Operator.occursAt_iff]
  rintro ⟨rest, hdrop, hop⟩
  obtain ⟨before, hsplit, rfl⟩ := Text.dropBytes_eq_some_iff.mp hdrop
  -- What stands at the offset is the end of `passed`, not all of it gone, and what follows it.
  obtain ⟨gone, rfl, hrest⟩ := Text.exists_append_of_byteLength_le hsplit hle
  rw [Text.byteLength_append, Nat.add_lt_add_iff_left] at hlt
  obtain ⟨left, rfl, rfl⟩ := Text.exists_append_of_byteLength_le hrest.symm hlt.le
  have hne : left ≠ [] := by
    rintro rfl
    rw [List.append_nil] at hlt
    exact lt_irrefl _ hlt
  exact Operator.lookup_eq_none_iff.mp (h left (List.suffix_append gone left) hne) op hop

namespace Scanner

theorem Within.position_eq_byteLength_iff {text : Text} {s : Scanner} (h : s.Within text) :
    s.position = text.byteLength ↔ s.rest = [] := by
  obtain ⟨front, htext, hposition⟩ := Text.dropBytes_eq_some_iff.mp h
  rw [← hposition, htext, Text.byteLength_append]
  constructor
  · intro hlength
    by_contra hne
    have hpos := Text.byteLength_pos hne
    omega
  · intro hnil
    rw [hnil, Text.byteLength_nil, Nat.add_zero]

/-- An operator is read where one is looked up in the whole text. -/
theorem Within.map_fst_readOperator {text : Text} {s : Scanner} (h : s.Within text) :
    s.readOperator.map Prod.fst = Operator.lookupAt text s.position := by
  rw [Operator.lookupAt, show text.dropBytes s.position = some s.rest from h, Option.bind_some,
    readOperator, Option.map_map]
  cases Operator.lookup s.rest <;> rfl

theorem readOperator_readLiteral (s : Scanner) :
    s.readLiteral.2.rest = [] ∨ s.readLiteral.2.readOperator.isSome = true := by
  have hends : endsLiteral s.readLiteral.2.rest = true := endsLiteral_splitLiteral s.rest
  cases hrest : s.readLiteral.2.rest with
  | nil => exact Or.inl rfl
  | cons c t =>
    rw [hrest, endsLiteral_cons] at hends
    rw [readOperator, hrest, Option.isSome_map]
    exact Or.inr hends

theorem Within.occursAt_readLiteral {text : Text} {s : Scanner} (h : s.Within text) :
    (∃ op : Operator, op.OccursAt text s.readLiteral.2.position) ∨
      s.readLiteral.2.position = text.byteLength := by
  have hnext : s.readLiteral.2.Within text := h.answer .literal
  rcases s.readOperator_readLiteral with hend | hread
  · exact Or.inr (hnext.position_eq_byteLength_iff.mpr hend)
  · rw [← Operator.isSome_lookupAt_iff, ← hnext.map_fst_readOperator, Option.isSome_map]
    exact Or.inl hread

/-- A literal is passed over up to the first place where a symbol occurs. -/
theorem Within.isLeast_readLiteral {text : Text} {s : Scanner} (h : s.Within text) :
    IsLeast {offset | s.position ≤ offset ∧
      ((∃ op : Operator, op.OccursAt text offset) ∨ offset = text.byteLength)}
      s.readLiteral.2.position := by
  have hnext : s.readLiteral.2.Within text := h.answer .literal
  obtain ⟨front, htext, hfront⟩ := Text.dropBytes_eq_some_iff.mp h
  have hposition : s.readLiteral.2.position = s.position + (splitLiteral s.rest).1.byteLength := rfl
  refine ⟨⟨by omega, h.occursAt_readLiteral⟩, ?_⟩
  rintro offset ⟨hle, hoffset⟩
  by_contra hlt
  rcases hoffset with ⟨op, hop⟩ | rfl
  · rw [htext, ← splitLiteral_append s.rest] at hop
    exact (passes_splitLiteral s.rest).not_occursAt (by omega) (by omega) op hop
  · exact hlt (Text.le_of_dropBytes hnext)

/-- **First and longest.** Looking up at an offset finds the longest symbol that occurs there, and
none only if none does. From any place that a scanner comes to, reading a literal leads to the first
offset at which a symbol occurs, or else to the end; there an operator is read unless the text
ends. -/
theorem first_and_longest (text : Text) :
    (∀ offset op, Operator.lookupAt text offset = some op ↔ op.OccursAt text offset ∧
      ∀ other : Operator, other.OccursAt text offset →
        other = op ∨ other.symbol.length < op.symbol.length) ∧
    (∀ offset, (Operator.lookupAt text offset).isSome = true ↔
      ∃ op : Operator, op.OccursAt text offset) ∧
    ∀ before : List Request,
      let s := after text before
      let next := s.readLiteral.2
      s.readOperator.map Prod.fst = Operator.lookupAt text s.position ∧
      IsLeast {offset | s.position ≤ offset ∧
        ((∃ op : Operator, op.OccursAt text offset) ∨ offset = text.toBytes.length)}
        next.position ∧
      (next.position = text.toBytes.length ∨ next.readOperator.isSome = true) := by
  refine ⟨fun _ _ ↦ Operator.lookupAt_eq_some_iff, fun _ ↦ Operator.isSome_lookupAt_iff,
    fun before ↦ ?_⟩
  intro s next
  have hs : s.Within text := within_after text before
  have hnext : next.Within text := hs.answer .literal
  rw [Text.length_toBytes, hnext.position_eq_byteLength_iff]
  exact ⟨hs.map_fst_readOperator, hs.isLeast_readLiteral, s.readOperator_readLiteral⟩

-- Of `!`, `^` and `!^P` the last is read. The letter before it takes two bytes.
example : Operator.lookupAt ['é', '!', '^', 'P'] 2 = some (.comparison .primaryNotUnder) := by
  decide

end Scanner

end Placement
