import Placement.Proofs.Token

/-!
# Texts as bytes

Positions are counted in bytes, and an operator is recognised by its bytes. Texts are lists of
characters all the same, because the two views agree: a symbol that occurs among the bytes of a text
occurs among its characters, whatever the offset (`Operator.lookupBytes_drop`).

This rests on symbols being ASCII. A character outside ASCII is written with bytes from `0x80` on
(`Text.high_of_mem_utf8EncodeChar`), so that no symbol begins inside it.
-/

namespace Placement

namespace Text

theorem toBytes_cons (c : Char) (t : Text) :
    toBytes (c :: t) = String.utf8EncodeChar c ++ toBytes t := rfl

theorem toBytes_append (t u : Text) : toBytes (t ++ u) = toBytes t ++ toBytes u :=
  List.flatMap_append

theorem length_toBytes (t : Text) : t.toBytes.length = t.byteLength := by
  induction t with
  | nil => rfl
  | cons c t ih =>
    rw [toBytes_cons, List.length_append, String.length_utf8EncodeChar, ih, byteLength_cons]

theorem byteLength_pos {t : Text} (h : t ≠ []) : 0 < t.byteLength := by
  obtain ⟨c, t, rfl⟩ := List.exists_cons_of_ne_nil h
  have hc := c.utf8Size_pos
  rw [byteLength_cons]
  omega

/-! ## Offsets -/

theorem dropBytes_eq_some_iff {t rest : Text} {n : Nat} :
    t.dropBytes n = some rest ↔ ∃ passed, t = passed ++ rest ∧ byteLength passed = n := by
  constructor
  · intro h
    induction t generalizing n with
    | nil =>
      cases n with
      | zero => exact ⟨[], Option.some_inj.mp h, rfl⟩
      | succ n => cases h
    | cons c t ih =>
      cases n with
      | zero => exact ⟨[], Option.some_inj.mp h, rfl⟩
      | succ n =>
        rw [dropBytes] at h
        split at h
        · next hfits =>
          obtain ⟨passed, rfl, hlength⟩ := ih h
          exact ⟨c :: passed, rfl, by rw [byteLength_cons, hlength]; omega⟩
        · cases h
  · rintro ⟨passed, rfl, rfl⟩
    exact dropBytes_byteLength_append passed rest

theorem drop_toBytes {t rest : Text} {n : Nat} (h : t.dropBytes n = some rest) :
    t.toBytes.drop n = rest.toBytes := by
  obtain ⟨passed, rfl, rfl⟩ := dropBytes_eq_some_iff.mp h
  rw [toBytes_append, ← length_toBytes, List.drop_left]

theorem le_of_dropBytes {t rest : Text} {n : Nat} (h : t.dropBytes n = some rest) :
    n ≤ t.byteLength := by
  obtain ⟨passed, rfl, rfl⟩ := dropBytes_eq_some_iff.mp h
  rw [byteLength_append]
  exact Nat.le_add_right _ _

/-! ## ASCII -/

def AllAscii (t : Text) : Prop := ∀ c ∈ t, c.toNat < 0x80

theorem utf8EncodeChar_of_lt {c : Char} (h : c.toNat < 0x80) :
    String.utf8EncodeChar c = [UInt8.ofNat c.toNat] := by
  rw [String.utf8EncodeChar]
  exact if_pos (Nat.le_of_lt_succ h)

/-- The bytes of a character outside ASCII are none of ASCII. -/
theorem high_of_mem_utf8EncodeChar {c : Char} {b : UInt8} (h : ¬c.toNat < 0x80)
    (hb : b ∈ String.utf8EncodeChar c) : 0x80 ≤ b.toNat := by
  have hlow : ¬c.val.toNat ≤ 0x7f := fun hle ↦ h (Nat.lt_succ_of_le hle)
  have hmem : ∃ m k, b = UInt8.ofNat (m + k) ∧ 0x80 ≤ k ∧ m + k < 256 := by
    simp only [String.utf8EncodeChar, if_neg hlow] at hb
    -- However many bytes there are, each is made of a few bits and a mark of at least `0x80`.
    split at hb
    · rcases List.mem_pair.mp hb with rfl | rfl
      · exact ⟨_, _, rfl, by decide, by omega⟩
      · exact ⟨_, _, rfl, by decide, by omega⟩
    · split at hb <;> simp only [List.mem_cons, List.not_mem_nil, or_false] at hb
      · rcases hb with rfl | rfl | rfl
        all_goals exact ⟨_, _, rfl, by decide, by omega⟩
      · rcases hb with rfl | rfl | rfl | rfl
        all_goals exact ⟨_, _, rfl, by decide, by omega⟩
  obtain ⟨m, k, rfl, hk, hlt⟩ := hmem
  rw [UInt8.toNat_ofNat_of_lt' hlt]
  omega

private theorem not_cons_prefix_append {c : Char} {bytes high more : List UInt8}
    (hc : c.toNat < 0x80) (hhigh : ∀ b ∈ high, 0x80 ≤ b.toNat) (hne : high ≠ []) :
    ¬UInt8.ofNat c.toNat :: bytes <+: high ++ more := by
  obtain ⟨b, high, rfl⟩ := List.exists_cons_of_ne_nil hne
  rw [List.cons_append, List.cons_prefix_cons]
  rintro ⟨rfl, -⟩
  have hb := hhigh _ List.mem_cons_self
  rw [UInt8.toNat_ofNat_of_lt' (hc.trans (by decide))] at hb
  omega

private theorem cons_prefix_toBytes_cons_iff {c d : Char} {bytes : List UInt8} {t : Text}
    (hc : c.toNat < 0x80) :
    UInt8.ofNat c.toNat :: bytes <+: toBytes (d :: t) ↔ c = d ∧ bytes <+: toBytes t := by
  rw [toBytes_cons]
  by_cases hd : d.toNat < 0x80
  · rw [utf8EncodeChar_of_lt hd, List.singleton_append, List.cons_prefix_cons]
    refine and_congr_left fun _ ↦ ⟨fun heq ↦ ?_, fun heq ↦ heq ▸ rfl⟩
    have hnat := congrArg UInt8.toNat heq
    rw [UInt8.toNat_ofNat_of_lt' (hc.trans (by decide)),
      UInt8.toNat_ofNat_of_lt' (hd.trans (by decide))] at hnat
    exact Char.toNat_inj.mp hnat
  · refine iff_of_false (not_cons_prefix_append hc (fun _ ↦ high_of_mem_utf8EncodeChar hd)
      String.utf8EncodeChar_ne_nil) ?_
    rintro ⟨rfl, -⟩
    exact hd hc

theorem toBytes_cons_of_lt {c : Char} (hc : c.toNat < 0x80) (t : Text) :
    toBytes (c :: t) = UInt8.ofNat c.toNat :: toBytes t := by
  rw [toBytes_cons, utf8EncodeChar_of_lt hc, List.singleton_append]

/-- An ASCII text begins a text exactly if its bytes begin the bytes. -/
theorem toBytes_prefix_iff {s t : Text} (hs : AllAscii s) : s.toBytes <+: t.toBytes ↔ s <+: t := by
  induction s generalizing t with
  | nil => exact iff_of_true List.nil_prefix List.nil_prefix
  | cons c s ih =>
    obtain ⟨hc, hs⟩ := List.forall_mem_cons.mp hs
    rw [toBytes_cons_of_lt hc]
    cases t with
    | nil => exact iff_of_false nofun nofun
    | cons d t => rw [cons_prefix_toBytes_cons_iff hc, ih hs, List.cons_prefix_cons]

theorem toBytes_prefix_drop_iff {s t : Text} {n : Nat} (hs : AllAscii s) (hne : s ≠ []) :
    s.toBytes <+: t.toBytes.drop n ↔ ∃ rest, t.dropBytes n = some rest ∧ s <+: rest := by
  fun_induction dropBytes n t with
  | case1 t => simp [toBytes_prefix_iff hs]
  | case2 n =>
    obtain ⟨c, s, rfl⟩ := List.exists_cons_of_ne_nil hne
    obtain ⟨hc, -⟩ := List.forall_mem_cons.mp hs
    rw [toBytes_cons_of_lt hc]
    exact iff_of_false nofun nofun
  | case3 n c t hfits ih =>
    rw [← ih, toBytes_cons, List.drop_append, String.length_utf8EncodeChar,
      List.drop_eq_nil_of_le (by rwa [String.length_utf8EncodeChar]), List.nil_append]
  | case4 n c t hinside =>
    -- The offset lies inside a character, so this is one outside ASCII.
    obtain ⟨b, s, rfl⟩ := List.exists_cons_of_ne_nil hne
    obtain ⟨hb, -⟩ := List.forall_mem_cons.mp hs
    have hlength := String.length_utf8EncodeChar c
    have hc : ¬c.toNat < 0x80 := by
      intro hlt
      rw [utf8EncodeChar_of_lt hlt, List.length_singleton] at hlength
      omega
    have hleft : (String.utf8EncodeChar c).drop (n + 1) ≠ [] := by
      rw [← List.length_pos_iff, List.length_drop]
      omega
    rw [toBytes_cons_of_lt hb, toBytes_cons, List.drop_append]
    refine iff_of_false (not_cons_prefix_append hb (fun d hd ↦ ?_) hleft) nofun
    exact high_of_mem_utf8EncodeChar hc (List.mem_of_mem_drop hd)

end Text

/-! ## Operators -/

namespace Operator

theorem allAscii_symbol (op : Operator) : Text.AllAscii op.symbol := by
  have hall : ∀ op ∈ catalog, op.symbol.all (·.toNat < 0x80) = true := by decide
  intro c hc
  simpa using List.all_eq_true.mp (hall op op.mem_catalog) c hc

/-- The first operator of the catalog whose symbol begins some bytes. -/
def lookupBytes (bytes : List UInt8) : Option Operator :=
  catalog.find? fun op ↦ op.symbol.toBytes.isPrefixOf bytes

/-- **Bytes and characters.** At every offset, also inside a character or behind the end, the bytes
of a text hold the operator that the text holds there. -/
theorem lookupBytes_drop (t : Text) (n : Nat) :
    lookupBytes (t.toBytes.drop n) = lookupAt t n := by
  have hbytes : ∀ op : Operator, op.symbol.toBytes <+: t.toBytes.drop n ↔
      ∃ rest, t.dropBytes n = some rest ∧ op.symbol <+: rest :=
    fun op ↦ Text.toBytes_prefix_drop_iff op.allAscii_symbol op.symbol_ne_nil
  rw [lookupBytes, lookupAt]
  cases hdrop : t.dropBytes n with
  | none =>
    refine List.find?_eq_none.mpr fun op _ ↦ ?_
    rw [List.isPrefixOf_iff_prefix, hbytes, hdrop]
    nofun
  | some rest =>
    rw [Option.bind_some, lookup]
    refine congrArg (List.find? · catalog) (funext fun op ↦ ?_)
    rw [Bool.eq_iff_iff, List.isPrefixOf_iff_prefix, hbytes, begins_iff, hdrop]
    simp

end Operator

end Placement
