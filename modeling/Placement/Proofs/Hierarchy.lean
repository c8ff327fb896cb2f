import Mathlib.Data.List.Infix
import Placement.Proofs.Equality

/-!
# The hierarchy of identifiers

`Uri.isPrefixOf` looks at segments, in which rooted and rootless paths are alike and empty segments
are gone, and at whether there is a query or fragment. Equality looks at the whole path, query and
fragment, and at the authority up to case. The two fit together because all of this can be read off
the key of an identifier, which is what equality compares. The hierarchy is therefore a relation of
keys (`Uri.Key.IsAbove`, `Uri.isPrefixOf_iff`), and equal identifiers stand in the same place of it.

On keys it is a strict order: a proper prefix of the segments, or the same segments with a query or
fragment added, to which nothing more can be added.
-/

namespace Placement

namespace Uri

/-! ## Keys -/

def Key.segments (k : Key) : List Text := (k.path.pieces (· == '/')).filter (!·.isEmpty)

def Key.hasTail (k : Key) : Bool := k.query.isSome || k.fragment.isSome

/-- `k` lies strictly above `l`. -/
structure Key.IsAbove (k l : Key) : Prop where
  scheme : k.scheme = l.scheme
  authority : k.authority = l.authority
  no_tail : k.hasTail = false
  segments : k.segments <+: l.segments
  /-- Without a further segment there is a query or fragment to tell the two apart. -/
  proper : k.segments = l.segments → l.hasTail = true

namespace Key.IsAbove

variable {k l m : Key}

theorem irrefl (k : Key) : ¬k.IsAbove k := by
  intro h
  have htail := h.proper rfl
  rw [h.no_tail] at htail
  cases htail

theorem trans (hkl : k.IsAbove l) (hlm : l.IsAbove m) : k.IsAbove m where
  scheme := hkl.scheme.trans hlm.scheme
  authority := hkl.authority.trans hlm.authority
  no_tail := hkl.no_tail
  segments := hkl.segments.trans hlm.segments
  proper := by
    intro heq
    -- The segments of `l` lie between two equal lists, so `l` would need a query or fragment.
    have hmiddle : k.segments = l.segments :=
      hkl.segments.eq_of_length_le (heq ▸ hlm.segments.length_le)
    have htail := hkl.proper hmiddle
    rw [hlm.no_tail] at htail
    cases htail

theorem asymm (hkl : k.IsAbove l) : ¬l.IsAbove k := fun hlk ↦ irrefl k (hkl.trans hlk)

end Key.IsAbove

variable {u v : Uri}

/-- **The hierarchy is one of keys.** -/
theorem isPrefixOf_iff : u.isPrefixOf v = true ↔ u.key.IsAbove v.key := by
  rw [isPrefixOf, Bool.and_eq_true, Bool.and_eq_true, sameOrigin_iff, Bool.not_eq_true']
  constructor
  · rintro ⟨⟨⟨hscheme, hauthority⟩, htail⟩, hsegments⟩
    split at hsegments
    · next hlt =>
      refine ⟨hscheme, hauthority, htail, List.isPrefixOf_iff_prefix.mp hsegments, fun heq ↦ ?_⟩
      exact absurd (congrArg List.length heq) hlt.ne
    · rw [Bool.and_eq_true, beq_iff_eq] at hsegments
      have hprefix : u.segments <+: v.segments := hsegments.1 ▸ List.prefix_refl u.segments
      exact ⟨hscheme, hauthority, htail, hprefix, fun _ ↦ hsegments.2⟩
  · intro h
    refine ⟨⟨⟨h.scheme, h.authority⟩, h.no_tail⟩, ?_⟩
    split
    · exact List.isPrefixOf_iff_prefix.mpr h.segments
    · next hlt =>
      have heq : u.segments = v.segments := h.segments.eq_of_length_le (Nat.le_of_not_lt hlt)
      rw [Bool.and_eq_true, beq_iff_eq]
      exact ⟨heq, h.proper heq⟩

/-! ## At or under -/

/-- What `^` asks of two identifiers: `u` is `v`, or lies under it. -/
def liesUnder (u v : Uri) : Bool := v.isPrefixOf u || v.same u

theorem liesUnder_iff : u.liesUnder v = true ↔ v.key.IsAbove u.key ∨ v.key = u.key := by
  rw [liesUnder, Bool.or_eq_true, isPrefixOf_iff, same_iff_key_eq]

end Uri

theorem Sides.ofTexts_of_uris {x y : Text} {u v : Uri} (hx : Uri.ofText x = .ok u)
    (hy : Uri.ofText y = .ok v) : ofTexts x y = uris u v := by
  rw [ofTexts, Number.ofText?_eq_none_of_uri hx, hx, hy]

theorem compareTexts_under_of_uris {x y : Text} {u v : Uri} (hx : Uri.ofText x = .ok u)
    (hy : Uri.ofText y = .ok v) :
    compareTexts (.comparison .under) x y = .ok (u.liesUnder v) := by
  rw [compareTexts, Sides.ofTexts_of_uris hx hy]
  rfl

namespace Uri

/-- **The hierarchy is a strict order.** No identifier lies above itself or one equal to it, no two
lie above each other, and what lies above lies above all that is further down. Equal identifiers lie
above the same ones and under the same ones. So the relation that `^` tests on identifiers is a
partial order, up to equality. -/
theorem hierarchy_strictOrder :
    (∀ a : Uri, a.isPrefixOf a = false) ∧
      (∀ a b : Uri, a.same b = true → a.isPrefixOf b = false) ∧
      (∀ a b : Uri, ¬(a.isPrefixOf b = true ∧ b.isPrefixOf a = true)) ∧
      (∀ a b c : Uri, a.isPrefixOf b = true → b.isPrefixOf c = true → a.isPrefixOf c = true) ∧
      (∀ a a' b b' : Uri, a.same a' = true → b.same b' = true →
        a.isPrefixOf b = a'.isPrefixOf b') ∧
      (∀ (x y : Text) (a b : Uri), ofText x = .ok a → ofText y = .ok b →
        compareTexts (.comparison .under) x y = .ok (a.liesUnder b)) ∧
      (∀ a : Uri, a.liesUnder a = true) ∧
      (∀ a b c : Uri, a.liesUnder b = true → b.liesUnder c = true → a.liesUnder c = true) ∧
      ∀ a b : Uri, a.liesUnder b = true → b.liesUnder a = true → a.same b = true := by
  have hequal : ∀ a b : Uri, a.same b = true → a.isPrefixOf b = false := by
    intro a b hab
    rw [Bool.eq_false_iff, ne_eq, isPrefixOf_iff, same_iff_key_eq.mp hab]
    exact Key.IsAbove.irrefl b.key
  refine ⟨fun a ↦ hequal a a (same_iff_key_eq.mpr rfl), hequal, fun a b ⟨hab, hba⟩ ↦ ?_,
    fun a b c hab hbc ↦ ?_, fun a a' b b' ha hb ↦ ?_, fun x y a b ↦ compareTexts_under_of_uris,
    fun a ↦ liesUnder_iff.mpr (Or.inr rfl), fun a b c hab hbc ↦ ?_, fun a b hab hba ↦ ?_⟩
  · exact (isPrefixOf_iff.mp hab).asymm (isPrefixOf_iff.mp hba)
  · exact isPrefixOf_iff.mpr ((isPrefixOf_iff.mp hab).trans (isPrefixOf_iff.mp hbc))
  · rw [Bool.eq_iff_iff, isPrefixOf_iff, isPrefixOf_iff, same_iff_key_eq.mp ha,
      same_iff_key_eq.mp hb]
  · rw [liesUnder_iff] at hab hbc ⊢
    rcases hab with hab | hab <;> rcases hbc with hbc | hbc
    · exact Or.inl (hbc.trans hab)
    · exact Or.inl (hbc ▸ hab)
    · exact Or.inl (hab ▸ hbc)
    · exact Or.inr (hbc.trans hab)
  · rw [liesUnder_iff] at hab hba
    rw [same_iff_key_eq]
    rcases hab with hab | hab
    · rcases hba with hba | hba
      · exact absurd hba hab.asymm
      · exact hba
    · exact hab.symm

theorem hierarchy_strictOrder_spellings :
    let read (text host : Text) (segments : List Text) (query : Option Text) : Uri :=
      ⟨text, ⟨['f', 'd'], some (.ofHost (.name host)), .segments segments, query, none⟩⟩
    let a := read "fd://H//DC0".toList ['H'] [[], "DC0".toList] none
    let a' := read "FD://h//DC0".toList ['h'] [[], "DC0".toList] none
    let b := read "fd://h/DC0/R1".toList ['h'] ["DC0".toList, "R1".toList] none
    let c := read "fd://H/DC0/R1?q".toList ['H'] ["DC0".toList, "R1".toList] (some ['q'])
    ofText a.text = .ok a ∧ ofText a'.text = .ok a' ∧ ofText b.text = .ok b ∧
      ofText c.text = .ok c ∧
      (a.same a' = true ∧ a.isPrefixOf a' = false ∧ a.isPrefixOf b = a'.isPrefixOf b) ∧
      (a.isPrefixOf b = true ∧ b.isPrefixOf c = true ∧ a.isPrefixOf c = true) ∧
      (b.liesUnder a = true ∧ c.liesUnder b = true ∧ c.liesUnder a = true) ∧
      (a.liesUnder a' = true ∧ a'.liesUnder a = true ∧ a.same a' = true) ∧
      compareTexts (.comparison .under) c.text a.text = .ok (c.liesUnder a) := by
  intro read a a' b c
  obtain ⟨-, hequal, -, htrans, hcongr, hunder, -, hunderTrans, hantisymm⟩ :=
    hierarchy_strictOrder
  have ha : ofText a.text = .ok a := by decide +kernel
  have hc : ofText c.text = .ok c := by decide +kernel
  have hsame : a.same a' = true := by decide +kernel
  have hab : a.isPrefixOf b = true := by decide +kernel
  have hbc : b.isPrefixOf c = true := by decide +kernel
  have hba : b.liesUnder a = true := by decide +kernel
  have hcb : c.liesUnder b = true := by decide +kernel
  have haa' : a.liesUnder a' = true := by decide +kernel
  have ha'a : a'.liesUnder a = true := by decide +kernel
  exact ⟨ha, by decide +kernel, by decide +kernel, hc,
    ⟨hsame, hequal a a' hsame, hcongr a a' b b hsame (by decide +kernel)⟩,
    ⟨hab, hbc, htrans a b c hab hbc⟩, ⟨hba, hcb, hunderTrans c b a hcb hba⟩,
    ⟨haa', ha'a, hantisymm a a' haa' ha'a⟩, hunder _ _ c a hc ha⟩

end Uri

end Placement
