import Placement.Uri

/-!
# Complete escapes

An escape is `%` and two hexadecimal digits. The rule for a text is about every byte of it: each `%`
is followed by two digits (`Percent.EveryEscape`). The scan that checks the rule does not look at
every byte, since behind an escape it goes on three bytes further. It misses nothing there, because
what it jumps over are digits, and no digit is a `%` (`Percent.escapesComplete_iff`).

Identifiers are read from texts without the blanks around them. Such a text must be an address and
obey the rule; the rule is looked at last, so a text that breaks it is reported only if it is an
address otherwise (`Uri.ofText_decides`).
-/

namespace Placement

theorem Text.isHexDigit_iff {c : Char} : isHexDigit c = true ↔
    (0x30 ≤ c.toNat ∧ c.toNat ≤ 0x39) ∨ (0x41 ≤ c.toNat ∧ c.toNat ≤ 0x46) ∨
      (0x61 ≤ c.toNat ∧ c.toNat ≤ 0x66) := by
  have hle : ∀ d : Char, (d ≤ c ↔ d.toNat ≤ c.toNat) ∧ (c ≤ d ↔ c.toNat ≤ d.toNat) :=
    fun d ↦ ⟨Iff.rfl, Iff.rfl⟩
  rw [isHexDigit, hexValue?]
  simp only [hle]
  split
  · simp_all
  · split
    · simp_all
    · split <;> simp_all

namespace Percent

/-! ## The rule -/

/-- The byte of an ASCII digit, or of one of the letters `A` to `F` and `a` to `f`. -/
def IsHexDigit (b : UInt8) : Prop :=
  (0x30 ≤ b ∧ b ≤ 0x39) ∨ (0x41 ≤ b ∧ b ≤ 0x46) ∨ (0x61 ≤ b ∧ b ≤ 0x66)

def DigitsAt (bytes : List UInt8) (offset : Nat) : Prop :=
  ∃ high low, bytes[offset]? = some high ∧ bytes[offset + 1]? = some low ∧
    IsHexDigit high ∧ IsHexDigit low

/-- Every `%`, at whatever offset, is followed by two hexadecimal digits. -/
def EveryEscape (bytes : List UInt8) : Prop :=
  ∀ offset, bytes[offset]? = some percentByte → DigitsAt bytes (offset + 1)

theorem isHexByte_iff {b : UInt8} : isHexByte b = true ↔ IsHexDigit b := by
  have hvalid : b.toNat.isValidChar := Or.inl (Nat.lt_trans b.toNat_lt (by decide))
  have hchar : (Char.ofNat b.toNat).toNat = b.toNat := by
    rw [Char.ofNat, dif_pos hvalid]
    rfl
  rw [isHexByte, Text.isHexDigit_iff, hchar]
  exact Iff.rfl

theorem ne_percentByte_of_isHexDigit {b : UInt8} (h : IsHexDigit b) : b ≠ percentByte := by
  rintro rfl
  rcases h with ⟨hle, -⟩ | ⟨hle, -⟩ | ⟨hle, -⟩ <;> exact absurd hle (by decide)

theorem digitsAt_zero_iff {bytes : List UInt8} : DigitsAt bytes 0 ↔
    ∃ high low rest, bytes = high :: low :: rest ∧ IsHexDigit high ∧ IsHexDigit low := by
  constructor
  · rintro ⟨high, low, hhigh, hlow, hdigits⟩
    cases bytes with
    | nil => cases hhigh
    | cons b bytes =>
      cases bytes with
      | nil => cases hlow
      | cons c rest =>
        obtain rfl := Option.some_inj.mp hhigh
        obtain rfl := Option.some_inj.mp hlow
        exact ⟨b, c, rest, rfl, hdigits⟩
  · rintro ⟨high, low, rest, rfl, hdigits⟩
    exact ⟨high, low, rfl, rfl, hdigits⟩

theorem everyEscape_nil : EveryEscape [] := nofun

theorem everyEscape_cons {b : UInt8} {rest : List UInt8} :
    EveryEscape (b :: rest) ↔ (b = percentByte → DigitsAt rest 0) ∧ EveryEscape rest := by
  constructor
  · intro h
    exact ⟨fun hb ↦ h 0 (congrArg some hb), fun offset ↦ h (offset + 1)⟩
  · rintro ⟨hhead, hrest⟩ (_ | offset) hoffset
    · exact hhead (Option.some_inj.mp hoffset)
    · exact hrest offset hoffset

theorem everyEscape_cons_of_ne {b : UInt8} (hb : b ≠ percentByte) {rest : List UInt8} :
    EveryEscape (b :: rest) ↔ EveryEscape rest := by
  rw [everyEscape_cons]
  exact and_iff_right fun h ↦ absurd h hb

/-- Behind a complete escape the rule goes on with what follows its digits. -/
theorem everyEscape_escape {high low : UInt8} {rest : List UInt8} :
    EveryEscape (percentByte :: high :: low :: rest) ↔
      IsHexDigit high ∧ IsHexDigit low ∧ EveryEscape rest := by
  have hdigits : DigitsAt (high :: low :: rest) 0 ↔ IsHexDigit high ∧ IsHexDigit low := by
    rw [digitsAt_zero_iff]
    constructor
    · rintro ⟨_, _, _, ⟨⟩, hdigits⟩
      exact hdigits
    · exact fun hdigits ↦ ⟨high, low, rest, rfl, hdigits⟩
  rw [everyEscape_cons, imp_iff_right rfl, hdigits, and_assoc]
  refine and_congr_right fun hhigh ↦ and_congr_right fun hlow ↦ ?_
  rw [everyEscape_cons_of_ne (ne_percentByte_of_isHexDigit hhigh),
    everyEscape_cons_of_ne (ne_percentByte_of_isHexDigit hlow)]

/-! ## The scan -/

/-- The scan that jumps behind each escape decides the rule about every byte. -/
theorem escapesComplete_iff {bytes : List UInt8} :
    escapesComplete bytes = true ↔ EveryEscape bytes := by
  fun_induction escapesComplete bytes with
  | case1 => exact iff_of_true rfl everyEscape_nil
  | case2 high low rest ih =>
    rw [everyEscape_escape, ← ih, ← isHexByte_iff, ← isHexByte_iff, Bool.and_eq_true,
      Bool.and_eq_true, and_assoc]
  | case3 rest hshort =>
    refine iff_of_false Bool.false_ne_true fun h ↦ ?_
    obtain ⟨high, low, rest', hrest, -⟩ := digitsAt_zero_iff.mp ((everyEscape_cons.mp h).1 rfl)
    exact hshort high low rest' hrest
  | case4 b rest hb ih => rw [everyEscape_cons_of_ne hb, ih]

end Percent

namespace Uri

theorem ofText_eq_ok_iff {t : Text} {u : Uri} : ofText t = .ok u ↔ u.text = t.trimBlanks ∧
    Url.ofText t.trimBlanks = .ok u.url ∧ Percent.EveryEscape t.trimBlanks.toBytes := by
  obtain ⟨text, url⟩ := u
  rw [ofText, ← Percent.escapesComplete_iff]
  cases Url.ofText t.trimBlanks with
  | error e => simp
  | ok found =>
    cases Percent.escapesComplete t.trimBlanks.toBytes with
    | false => simp
    | true => simp [eq_comm]

theorem ofText_eq_invalidEscape_iff {t text : Text} :
    ofText t = .error (.invalidEscape text) ↔ text = t.trimBlanks ∧
      (∃ url, Url.ofText t.trimBlanks = .ok url) ∧ ¬Percent.EveryEscape t.trimBlanks.toBytes := by
  rw [ofText, ← Percent.escapesComplete_iff]
  cases Url.ofText t.trimBlanks with
  | error e => cases e <;> simp [UriError.ofUrlError]
  | ok found =>
    cases Percent.escapesComplete t.trimBlanks.toBytes with
    | false => simp [eq_comm]
    | true => simp

/-- **Complete escapes.** The scan of a text decides whether every `%` in it begins an escape. So a
text is an identifier exactly if, without the blanks around it, it is an address and obeys that
rule, and an incomplete escape is reported exactly for addresses that break the rule. -/
theorem ofText_decides (t : Text) :
    (Percent.escapesComplete t.toBytes = true ↔ Percent.EveryEscape t.toBytes) ∧
    ((∃ u, ofText t = .ok u) ↔ (∃ url, Url.ofText t.trimBlanks = .ok url) ∧
      Percent.EveryEscape t.trimBlanks.toBytes) ∧
    ∀ text, ofText t = .error (.invalidEscape text) ↔ text = t.trimBlanks ∧
      (∃ url, Url.ofText t.trimBlanks = .ok url) ∧ ¬Percent.EveryEscape t.trimBlanks.toBytes := by
  refine ⟨Percent.escapesComplete_iff, ?_, fun text ↦ ofText_eq_invalidEscape_iff⟩
  constructor
  · rintro ⟨u, hu⟩
    obtain ⟨-, hurl, hescapes⟩ := ofText_eq_ok_iff.mp hu
    exact ⟨⟨u.url, hurl⟩, hescapes⟩
  · rintro ⟨⟨url, hurl⟩, hescapes⟩
    exact ⟨⟨t.trimBlanks, url⟩, ofText_eq_ok_iff.mpr ⟨rfl, hurl, hescapes⟩⟩

-- A digit is missing at the end, and behind the first escape a character of two bytes follows.
example : Percent.escapesComplete (Text.toBytes "%41é%4".toList) = false := by decide

end Uri

end Placement
