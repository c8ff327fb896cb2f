import Placement.Text.Basic

/-!
# JSON strings

Written, a string has quotes around it, and only the quote, the backslash and the C0 controls are
escaped, with a short escape where there is one. Read, every escape of the format is accepted, a
pair of surrogates being one character; a surrogate alone and a raw control are refused.
-/

namespace Placement

namespace Json

/-! ## Writing -/

/-- A C0 control without a short escape. -/
def escapeControl (c : Char) : Text :=
  ['\\', 'u', '0', '0', Nat.digitChar (c.toNat / 16), Nat.digitChar (c.toNat % 16)]

/-- A character inside quotes. -/
def encodeChar (c : Char) : Text :=
  if c = '"' then ['\\', '"']
  else if c = '\\' then ['\\', '\\']
  else if c = '\x08' then ['\\', 'b']
  else if c = '\t' then ['\\', 't']
  else if c = '\n' then ['\\', 'n']
  else if c = '\x0c' then ['\\', 'f']
  else if c = '\r' then ['\\', 'r']
  else if c.toNat < 0x20 then escapeControl c
  else [c]

/-- A string with its quotes. -/
def encodeString (t : Text) : Text := ['"'] ++ t.flatMap encodeChar ++ ['"']

/-! ## Reading -/

/-- The character of a short escape. -/
def shortEscape? : Char → Option Char
  | '"' => some '"'
  | '\\' => some '\\'
  | '/' => some '/'
  | 'b' => some '\x08'
  | 'f' => some '\x0c'
  | 'n' => some '\n'
  | 'r' => some '\r'
  | 't' => some '\t'
  | _ => none

/-- The number that four hexadecimal digits write, and the rest. -/
def readUnit : Text → Option (Nat × Text)
  | a :: b :: c :: d :: rest =>
    if [a, b, c, d].all Text.isHexDigit then some (Text.toNatBase 16 [a, b, c, d], rest) else none
  | _ => none

/-- The first half of a surrogate pair. -/
def isHighSurrogate (n : Nat) : Bool := 0xD800 ≤ n && n < 0xDC00

/-- The second half of a surrogate pair. -/
def isLowSurrogate (n : Nat) : Bool := 0xDC00 ≤ n && n < 0xE000

/-- The character of a pair of surrogates. -/
def joinSurrogates (high low : Nat) : Char :=
  Char.ofNat (0x10000 + (high - 0xD800) * 0x400 + (low - 0xDC00))

/-- Read an escape whose first four digits were `n`. -/
def readSurrogates (n : Nat) (rest : Text) : Option (Char × Text) :=
  if isHighSurrogate n then
    match rest with
    | '\\' :: 'u' :: rest =>
      (readUnit rest).bind fun (m, rest) ↦
        if isLowSurrogate m then some (joinSurrogates n m, rest) else none
    | _ => none
  else if isLowSurrogate n then none
  else some (Char.ofNat n, rest)

/-- The character of an escape, without its backslash, and the rest. -/
def readEscape : Text → Option (Char × Text)
  | [] => none
  | c :: rest =>
    if c = 'u' then (readUnit rest).bind fun (n, rest) ↦ readSurrogates n rest
    else (shortEscape? c).map fun x ↦ (x, rest)

theorem length_readUnit {t rest : Text} {n : Nat} (h : readUnit t = some (n, rest)) :
    rest.length < t.length := by
  unfold readUnit at h
  split at h
  · split at h
    · cases h
      simp only [List.length_cons]
      omega
    · cases h
  · cases h

theorem length_readSurrogates {t rest : Text} {n : Nat} {c : Char}
    (h : readSurrogates n t = some (c, rest)) : rest.length ≤ t.length := by
  unfold readSurrogates at h
  split at h
  · split at h
    · obtain ⟨⟨m, u⟩, hu, h⟩ := Option.bind_eq_some_iff.1 h
      dsimp only at h
      have := length_readUnit hu
      split at h
      · simp only [Option.some.injEq, Prod.mk.injEq] at h
        obtain ⟨-, rfl⟩ := h
        simp only [List.length_cons]
        omega
      · cases h
    · cases h
  · split at h
    · cases h
    · simp only [Option.some.injEq, Prod.mk.injEq] at h
      obtain ⟨-, rfl⟩ := h
      exact Nat.le_refl _

theorem length_readEscape {t rest : Text} {c : Char} (h : readEscape t = some (c, rest)) :
    rest.length < t.length := by
  unfold readEscape at h
  split at h
  · cases h
  · split at h
    · obtain ⟨⟨n, u⟩, hu, h⟩ := Option.bind_eq_some_iff.1 h
      have := length_readUnit hu
      have := length_readSurrogates h
      simp only [List.length_cons]
      omega
    · obtain ⟨x, -, h⟩ := Option.map_eq_some_iff.1 h
      cases h
      simp

/-- Read the characters of a string up to its closing quote, and return what follows it. -/
def readChars (t : Text) : Option (Text × Text) :=
  match t with
  | [] => none
  | c :: rest =>
    if c = '"' then some ([], rest)
    else if c = '\\' then
      match _h : readEscape rest with
      | none => none
      | some (x, rest) => (readChars rest).map fun (s, rest) ↦ (x :: s, rest)
    else if c.toNat < 0x20 then none
    else (readChars rest).map fun (s, rest) ↦ (c :: s, rest)
termination_by t.length
decreasing_by
  · have := length_readEscape _h
    simp only [List.length_cons]
    omega
  · simp

/-- Read a string with its quotes. -/
def readString : Text → Option (Text × Text)
  | '"' :: rest => readChars rest
  | _ => none

theorem length_readChars {t s rest : Text} (h : readChars t = some (s, rest)) :
    rest.length < t.length := by
  fun_induction readChars t generalizing s with
  | case1 => cases h
  | case2 => cases h; simp
  | case3 => cases h
  | case4 u x v hesc _ ih =>
    obtain ⟨⟨s', r'⟩, hs, heq⟩ := Option.map_eq_some_iff.1 h
    cases heq
    have := ih hs
    have := length_readEscape hesc
    simp only [List.length_cons]
    omega
  | case5 => cases h
  | case6 c u _ _ _ ih =>
    obtain ⟨⟨s', r'⟩, hs, heq⟩ := Option.map_eq_some_iff.1 h
    cases heq
    have := ih hs
    simp only [List.length_cons]
    omega

theorem length_readString {t s rest : Text} (h : readString t = some (s, rest)) :
    rest.length < t.length := by
  unfold readString at h
  split at h
  · have := length_readChars h
    simp only [List.length_cons]
    omega
  · cases h

end Json

end Placement
