import Placement.Json.Record
import Placement.Proofs.Lookup

/-!
# JSON is read as it was written

Reading what was written for an environment gives the environment back, in its own order, and the
same holds for values (`decodes_encoded`).

Each reader is shown to undo its writer in front of an arbitrary rest, from characters to strings,
members and objects. Only two things need an argument. A character is written either as itself or as
a backslash with something that reads as the character (`encodeChar_cases`), so that no character of
a string can be taken for its closing quote. And an object's members define the environment that
they came from because its names are distinct (`Environment.ofList_entries`); with a name that
occurs twice, the reader would keep one entry of the two.
-/

namespace Placement

namespace Json

/-! ## Strings -/

private theorem controlDigits_eq : ∀ n < 0x20,
    let digits := ['0', '0', Nat.digitChar (n / 16), Nat.digitChar (n % 16)]
    digits.all Text.isHexDigit = true ∧ Text.toNatBase 16 digits = n := by
  decide

/-- A number far below the surrogates is that of a character. -/
private theorem readSurrogates_of_lt {n : Nat} (h : n < 0x20) (rest : Text) :
    readSurrogates n rest = some (Char.ofNat n, rest) := by
  have hhigh : ¬isHighSurrogate n = true := by
    rw [isHighSurrogate, Bool.and_eq_true, decide_eq_true_iff]
    omega
  have hlow : ¬isLowSurrogate n = true := by
    rw [isLowSurrogate, Bool.and_eq_true, decide_eq_true_iff]
    omega
  unfold readSurrogates
  rw [if_neg hhigh, if_neg hlow]

private theorem readEscape_escapeControl {c : Char} (h : c.toNat < 0x20) (rest : Text) :
    readEscape ((escapeControl c).tail ++ rest) = some (c, rest) := by
  obtain ⟨hdigits, hnumber⟩ := controlDigits_eq c.toNat h
  have hunit : readUnit ((escapeControl c).tail.tail ++ rest) = some (c.toNat, rest) := by
    rw [escapeControl]
    dsimp only [List.tail_cons, List.cons_append, List.nil_append]
    rw [readUnit, if_pos hdigits, hnumber]
  have hescape : (escapeControl c).tail = 'u' :: (escapeControl c).tail.tail := rfl
  rw [hescape, List.cons_append, readEscape, if_pos rfl, hunit, Option.bind_some]
  dsimp only
  rw [readSurrogates_of_lt h, Char.ofNat_toNat]

/-- A character is written as a backslash with what reads as the character, or as itself, which is
then no quote, backslash or control. -/
theorem encodeChar_cases (c : Char) :
    (∃ escape, encodeChar c = '\\' :: escape ∧
        ∀ rest, readEscape (escape ++ rest) = some (c, rest)) ∨
      encodeChar c = [c] ∧ c ≠ '"' ∧ c ≠ '\\' ∧ ¬c.toNat < 0x20 := by
  fun_cases encodeChar c with
  | case1 h =>
    subst h
    exact Or.inl ⟨['"'], rfl, fun _ ↦ rfl⟩
  | case2 _ h =>
    subst h
    exact Or.inl ⟨['\\'], rfl, fun _ ↦ rfl⟩
  | case3 _ _ h =>
    subst h
    exact Or.inl ⟨['b'], rfl, fun _ ↦ rfl⟩
  | case4 _ _ _ h =>
    subst h
    exact Or.inl ⟨['t'], rfl, fun _ ↦ rfl⟩
  | case5 _ _ _ _ h =>
    subst h
    exact Or.inl ⟨['n'], rfl, fun _ ↦ rfl⟩
  | case6 _ _ _ _ _ h =>
    subst h
    exact Or.inl ⟨['f'], rfl, fun _ ↦ rfl⟩
  | case7 _ _ _ _ _ _ h =>
    subst h
    exact Or.inl ⟨['r'], rfl, fun _ ↦ rfl⟩
  | case8 _ _ _ _ _ _ _ h => exact Or.inl ⟨_, rfl, readEscape_escapeControl h⟩
  | case9 hquote hslash _ _ _ _ _ hcontrol => exact Or.inr ⟨rfl, hquote, hslash, hcontrol⟩

theorem readChars_quote (rest : Text) : readChars ('"' :: rest) = some ([], rest) := by
  rw [readChars, if_pos rfl]

theorem readChars_escape {x : Char} {t rest : Text} (h : readEscape t = some (x, rest)) :
    readChars ('\\' :: t) = (readChars rest).map fun (s, rest) ↦ (x :: s, rest) := by
  rw [readChars, if_neg (by decide), if_pos rfl]
  split
  · next hnone =>
    rw [hnone] at h
    cases h
  · next y u hsome =>
    rw [hsome] at h
    cases h
    rfl

theorem readChars_encodeChar (c : Char) (rest : Text) :
    readChars (encodeChar c ++ rest) = (readChars rest).map fun (s, rest) ↦ (c :: s, rest) := by
  rcases encodeChar_cases c with ⟨escape, hwritten, hread⟩ | ⟨hwritten, hquote, hslash, hcontrol⟩
  · rw [hwritten, List.cons_append]
    exact readChars_escape (hread rest)
  · rw [hwritten, List.singleton_append, readChars, if_neg hquote, if_neg hslash,
      if_neg hcontrol]

theorem readChars_flatMap_encodeChar (t rest : Text) :
    readChars (t.flatMap encodeChar ++ '"' :: rest) = some (t, rest) := by
  induction t with
  | nil => exact readChars_quote rest
  | cons c t ih =>
    rw [List.flatMap_cons, List.append_assoc, readChars_encodeChar, ih]
    rfl

theorem readString_encodeString (t rest : Text) :
    readString (encodeString t ++ rest) = some (t, rest) := by
  rw [encodeString, List.append_assoc, List.append_assoc]
  exact readChars_flatMap_encodeChar t rest

/-! ## Members -/

theorem skip_of_not_isBlank {c : Char} (h : isBlank c = false) (rest : Text) :
    skip (c :: rest) = c :: rest :=
  List.dropWhile_cons_of_neg (by simp [h])

theorem skip_encodeString (t rest : Text) :
    skip (encodeString t ++ rest) = encodeString t ++ rest := by
  rw [encodeString, List.append_assoc, List.append_assoc]
  exact skip_of_not_isBlank (by decide) _

theorem skip_encode (x : Scalar) (rest : Text) : skip (x.encode ++ rest) = x.encode ++ rest := by
  cases x with
  | string text => exact skip_encodeString text rest
  | boolean b => cases b <;> exact skip_of_not_isBlank (by decide) _

theorem readScalar_encode (x : Scalar) (rest : Text) :
    readScalar (x.encode ++ rest) = some (x, rest) := by
  cases x with
  | string text =>
    have hread : readScalar (encodeString text ++ rest)
        = (readString (encodeString text ++ rest)).map fun (s, rest) ↦ (.string s, rest) := rfl
    rw [Scalar.encode, hread, readString_encodeString]
    rfl
  | boolean b => cases b <;> rfl

theorem readMember_encodeMember (member : Text × Scalar) (rest : Text) :
    readMember (encodeMember member ++ rest) = some (member, rest) := by
  obtain ⟨name, content⟩ := member
  rw [encodeMember, List.append_assoc, List.append_assoc, readMember, readString_encodeString,
    Option.bind_some]
  have hcolon : skip ([':'] ++ (content.encode ++ rest)) = ':' :: (content.encode ++ rest) :=
    skip_of_not_isBlank (by decide) _
  simp only [hcolon, skip_encode, readScalar_encode, Option.map_some]

/-! ## Objects -/

section Members

variable {t rest more : Text} {member : Text × Scalar}

/-- What follows a member says whether there is another one. -/
theorem readMembers_of_readMember (h : readMember t = some (member, rest)) :
    readMembers t = match skip rest with
      | ',' :: more => (readMembers (skip more)).map fun (ms, rest) ↦ (member :: ms, rest)
      | '\x7d' :: more => some ([member], more)
      | _ => none := by
  rw [readMembers]
  split
  · next hnone =>
    rw [hnone] at h
    cases h
  · next m u hsome =>
    rw [hsome] at h
    cases h
    split
    · next more hcomma => simp only [hcomma]
    · next more hbrace => simp only [hbrace]
    · next hcomma hbrace =>
      split
      · next more hmore => exact absurd hmore (hcomma more)
      · next more hmore => exact absurd hmore (hbrace more)
      · rfl

theorem readMembers_last (h : readMember t = some (member, rest))
    (hrest : skip rest = '\x7d' :: more) : readMembers t = some ([member], more) := by
  simp only [readMembers_of_readMember h, hrest]

theorem readMembers_next (h : readMember t = some (member, rest))
    (hrest : skip rest = ',' :: more) :
    readMembers t = (readMembers (skip more)).map fun (ms, rest) ↦ (member :: ms, rest) := by
  simp only [readMembers_of_readMember h, hrest]

end Members

theorem exists_join_encodeMember (member : Text × Scalar) (members : List (Text × Scalar)) :
    ∃ t, Text.join [','] ((member :: members).map encodeMember) = '"' :: t := by
  cases members with
  | nil => exact ⟨_, rfl⟩
  | cons next members => exact ⟨_, rfl⟩

theorem readMembers_join (member : Text × Scalar) (members : List (Text × Scalar)) (rest : Text) :
    readMembers (Text.join [','] ((member :: members).map encodeMember) ++ '\x7d' :: rest)
      = some (member :: members, rest) := by
  induction members generalizing member with
  | nil =>
    exact readMembers_last (readMember_encodeMember member _) (skip_of_not_isBlank (by decide) rest)
  | cons next members ih =>
    obtain ⟨t, ht⟩ := exists_join_encodeMember next members
    have hread := readMembers_next (readMember_encodeMember member _)
      (skip_of_not_isBlank (c := ',') (by decide) ('"' :: t ++ '\x7d' :: rest))
    rw [List.cons_append, skip_of_not_isBlank (by decide), ← List.cons_append, ← ht, ih] at hread
    rw [List.map_cons, List.map_cons, Text.join, ← List.map_cons, List.append_assoc,
      List.append_assoc]
    exact hread

theorem decodeObject_encodeObject (members : List (Text × Scalar)) :
    decodeObject (encodeObject members) = some members := by
  cases members with
  | nil => rfl
  | cons member members =>
    obtain ⟨t, ht⟩ := exists_join_encodeMember member members
    have hread := readMembers_join member members []
    have hopen : skip ('\x7b' :: '"' :: (t ++ ['\x7d'])) = '\x7b' :: '"' :: (t ++ ['\x7d']) :=
      skip_of_not_isBlank (by decide) _
    have hquote : skip ('"' :: (t ++ ['\x7d'])) = '"' :: (t ++ ['\x7d']) :=
      skip_of_not_isBlank (by decide) _
    rw [ht, List.cons_append] at hread
    rw [encodeObject, ht, List.append_assoc, List.singleton_append, List.cons_append,
      decodeObject]
    simp only [hopen, hquote]
    -- What follows is no closing brace.
    change (readMembers ('"' :: (t ++ ['\x7d']))).bind _ = _
    rw [hread]
    rfl

end Json

/-! ## Environments and values -/

theorem Environment.mapM_ofMember? (entries : List (Text × Text)) :
    (entries.map fun (name, value) ↦ (name, Json.Scalar.string value)).mapM ofMember?
      = some entries := by
  induction entries with
  | nil => rfl
  | cons entry entries ih =>
    rw [List.map_cons, List.mapM_cons, ih]
    rfl

/-- **Round trip.** The text written for an environment is read as the environment, with the same
entries in the same order, and the text written for a value is read as the value. -/
theorem decodes_encoded :
    (∀ env : Environment, Environment.ofJson? env.toJson = some env) ∧
      ∀ value : Value, Value.ofJson? value.toJson = some value := by
  constructor
  · intro env
    rw [Environment.ofJson?, Environment.toJson, Json.decodeObject_encodeObject, Option.bind_some,
      Environment.mapM_ofMember?, Option.map_some, env.ofList_entries]
  · intro value
    cases value with
    | literal text =>
      rw [Value.toJson, Value.ofJson?, Json.decodeObject_encodeObject]
      exact if_pos rfl
    | boolean b =>
      rw [Value.toJson, Value.ofJson?, Json.decodeObject_encodeObject]
      exact if_pos rfl

end Placement
