import Placement.Proofs.Json
import Placement.Proofs.Token

/-!
# Objects of strings

The grammar of the files that properties are read from, said without the reader: an object whose
members are strings, in any of the ways in which a string can be written, with blanks between the
parts. It does not matter whether names are repeated.

The reader accepts the texts of the grammar and no others (`Environment.ofJson?_eq_some_iff`). One
direction follows a text along the grammar, in front of an arbitrary rest; the other one takes apart
what the reader has accepted.
-/

namespace Placement

namespace Json

/-! ## The grammar -/

/-- Four hexadecimal digits that write a number. -/
def WritesUnit (digits : Text) (n : Nat) : Prop :=
  digits.length = 4 ∧ (∀ d ∈ digits, Text.isHexDigit d = true) ∧ Text.toNatBase 16 digits = n

/-- A character as it may stand in a string: as itself, unless it is a quote, a backslash or a
control; as a short escape; by its number; or by the numbers of two surrogates. -/
inductive WritesChar : Text → Char → Prop
  | plain {c : Char} (hquote : c ≠ '"') (hslash : c ≠ '\\') (hcontrol : 0x20 ≤ c.toNat) :
      WritesChar [c] c
  | short {e c : Char} (h : shortEscape? e = some c) : WritesChar ['\\', e] c
  | number {digits : Text} {c : Char} (h : WritesUnit digits c.toNat) :
      WritesChar ('\\' :: 'u' :: digits) c
  | surrogates {high low : Text} {m n : Nat} {c : Char} (hhigh : WritesUnit high m)
      (hlow : WritesUnit low n) (hm : isHighSurrogate m = true) (hn : isLowSurrogate n = true)
      (hc : joinSurrogates m n = c) : WritesChar ('\\' :: 'u' :: (high ++ '\\' :: 'u' :: low)) c

/-- The characters of a string. -/
inductive WritesChars : Text → Text → Prop
  | nil : WritesChars [] []
  | cons {written more : Text} {c : Char} {t : Text} (hc : WritesChar written c)
      (hmore : WritesChars more t) : WritesChars (written ++ more) (c :: t)

def WritesString (written t : Text) : Prop :=
  ∃ chars, written = '"' :: (chars ++ ['"']) ∧ WritesChars chars t

/-- A member: name and value, with a colon between them. -/
inductive WritesMember : Text → Text × Text → Prop
  | mk {name value before behind n v : Text} (hname : WritesString name n)
      (hbefore : AllBlank before) (hbehind : AllBlank behind) (hvalue : WritesString value v) :
      WritesMember (name ++ (before ++ ':' :: (behind ++ value))) (n, v)

/-- One member or more, with commas between them. -/
inductive WritesMembers : Text → List (Text × Text) → Prop
  | last {written gap : Text} {member : Text × Text} (h : WritesMember written member)
      (hgap : AllBlank gap) : WritesMembers (written ++ gap) [member]
  | next {written before behind more : Text} {member : Text × Text} {members : List (Text × Text)}
      (h : WritesMember written member) (hbefore : AllBlank before) (hbehind : AllBlank behind)
      (hmore : WritesMembers more members) :
      WritesMembers (written ++ (before ++ ',' :: (behind ++ more))) (member :: members)

inductive WritesObject : Text → List (Text × Text) → Prop
  | empty {before inside behind : Text} (hbefore : AllBlank before) (hinside : AllBlank inside)
      (hbehind : AllBlank behind) :
      WritesObject (before ++ '\x7b' :: (inside ++ '\x7d' :: behind)) []
  | members {before inside written behind : Text} {members : List (Text × Text)}
      (hbefore : AllBlank before) (hinside : AllBlank inside) (h : WritesMembers written members)
      (hbehind : AllBlank behind) :
      WritesObject (before ++ '\x7b' :: (inside ++ (written ++ '\x7d' :: behind))) members

/-! ## Characters -/

theorem readUnit_eq_some_iff {t rest : Text} {n : Nat} :
    readUnit t = some (n, rest) ↔ ∃ digits, t = digits ++ rest ∧ WritesUnit digits n := by
  constructor
  · intro h
    unfold readUnit at h
    split at h
    · next a b c d more =>
      split at h
      · next hdigits =>
        obtain ⟨rfl, rfl⟩ := Prod.mk.inj (Option.some_inj.mp h)
        exact ⟨[a, b, c, d], rfl, rfl, List.all_eq_true.mp hdigits, rfl⟩
      · cases h
    · cases h
  · rintro ⟨digits, rfl, hlength, hdigits, rfl⟩
    obtain ⟨a, b, c, d, rfl⟩ := List.length_eq_four.mp hlength
    exact if_pos (List.all_eq_true.mpr hdigits)

private theorem hexValue?_lt (c : Char) : (Text.hexValue? c).getD 0 < 16 := by
  have hle : ∀ d : Char, c ≤ d → c.toNat ≤ d.toNat := fun d h ↦ h
  rw [Text.hexValue?]
  split
  · next h =>
    have := hle '9' h.2
    have hnine : '9'.toNat = 57 := rfl
    have hzero : '0'.toNat = 48 := rfl
    simp only [Option.getD_some]
    omega
  · split
    · next h =>
      have := hle 'f' h.2
      have hf : 'f'.toNat = 102 := rfl
      have ha : 'a'.toNat = 97 := rfl
      simp only [Option.getD_some]
      omega
    · split
      · next h =>
        have := hle 'F' h.2
        have hf : 'F'.toNat = 70 := rfl
        have ha : 'A'.toNat = 65 := rfl
        simp only [Option.getD_some]
        omega
      · simp

theorem WritesUnit.lt {digits : Text} {n : Nat} (h : WritesUnit digits n) : n < 0x10000 := by
  obtain ⟨hlength, -, rfl⟩ := h
  obtain ⟨a, b, c, d, rfl⟩ := List.length_eq_four.mp hlength
  have ha := hexValue?_lt a
  have hb := hexValue?_lt b
  have hc := hexValue?_lt c
  have hd := hexValue?_lt d
  simp only [Text.toNatBase, List.foldl_cons, List.foldl_nil]
  omega

theorem isHighSurrogate_iff {n : Nat} : isHighSurrogate n = true ↔ 0xD800 ≤ n ∧ n < 0xDC00 := by
  rw [isHighSurrogate, Bool.and_eq_true, decide_eq_true_iff, decide_eq_true_iff]

theorem isLowSurrogate_iff {n : Nat} : isLowSurrogate n = true ↔ 0xDC00 ≤ n ∧ n < 0xE000 := by
  rw [isLowSurrogate, Bool.and_eq_true, decide_eq_true_iff, decide_eq_true_iff]

/-- A number of two bytes is that of a character unless it is one of a surrogate. -/
theorem toNat_ofNat_of_not_surrogate {n : Nat} (h : n < 0x10000) (hhigh : ¬isHighSurrogate n = true)
    (hlow : ¬isLowSurrogate n = true) : (Char.ofNat n).toNat = n := by
  rw [isHighSurrogate_iff] at hhigh
  rw [isLowSurrogate_iff] at hlow
  have hvalid : n.isValidChar := by
    rw [Nat.isValidChar]
    omega
  rw [Char.ofNat, dif_pos hvalid]
  rfl

theorem not_surrogate (c : Char) :
    ¬isHighSurrogate c.toNat = true ∧ ¬isLowSurrogate c.toNat = true := by
  have hvalid : c.toNat < 0xD800 ∨ 0xDFFF < c.toNat ∧ c.toNat < 0x110000 := c.valid
  rw [isHighSurrogate_iff, isLowSurrogate_iff]
  omega

/-- An escape by number is that of a character, or goes on with a second surrogate. -/
theorem exists_of_readSurrogates {digits t rest : Text} {n : Nat} {c : Char}
    (hdigits : WritesUnit digits n) (h : readSurrogates n t = some (c, rest)) :
    ∃ more, t = more ++ rest ∧ WritesChar ('\\' :: 'u' :: (digits ++ more)) c := by
  unfold readSurrogates at h
  split at h
  · next hhigh =>
    split at h
    · next u =>
      obtain ⟨⟨m, v⟩, hunit, hlow⟩ := Option.bind_eq_some_iff.mp h
      obtain ⟨digits', rfl, hdigits'⟩ := readUnit_eq_some_iff.mp hunit
      dsimp only at hlow
      split at hlow
      · next hm =>
        obtain ⟨hc, rfl⟩ := Prod.mk.inj (Option.some_inj.mp hlow)
        exact ⟨'\\' :: 'u' :: digits', rfl, .surrogates hdigits hdigits' hhigh hm hc⟩
      · cases hlow
    · cases h
  · next hhigh =>
    split at h
    · cases h
    · next hlow =>
      obtain ⟨rfl, rfl⟩ := Prod.mk.inj (Option.some_inj.mp h)
      refine ⟨[], rfl, .number ?_⟩
      rwa [List.append_nil, toNat_ofNat_of_not_surrogate hdigits.lt hhigh hlow]

/-- What an escape holds, its backslash left out. -/
theorem readEscape_eq_some_iff {t rest : Text} {c : Char} :
    readEscape t = some (c, rest) ↔
      ∃ written, t = written ++ rest ∧ WritesChar ('\\' :: written) c := by
  constructor
  · intro h
    cases t with
    | nil => cases h
    | cons e t =>
      rw [readEscape] at h
      split at h
      · next he =>
        obtain ⟨⟨n, u⟩, hunit, hread⟩ := Option.bind_eq_some_iff.mp h
        obtain ⟨digits, rfl, hdigits⟩ := readUnit_eq_some_iff.mp hunit
        obtain ⟨more, rfl, hc⟩ := exists_of_readSurrogates hdigits hread
        exact ⟨'u' :: (digits ++ more), by rw [he, List.cons_append, List.append_assoc], hc⟩
      · obtain ⟨x, hx, heq⟩ := Option.map_eq_some_iff.mp h
        obtain ⟨rfl, rfl⟩ := Prod.mk.inj heq
        exact ⟨[e], rfl, .short hx⟩
  · rintro ⟨written, rfl, h⟩
    generalize hw : '\\' :: written = w at h
    cases h with
    | plain hquote hslash hcontrol => exact absurd (List.cons.inj hw).1.symm hslash
    | @short e c h =>
      obtain rfl := (List.cons.inj hw).2
      have hu : e ≠ 'u' := by
        rintro rfl
        cases h
      rw [List.singleton_append, readEscape, if_neg hu, h]
      rfl
    | number h =>
      obtain rfl := (List.cons.inj hw).2
      rw [List.cons_append, readEscape, if_pos rfl, readUnit_eq_some_iff.mpr ⟨_, rfl, h⟩,
        Option.bind_some]
      dsimp only
      unfold readSurrogates
      rw [if_neg (not_surrogate c).1, if_neg (not_surrogate c).2, Char.ofNat_toNat]
    | surrogates hhigh hlow hm hn hc =>
      obtain rfl := (List.cons.inj hw).2
      rw [List.cons_append, List.append_assoc, readEscape, if_pos rfl,
        readUnit_eq_some_iff.mpr ⟨_, rfl, hhigh⟩, Option.bind_some]
      dsimp only [List.cons_append]
      rw [readSurrogates, if_pos hm]
      dsimp only
      rw [readUnit_eq_some_iff.mpr ⟨_, rfl, hlow⟩, Option.bind_some]
      dsimp only
      rw [if_pos hn, hc]

/-! ## Strings -/

/-- What a string holds, its first quote left out. -/
theorem readChars_eq_some_iff {t rest s : Text} :
    readChars t = some (s, rest) ↔ ∃ chars, t = chars ++ '"' :: rest ∧ WritesChars chars s := by
  constructor
  · intro h
    fun_induction readChars t generalizing s with
    | case1 => cases h
    | case2 u =>
      obtain ⟨rfl, rfl⟩ := Prod.mk.inj (Option.some_inj.mp h)
      exact ⟨[], rfl, .nil⟩
    | case3 => cases h
    | case4 u x v hescape _ ih =>
      obtain ⟨⟨s', r⟩, hs, heq⟩ := Option.map_eq_some_iff.mp h
      obtain ⟨rfl, rfl⟩ := Prod.mk.inj heq
      obtain ⟨written, rfl, hx⟩ := readEscape_eq_some_iff.mp hescape
      obtain ⟨chars, rfl, hchars⟩ := ih hs
      exact ⟨('\\' :: written) ++ chars, by simp, .cons hx hchars⟩
    | case5 => cases h
    | case6 c u hquote hslash hcontrol ih =>
      obtain ⟨⟨s', r⟩, hs, heq⟩ := Option.map_eq_some_iff.mp h
      obtain ⟨rfl, rfl⟩ := Prod.mk.inj heq
      obtain ⟨chars, rfl, hchars⟩ := ih hs
      exact ⟨[c] ++ chars, rfl, .cons (.plain hquote hslash (Nat.le_of_not_lt hcontrol)) hchars⟩
  · rintro ⟨chars, rfl, h⟩
    induction h with
    | nil => exact readChars_quote rest
    | @cons written more c s hc hmore ih =>
      have hplain : ∀ {c : Char}, c ≠ '"' → c ≠ '\\' → 0x20 ≤ c.toNat →
          readChars (c :: (more ++ '"' :: rest)) = some (c :: s, rest) := by
        intro c hquote hslash hcontrol
        rw [readChars, if_neg hquote, if_neg hslash, if_neg (Nat.not_lt.mpr hcontrol), ih]
        rfl
      have hescape : ∀ {written : Text}, WritesChar ('\\' :: written) c →
          readChars ('\\' :: written ++ (more ++ '"' :: rest)) = some (c :: s, rest) := by
        intro written h
        rw [List.cons_append, readChars_escape (readEscape_eq_some_iff.mpr ⟨written, rfl, h⟩), ih]
        rfl
      rw [List.append_assoc]
      cases hc with
      | plain hquote hslash hcontrol => exact hplain hquote hslash hcontrol
      | short h => exact hescape (.short h)
      | number h => exact hescape (.number h)
      | surrogates hhigh hlow hm hn hc => exact hescape (.surrogates hhigh hlow hm hn hc)

theorem readString_eq_some_iff {t rest s : Text} :
    readString t = some (s, rest) ↔ ∃ written, t = written ++ rest ∧ WritesString written s := by
  constructor
  · intro h
    unfold readString at h
    split at h
    · obtain ⟨chars, rfl, hchars⟩ := readChars_eq_some_iff.mp h
      exact ⟨'"' :: (chars ++ ['"']), by simp, chars, rfl, hchars⟩
    · cases h
  · rintro ⟨-, rfl, chars, rfl, hchars⟩
    exact readChars_eq_some_iff.mpr ⟨chars, by simp, hchars⟩

/-! ## Objects -/

theorem skip_append {gap : Text} (hgap : AllBlank gap) {c : Char} (hc : isBlank c = false)
    (t : Text) : skip (gap ++ c :: t) = c :: t := by
  rw [skip, List.dropWhile_append_of_pos hgap]
  exact skip_of_not_isBlank hc t

theorem isEmpty_skip_iff {t : Text} : (skip t).isEmpty = true ↔ AllBlank t := by
  rw [List.isEmpty_iff, skip, List.dropWhile_eq_nil_iff]
  rfl

theorem exists_gap_skip (t : Text) : ∃ gap, AllBlank gap ∧ t = gap ++ skip t :=
  ⟨t.takeWhile isBlank, fun _ ↦ List.mem_takeWhile_imp, List.takeWhile_append_dropWhile.symm⟩

/-- A string is read as content, for it begins with a quote and no word does. -/
theorem readScalar_eq_some_iff {t rest v : Text} :
    readScalar t = some (.string v, rest) ↔ readString t = some (v, rest) := by
  constructor
  · intro h
    unfold readScalar at h
    split at h
    · cases h
    · cases h
    · obtain ⟨read, hread, heq⟩ := Option.map_eq_some_iff.mp h
      cases heq
      exact hread
  · intro h
    obtain ⟨-, rfl, chars, rfl, -⟩ := readString_eq_some_iff.mp h
    have hread : readScalar ('"' :: (chars ++ ['"']) ++ rest)
        = (readString ('"' :: (chars ++ ['"']) ++ rest)).map
          fun read ↦ (.string read.1, read.2) := rfl
    rw [hread, h]
    rfl

/-! Strings begin with a quote, and so do members. This tells them from blanks and from what ends an
object. -/

theorem WritesString.exists_quote {written s : Text} (h : WritesString written s) :
    ∃ t, written = '"' :: t := by
  obtain ⟨chars, rfl, -⟩ := h
  exact ⟨_, rfl⟩

theorem WritesMember.exists_quote {written : Text} {member : Text × Text}
    (h : WritesMember written member) : ∃ t, written = '"' :: t := by
  obtain ⟨hname, -, -, -⟩ := h
  obtain ⟨t, rfl⟩ := hname.exists_quote
  exact ⟨_, rfl⟩

theorem WritesMembers.exists_quote {written : Text} {members : List (Text × Text)}
    (h : WritesMembers written members) : ∃ t, written = '"' :: t := by
  cases h with
  | last h _ =>
    obtain ⟨t, rfl⟩ := h.exists_quote
    exact ⟨_, rfl⟩
  | next h _ _ _ =>
    obtain ⟨t, rfl⟩ := h.exists_quote
    exact ⟨_, rfl⟩

theorem skip_append_quote {gap : Text} (hgap : AllBlank gap) {written : Text}
    (h : ∃ t, written = '"' :: t) (rest : Text) :
    skip (gap ++ (written ++ rest)) = written ++ rest := by
  obtain ⟨t, rfl⟩ := h
  exact skip_append hgap (by decide) _

theorem readMember_eq_some_iff {t rest n v : Text} :
    readMember t = some ((n, .string v), rest) ↔
      ∃ written, t = written ++ rest ∧ WritesMember written (n, v) := by
  constructor
  · intro h
    obtain ⟨⟨name, u⟩, hname, h⟩ := Option.bind_eq_some_iff.mp h
    dsimp only at h
    split at h
    · next more hcolon =>
      obtain ⟨⟨x, r⟩, hx, heq⟩ := Option.map_eq_some_iff.mp h
      cases heq
      obtain ⟨first, rfl, hfirst⟩ := readString_eq_some_iff.mp hname
      obtain ⟨before, hbefore, hu⟩ := exists_gap_skip u
      obtain ⟨behind, hbehind, hmore⟩ := exists_gap_skip more
      obtain ⟨second, hskip, hsecond⟩ :=
        readString_eq_some_iff.mp (readScalar_eq_some_iff.mp hx)
      refine ⟨_, ?_, .mk hfirst hbefore hbehind hsecond⟩
      rw [hu, hcolon, hmore, hskip]
      simp
    · cases h
  · rintro ⟨-, rfl, hname, hbefore, hbehind, hvalue⟩
    next name value before behind =>
    have hcolon : skip (before ++ ':' :: (behind ++ (value ++ rest)))
        = ':' :: (behind ++ (value ++ rest)) := skip_append hbefore (by decide) _
    have hread : readScalar (value ++ rest) = some (.string v, rest) :=
      readScalar_eq_some_iff.mpr (readString_eq_some_iff.mpr ⟨value, rfl, hvalue⟩)
    rw [List.append_assoc, List.append_assoc, List.cons_append, List.append_assoc, readMember,
      readString_eq_some_iff.mpr ⟨name, rfl, hname⟩, Option.bind_some]
    simp only [hcolon, skip_append_quote hbehind hvalue.exists_quote, hread, Option.map_some]

def ofStrings (member : Text × Text) : Text × Scalar := (member.1, .string member.2)

/-- What the members of an object hold, up to the closing brace. -/
theorem readMembers_eq_some_iff {t rest : Text} {members : List (Text × Text)} :
    readMembers t = some (members.map ofStrings, rest) ↔
      ∃ written, t = written ++ '\x7d' :: rest ∧ WritesMembers written members := by
  constructor
  · intro h
    fun_induction readMembers t generalizing members with
    | case1 => cases h
    | case2 u m v hm more hmore ih =>
      obtain ⟨⟨ms, r⟩, hms, heq⟩ := Option.map_eq_some_iff.mp h
      obtain ⟨hmembers, rfl⟩ := Prod.mk.inj heq
      cases members with
      | nil => cases hmembers
      | cons member members =>
        obtain ⟨rfl, rfl⟩ := List.cons.inj hmembers
        obtain ⟨written, rfl, hwritten⟩ := readMember_eq_some_iff.mp hm
        obtain ⟨before, hbefore, hv⟩ := exists_gap_skip v
        obtain ⟨behind, hbehind, hu⟩ := exists_gap_skip more
        obtain ⟨others, hskip, hothers⟩ := ih hms
        refine ⟨_, ?_, .next hwritten hbefore hbehind hothers⟩
        rw [hv, hmore, hu, hskip]
        simp
    | case3 u m v hm more hmore =>
      obtain ⟨hmembers, rfl⟩ := Prod.mk.inj (Option.some_inj.mp h)
      obtain ⟨member, rfl, rfl⟩ := List.map_eq_singleton_iff.mp hmembers.symm
      obtain ⟨written, rfl, hwritten⟩ := readMember_eq_some_iff.mp hm
      obtain ⟨gap, hgap, hv⟩ := exists_gap_skip v
      refine ⟨_, ?_, .last hwritten hgap⟩
      rw [hv, hmore, List.append_assoc]
    | case4 => cases h
  · rintro ⟨written, rfl, h⟩
    induction h with
    | last h hgap =>
      exact readMembers_last (readMember_eq_some_iff.mpr ⟨_, List.append_assoc _ _ _, h⟩)
        (skip_append hgap (by decide) rest)
    | @next written before behind more member members h hbefore hbehind hmore ih =>
      have hcomma : skip (before ++ ',' :: (behind ++ (more ++ '\x7d' :: rest)))
          = ',' :: (behind ++ (more ++ '\x7d' :: rest)) := skip_append hbefore (by decide) _
      have hread := readMembers_next (readMember_eq_some_iff.mpr ⟨_, rfl, h⟩) hcomma
      rw [skip_append_quote hbehind hmore.exists_quote, ih] at hread
      rw [List.append_assoc, List.append_assoc, List.cons_append, List.append_assoc]
      exact hread

theorem decodeObject_eq_some_iff {t : Text} {members : List (Text × Text)} :
    decodeObject t = some (members.map ofStrings) ↔ WritesObject t members := by
  constructor
  · intro h
    unfold decodeObject at h
    split at h
    · next inner hbrace =>
      obtain ⟨before, hbefore, ht⟩ := exists_gap_skip t
      obtain ⟨inside, hinside, hinner⟩ := exists_gap_skip inner
      obtain ⟨⟨ms, rest⟩, hread, hend⟩ := Option.bind_eq_some_iff.mp h
      dsimp only at hend
      split at hend
      · next hrest =>
        obtain rfl := Option.some_inj.mp hend
        have hbehind := isEmpty_skip_iff.mp hrest
        rw [ht, hbrace, hinner]
        split at hread
        · next more hclose =>
          obtain ⟨hnil, rfl⟩ := Prod.mk.inj (Option.some_inj.mp hread)
          obtain rfl := List.map_eq_nil_iff.mp hnil.symm
          rw [hclose]
          exact .empty hbefore hinside hbehind
        · obtain ⟨written, hwritten, hmembers⟩ := readMembers_eq_some_iff.mp hread
          rw [hwritten]
          exact .members hbefore hinside hmembers hbehind
      · cases hend
    · cases h
  · intro h
    cases h with
    | @empty before inside behind hbefore hinside hbehind =>
      simp only [decodeObject, skip_append hbefore (show isBlank '\x7b' = false by decide),
        skip_append hinside (show isBlank '\x7d' = false by decide), Option.bind_some,
        isEmpty_skip_iff.mpr hbehind, if_true, List.map_nil]
    | @members before inside written behind members hbefore hinside h hbehind =>
      obtain ⟨u, hu⟩ := h.exists_quote
      have hread : readMembers (written ++ '\x7d' :: behind)
          = some (members.map ofStrings, behind) := readMembers_eq_some_iff.mpr ⟨written, rfl, h⟩
      rw [hu, List.cons_append] at hread
      simp only [decodeObject, skip_append hbefore (show isBlank '\x7b' = false by decide), hu,
        List.cons_append, skip_append hinside (show isBlank '"' = false by decide)]
      -- What follows is no closing brace.
      change (readMembers ('"' :: (u ++ '\x7d' :: behind))).bind _ = _
      rw [hread, Option.bind_some]
      exact if_pos (isEmpty_skip_iff.mpr hbehind)

end Json

/-! ## Environments -/

namespace Environment

theorem mapM_ofMember?_eq_some_iff {members : List (Text × Json.Scalar)}
    {properties : List (Text × Text)} :
    members.mapM ofMember? = some properties ↔ members = properties.map Json.ofStrings := by
  constructor
  · intro h
    induction members generalizing properties with
    | nil =>
      obtain rfl := Option.some_inj.mp h
      rfl
    | cons member members ih =>
      rw [List.mapM_cons] at h
      obtain ⟨property, hproperty, h⟩ := Option.bind_eq_some_iff.mp h
      obtain ⟨others, hothers, h⟩ := Option.bind_eq_some_iff.mp h
      obtain rfl := Option.some_inj.mp h
      obtain ⟨name, _ | b⟩ := member
      · obtain rfl := Option.some_inj.mp hproperty
        rw [ih hothers]
        rfl
      · cases hproperty
  · rintro rfl
    exact mapM_ofMember? properties

/-- The environments that are read are those that objects of strings define. -/
theorem ofJson?_eq_some_iff {t : Text} {env : Environment} :
    ofJson? t = some env ↔ ∃ members, Json.WritesObject t members ∧ env = ofList members := by
  rw [ofJson?, Option.bind_eq_some_iff]
  constructor
  · rintro ⟨read, hread, h⟩
    obtain ⟨members, hmembers, rfl⟩ := Option.map_eq_some_iff.mp h
    obtain rfl := mapM_ofMember?_eq_some_iff.mp hmembers
    exact ⟨members, Json.decodeObject_eq_some_iff.mp hread, rfl⟩
  · rintro ⟨members, hobject, rfl⟩
    refine ⟨_, Json.decodeObject_eq_some_iff.mpr hobject, ?_⟩
    rw [mapM_ofMember?_eq_some_iff.mpr rfl, Option.map_some]

end Environment

end Placement
