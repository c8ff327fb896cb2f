import Placement.Comparison
import Placement.Proofs.Token

/-!
# Equality of texts

What two texts are compared as depends on both of them, so it is not obvious that `==` is an
equivalence: a text could be equal to one text as a number and to another one as an identifier. It
cannot, because no text is both. An identifier has a colon behind its scheme, and a number has none
(`Number.ofText?_eq_none_of_uri`).

So each text by itself has something that it is compared as: its number, or else what order and
hashing see of its identifier, or else the text (`Comparand`). Two texts are equal exactly if these
are the same (`Sides.equal_ofTexts`). All laws of equality follow from this.
-/

namespace Placement

namespace Text

variable {p : Char → Bool} {c : Char}

theorem mem_dropWhile_of_mem {t : Text} (h : c ∈ t) (hc : p c = false) : c ∈ t.dropWhile p := by
  rw [← List.takeWhile_append_dropWhile (p := p) (l := t), List.mem_append] at h
  refine h.resolve_left fun htake ↦ ?_
  rw [List.mem_takeWhile_imp htake] at hc
  cases hc

theorem mem_of_mem_trim {t : Text} (h : c ∈ t.trim p) : c ∈ t := by
  obtain ⟨⟨before, after, ht⟩, -⟩ := exists_trim p t
  rw [ht]
  exact List.mem_append_left _ (List.mem_append_right _ h)

theorem exists_of_splitAtFirst {t before after : Text}
    (h : t.splitAtFirst p = some (before, after)) : ∃ c ∈ t, p c = true := by
  obtain ⟨c, rfl, hc, -⟩ := splitAtFirst_eq_some_iff.mp h
  exact ⟨c, List.mem_append_right _ List.mem_cons_self, hc⟩

end Text

/-! ## Numbers have no colon -/

namespace Number

theorem colon_mem_splitSign {t : Text} (h : ':' ∈ t) : ':' ∈ (splitSign t).2 := by
  fun_cases splitSign t with
  | case1 rest | case2 rest => simpa using h
  | case3 => exact h

theorem digits?_eq_none {t : Text} (h : ':' ∈ t) : digits? t = none := by
  rw [digits?, if_neg]
  intro hdigits
  rw [Bool.and_eq_true, List.all_eq_true] at hdigits
  exact absurd (hdigits.2 ':' h) (by decide)

theorem exponent?_eq_none {t : Text} (h : ':' ∈ t) : exponent? t = none := by
  cases t with
  | nil => cases h
  | cons c rest =>
    rw [exponent?]
    split
    · next hc =>
      have hrest : ':' ∈ rest := by
        refine (List.mem_cons.mp h).resolve_left ?_
        rintro rfl
        exact absurd hc (by decide)
      dsimp only
      rw [digits?_eq_none (colon_mem_splitSign hrest)]
      rfl
    · rfl

theorem colon_mem_splitFraction {t : Text} (h : ':' ∈ t) : ':' ∈ (splitFraction t).2 := by
  fun_cases splitFraction t with
  | case1 rest => exact Text.mem_dropWhile_of_mem (by simpa using h) (by decide)
  | case2 => exact h

theorem magnitude?_eq_none {t : Text} (h : ':' ∈ t) (negative : Bool) :
    magnitude? negative t = none := by
  have hlower : ':' ∈ t.lower := List.mem_map.mpr ⟨':', h, rfl⟩
  rw [magnitude?]
  dsimp only
  rw [if_neg]
  · split
    · rfl
    · rw [exponent?_eq_none]
      · rfl
      · exact colon_mem_splitFraction (Text.mem_dropWhile_of_mem h (by decide))
  · -- The two words have no colon either.
    intro hword
    rw [Bool.or_eq_true, beq_iff_eq, beq_iff_eq] at hword
    rcases hword with hword | hword
    · rw [hword] at hlower
      exact absurd hlower (by decide)
    · rw [hword] at hlower
      exact absurd hlower (by decide)

theorem ofText?_eq_none {t : Text} (h : ':' ∈ t) : ofText? t = none := by
  rw [ofText?]
  exact magnitude?_eq_none (colon_mem_splitSign (Text.mem_dropWhile_of_mem h (by decide))) _

end Number

/-! ## Identifiers have a colon -/

theorem Url.colon_mem {t : Text} {u : Url} (h : Url.ofText t = .ok u) : ':' ∈ t := by
  cases hsplit : (Text.trim isIgnoredAround t).splitAtFirst (· == ':') with
  | none =>
    rw [Url.ofText, splitScheme?, hsplit] at h
    cases h
  | some cut =>
    obtain ⟨c, hmem, hc⟩ := Text.exists_of_splitAtFirst hsplit
    rw [beq_iff_eq] at hc
    exact Text.mem_of_mem_trim (hc ▸ hmem)

theorem Uri.colon_mem {t : Text} {u : Uri} (h : Uri.ofText t = .ok u) : ':' ∈ t := by
  rw [Uri.ofText] at h
  split at h
  · cases h
  · next url hurl => exact Text.mem_of_mem_trim (Url.colon_mem hurl)

/-- No text is both a number and an identifier. -/
theorem Number.ofText?_eq_none_of_uri {t : Text} {u : Uri} (h : Uri.ofText t = .ok u) :
    Number.ofText? t = none :=
  Number.ofText?_eq_none (Uri.colon_mem h)

theorem Uri.exists_error_of_number {t : Text} {n : Number} (h : Number.ofText? t = some n) :
    ∃ e, Uri.ofText t = .error e := by
  cases hu : Uri.ofText t with
  | error e => exact ⟨e, rfl⟩
  | ok u =>
    rw [Number.ofText?_eq_none_of_uri hu] at h
    cases h

/-! ## What a text is compared as -/

namespace Uri

variable {u v : Uri}

theorem sameOrigin_iff : u.sameOrigin v = true ↔
    u.scheme = v.scheme ∧ u.authority.map Text.lower = v.authority.map Text.lower := by
  rw [sameOrigin, Bool.and_eq_true, beq_iff_eq]
  refine and_congr_right fun _ ↦ ?_
  cases u.authority <;> cases v.authority <;> simp [Text.sameLetters]

theorem same_iff_key_eq : u.same v = true ↔ u.key = v.key := by
  simp only [same, Bool.and_eq_true, sameOrigin_iff, beq_iff_eq, key, Key.mk.injEq, and_assoc]

theorem same_comm (u v : Uri) : u.same v = v.same u := by
  rw [Bool.eq_iff_iff, same_iff_key_eq, same_iff_key_eq, eq_comm]

end Uri

/-- What equality sees of a text. -/
inductive Comparand
  | number (n : Number)
  | uri (key : Uri.Key)
  | text (t : Text)
  deriving DecidableEq

/-- The number of a text, or what is seen of its identifier, or else the text itself. -/
def Comparand.ofText (t : Text) : Comparand :=
  match Number.ofText? t, Uri.ofText t with
  | some n, _ => number n
  | none, .ok u => uri u.key
  | none, .error _ => text t

/-- **Equality goes by comparands.** Two texts are equal, whatever the two are compared as, exactly
if each by itself is compared as the same. -/
theorem Sides.equal_ofTexts (x y : Text) :
    (ofTexts x y).equal = true ↔ Comparand.ofText x = Comparand.ofText y := by
  -- Texts of different kinds are compared as texts, and differ.
  have hdiffer : ∀ {c d : Comparand}, x ≠ y → c ≠ d → ((texts x y).equal = true ↔ c = d) :=
    fun hne hcd ↦ iff_of_false (fun heq ↦ hne (beq_iff_eq.mp heq)) hcd
  rw [ofTexts, Comparand.ofText, Comparand.ofText]
  cases hm : Number.ofText? x with
  | some m =>
    obtain ⟨e, he⟩ := Uri.exists_error_of_number hm
    cases hn : Number.ofText? y with
    | some n => simp [equal]
    | none =>
      have hne : x ≠ y := ne_of_apply_ne Number.ofText? (by rw [hm, hn]; nofun)
      rw [he]
      cases Uri.ofText y with
      | ok v => exact hdiffer hne nofun
      | error e' => exact hdiffer hne nofun
  | none =>
    cases hn : Number.ofText? y with
    | some n =>
      obtain ⟨e, he⟩ := Uri.exists_error_of_number hn
      have hne : x ≠ y := ne_of_apply_ne Number.ofText? (by rw [hm, hn]; nofun)
      rw [he]
      cases Uri.ofText x with
      | ok u => exact hdiffer hne nofun
      | error e' => exact hdiffer hne nofun
    | none =>
      cases hu : Uri.ofText x with
      | ok u =>
        cases hv : Uri.ofText y with
        | ok v => simp [equal, Uri.same_iff_key_eq]
        | error e => exact hdiffer (ne_of_apply_ne Uri.ofText (by rw [hu, hv]; nofun)) nofun
      | error e =>
        cases hv : Uri.ofText y with
        | ok v => exact hdiffer (ne_of_apply_ne Uri.ofText (by rw [hu, hv]; nofun)) nofun
        | error e' => simp [equal]

theorem compareTexts_equal_eq_ok_true {x y : Text} :
    compareTexts (.comparison .equal) x y = .ok true ↔
      Comparand.ofText x = Comparand.ofText y := by
  have hequal : compareTexts (.comparison .equal) x y = .ok (Sides.ofTexts x y).equal := rfl
  rw [hequal, Except.ok.injEq, Sides.equal_ofTexts]

/-- **Equality is an equivalence.** Every text is equal to itself, the order of the two texts does
not matter, and two texts equal to a third are equal, though each pair is compared as numbers, as
identifiers or as texts by what the two of them are. -/
theorem equal_equivalence :
    (∀ x : Text, compareTexts (.comparison .equal) x x = .ok true) ∧
      (∀ x y : Text, compareTexts (.comparison .equal) x y
        = compareTexts (.comparison .equal) y x) ∧
      ∀ x y z : Text, compareTexts (.comparison .equal) x y = .ok true →
        compareTexts (.comparison .equal) y z = .ok true →
          compareTexts (.comparison .equal) x z = .ok true := by
  refine ⟨fun x ↦ compareTexts_equal_eq_ok_true.mpr rfl, fun x y ↦ ?_, fun x y z hxy hyz ↦ ?_⟩
  · have hsymm : (Sides.ofTexts x y).equal = (Sides.ofTexts y x).equal := by
      rw [Bool.eq_iff_iff, Sides.equal_ofTexts, Sides.equal_ofTexts, eq_comm]
    exact congrArg Except.ok hsymm
  · rw [compareTexts_equal_eq_ok_true] at hxy hyz ⊢
    exact hxy.trans hyz

theorem equal_equivalence_spellings :
    let x := "HTTP://A:80/%41".toList
    let y := "http:a/%41".toList
    let z := " http:/A/%41".toList
    compareTexts (.comparison .equal) x y = .ok true ∧
      compareTexts (.comparison .equal) y z = .ok true ∧
      compareTexts (.comparison .equal) x z = .ok true := by
  intro x y z
  have hxy : (Sides.ofTexts x y).equal = true := by decide +kernel
  have hyz : (Sides.ofTexts y z).equal = true := by decide +kernel
  exact ⟨congrArg Except.ok hxy, congrArg Except.ok hyz,
    equal_equivalence.2.2 x y z (congrArg Except.ok hxy) (congrArg Except.ok hyz)⟩

end Placement
