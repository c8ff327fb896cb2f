import Placement.Proofs.Division

/-!
# The path as it was written

The reader of addresses finds out by its own rules where an authority ends. The written path is cut
out of the text a second time, by simpler rules: an authority has to stand behind two slashes, and
it ends at the next slash. Where the two agree, the path follows the authority and is empty or
begins with a slash. `Uri.path_follows_authority` says exactly where they do, and
`Uri.path_holds_host` is the simplest text on which they do not: with one slash instead of two the
host is found all the same, and is then part of the path.

Both ways of cutting are compared on the text without what the reader ignores. That a text is cut in
the wrong place shows in the length of the path, or in its first character.
-/

namespace Placement

/-! ## Where the written text is cut -/

namespace Uri

/-- The path is what is written behind the authority, up to a query or fragment: read like an
address, without what is ignored in it, it is the beginning of `behind`. What is ignored at the end
of the text may belong to the path or not. -/
def PathFollows (u : Uri) (behind : Text) : Prop :=
  ∃ ending, ending <:+ u.text ∧ (∀ c ∈ ending, Url.isIgnoredAround c = true) ∧
    withoutIgnored u.path = (Path.split (behind ++ withoutIgnored ending)).1

/-- The text shows where the authority is: two slashes stand right behind the scheme, the authority
is all that follows them up to the next slash, and it is ended by this slash, by a mark of a query
or fragment or by the end of the text. -/
structure MarksAuthority (t front behind : Text) : Prop where
  slashes : ∃ scheme rest, t = scheme ++ ':' :: '/' :: '/' :: rest ∧ ':' ∉ scheme
  front_eq : ∃ authority, front = '/' :: '/' :: authority ∧ '/' ∉ authority
  behind_head : ∀ c ∈ behind.head?, c = '/' ∨ SchemeKind.endsPath c = true

/-! ### Beginnings up to a mark -/

/-- A text from its first slash, or mark of a query or fragment, on. -/
def fromSlash (t : Text) : Text := t.dropWhile fun c ↦ !(c == '/' || SchemeKind.endsPath c)

section Beginning

variable {front behind ending ending' t : Text}

theorem split_append (hfront : ∀ c ∈ front, SchemeKind.endsPath c = false) (t : Text) :
    (Path.split (front ++ t)).1 = front ++ (Path.split t).1 :=
  List.takeWhile_append_of_pos fun c hc ↦ by rw [hfront c hc]; rfl

theorem length_split_le (h : ∀ c ∈ ending, SchemeKind.endsPath c = false)
    (hle : ending'.length ≤ ending.length) :
    (Path.split (behind ++ ending')).1.length ≤ (Path.split (behind ++ ending)).1.length := by
  induction behind with
  | nil =>
    have hall := split_append h []
    rw [List.append_nil] at hall
    rw [List.nil_append, List.nil_append, hall, List.length_append]
    exact (List.takeWhile_prefix _).length_le.trans (hle.trans (Nat.le_add_right _ _))
  | cons c behind ih =>
    rw [List.cons_append, List.cons_append, Path.split, Path.split, List.takeWhile_cons,
      List.takeWhile_cons]
    split
    · exact Nat.succ_le_succ ih
    · exact Nat.le_refl _

/-- From the first slash or mark on and up to a mark, a text begins with that slash. -/
theorem head_split_fromSlash (t : Text) :
    ∀ c ∈ (Path.split (fromSlash t)).1.head?, c = '/' := by
  have hhead := List.head?_dropWhile_not (fun c ↦ !(c == '/' || SchemeKind.endsPath c)) t
  intro c hc
  cases ht : fromSlash t with
  | nil =>
    rw [ht] at hc
    cases hc
  | cons d more =>
    rw [fromSlash] at ht
    rw [ht] at hhead
    rw [fromSlash, ht, Path.split, List.takeWhile_cons] at hc
    split at hc
    · next hd =>
      obtain rfl := Option.some_inj.mp hc
      simpa [hd] using hhead
    · cases hc

theorem fromSlash_append (hfront : ∀ c ∈ front, SchemeKind.endsPath c = false)
    (hslash : '/' ∉ front) (t : Text) : fromSlash (front ++ t) = fromSlash t := by
  refine List.dropWhile_append_of_pos fun c hc ↦ ?_
  have hne : c ≠ '/' := fun heq ↦ hslash (heq ▸ hc)
  simp [hfront c hc, hne]

theorem exists_fromSlash_append (hfront : ∀ c ∈ front, SchemeKind.endsPath c = false)
    (hslash : '/' ∈ front) (t : Text) :
    ∃ more, (∀ c ∈ more, SchemeKind.endsPath c = false) ∧
      fromSlash (front ++ t) = '/' :: (more ++ t) := by
  obtain ⟨before, more, rfl, hbefore⟩ := List.eq_append_cons_of_mem hslash
  obtain ⟨hfirst, hmore⟩ := List.forall_mem_append.mp hfront
  refine ⟨more, fun c hc ↦ hmore c (List.mem_cons_of_mem _ hc), ?_⟩
  rw [List.append_assoc, fromSlash_append hfirst hbefore]
  rfl

private theorem not_mark_of_isIgnored {c : Char} (h : isIgnored c = true) :
    (c == '/') = false ∧ SchemeKind.endsPath c = false := by
  simp only [isIgnored, Bool.or_eq_true, beq_iff_eq] at h
  rcases h with (rfl | rfl) | rfl <;> exact ⟨rfl, rfl⟩

theorem withoutIgnored_split (t : Text) :
    withoutIgnored (Path.split t).1 = (Path.split (withoutIgnored t)).1 :=
  withoutIgnored_takeWhile (fun c hc ↦ by rw [(not_mark_of_isIgnored hc).2]; rfl) t

theorem withoutIgnored_fromSlash (t : Text) :
    withoutIgnored (fromSlash t) = fromSlash (withoutIgnored t) :=
  withoutIgnored_dropWhile
    (fun c hc ↦ by rw [(not_mark_of_isIgnored hc).1, (not_mark_of_isIgnored hc).2]; rfl) t

end Beginning

/-! ### The two ways of cutting -/

section Cut

variable {scheme rest : Text}

theorem writtenPath_of_slashes (h : ':' ∉ scheme) (rest : Text) :
    writtenPath (scheme ++ ':' :: '/' :: '/' :: rest) = (Path.split (fromSlash rest)).1 := by
  rw [writtenPath, Text.splitAtFirst_beq_eq_some_iff.mpr ⟨rfl, h⟩]
  rfl

theorem writtenPath_of_not_slashes (h : ':' ∉ scheme) (hrest : ¬['/', '/'] <+: rest) :
    writtenPath (scheme ++ ':' :: rest) = (Path.split rest).1 := by
  rw [writtenPath, Text.splitAtFirst_beq_eq_some_iff.mpr ⟨rfl, h⟩]
  dsimp only
  split
  · next more hmore => exact absurd ⟨more, hmore.symm⟩ hrest
  · rfl

end Cut

/-! ### The division of an identifier -/

/-- At its end a text has nothing to be trimmed but what is trimmed there. -/
theorem suffix_of_trim {p : Char → Bool} {t before after ending : Text}
    (ht : t = before ++ t.trim p ++ after) (hne : t.trim p ≠ []) (hsuffix : ending <:+ t)
    (hending : ∀ c ∈ ending, p c = true) : ending <:+ after := by
  rcases List.suffix_or_suffix_of_suffix hsuffix ⟨_, ht.symm⟩ with h | ⟨more, rfl⟩
  · exact h
  · cases hmore : more.getLast? with
    | none =>
      rw [List.getLast?_eq_none_iff.mp hmore]
      exact List.suffix_refl _
    | some c =>
      obtain ⟨rest, hrest⟩ := hsuffix
      rw [← List.append_assoc] at hrest
      have hparts : rest ++ more = before ++ t.trim p := List.append_cancel_right (hrest.trans ht)
      have hlast : (t.trim p).getLast? = some c := by
        rw [← List.getLast?_append_of_ne_nil before hne, ← hparts, List.getLast?_append, hmore]
        rfl
      have hc : p c = true :=
        hending c (List.mem_append_left _ (List.mem_of_getLast? hmore))
      rw [(Text.exists_trim p t).2.2 c hlast] at hc
      cases hc

/-- What the text of an identifier looks like: its scheme and a colon, then what the reader divides,
then what it ignores at the end. -/
structure Parts (t scheme rest ending : Text) : Prop where
  text_eq : t = scheme ++ ':' :: (rest ++ ending)
  colon_notMem : ':' ∉ scheme
  ignored : ∀ c ∈ ending, Url.isIgnoredAround c = true
  /-- Nothing more is ignored at the end. -/
  suffix : ∀ ending', ending' <:+ t → (∀ c ∈ ending', Url.isIgnoredAround c = true) →
    ending' <:+ ending

theorem exists_parts {t scheme rest : Text}
    (h : splitScheme? (t.trim Url.isIgnoredAround) = some (scheme, rest)) :
    ∃ written ending, Parts t written rest ending := by
  obtain ⟨lead, ending, ht, hlead, hending⟩ := Text.exists_append_trim Url.isIgnoredAround t
  obtain ⟨⟨written, behind⟩, hsplit, hscheme⟩ := Option.bind_eq_some_iff.mp h
  obtain ⟨htrim, hwritten⟩ := Text.splitAtFirst_beq_eq_some_iff.mp hsplit
  obtain rfl : behind = rest := by
    dsimp only at hscheme
    split at hscheme
    · split at hscheme
      · exact (Prod.mk.inj (Option.some_inj.mp hscheme)).2
      · cases hscheme
    · cases hscheme
  have hne : t.trim Url.isIgnoredAround ≠ [] := by
    rw [htrim]
    simp
  refine ⟨lead ++ written, ending, ?_, ?_, hending, fun ending' ↦ suffix_of_trim ht hne⟩
  · rw [htrim] at ht
    simpa using ht
  · intro hmem
    rcases List.mem_append.mp hmem with hmem | hmem
    · exact absurd (hlead ':' hmem) (by decide)
    · exact hwritten hmem

private theorem not_mark_of_isIgnoredAround {c : Char} (h : Url.isIgnoredAround c = true) :
    c ≠ '/' ∧ SchemeKind.endsPath c = false := by
  have hle : c.toNat ≤ 0x20 := of_decide_eq_true h
  have hne : ∀ d : Char, 0x20 < d.toNat → c ≠ d := by
    rintro d hd rfl
    omega
  refine ⟨hne '/' (by decide), ?_⟩
  rw [SchemeKind.endsPath, beq_false_of_ne (hne '?' (by decide)),
    beq_false_of_ne (hne '#' (by decide))]
  rfl

namespace Parts

variable {t scheme rest ending : Text}

theorem endsPath_of_mem (h : Parts t scheme rest ending) :
    ∀ c ∈ withoutIgnored ending, SchemeKind.endsPath c = false := fun c hc ↦
  (not_mark_of_isIgnoredAround (h.ignored c (List.mem_of_mem_filter hc))).2

theorem slash_notMem (h : Parts t scheme rest ending) : '/' ∉ withoutIgnored ending := fun hmem ↦
  (not_mark_of_isIgnoredAround (h.ignored '/' (List.mem_of_mem_filter hmem))).1 rfl

theorem ending_suffix (h : Parts t scheme rest ending) : ending <:+ t :=
  ⟨scheme ++ ':' :: rest, by rw [h.text_eq, List.append_assoc, List.cons_append]⟩

/-- No slash is ignored, so the slashes belong to what the reader divides. -/
theorem slashes_prefix_iff (h : Parts t scheme rest ending) :
    ['/', '/'] <+: rest ++ ending ↔ ['/', '/'] <+: rest := by
  have hslash : '/' ∉ ending := fun hmem ↦
    (not_mark_of_isIgnoredAround (h.ignored '/' hmem)).1 rfl
  refine ⟨fun hbegins ↦ ?_, fun hbegins ↦ hbegins.trans (List.prefix_append _ _)⟩
  rcases List.prefix_or_prefix_of_prefix hbegins (List.prefix_append rest ending) with
    hrest | ⟨more, hmore⟩
  · exact hrest
  · cases more with
    | nil => exact ⟨[], by rw [← hmore, List.append_nil, List.append_nil]⟩
    | cons c more =>
      have hc : c ∈ ['/', '/'] := hmore ▸ List.mem_append_right _ List.mem_cons_self
      obtain rfl : c = '/' := by simpa using hc
      rw [← hmore, List.prefix_append_right_inj] at hbegins
      exact absurd (hbegins.subset List.mem_cons_self) hslash

theorem exists_slashes_iff (h : Parts t scheme rest ending) :
    (∃ scheme' more, t = scheme' ++ ':' :: '/' :: '/' :: more ∧ ':' ∉ scheme') ↔
      ['/', '/'] <+: rest := by
  rw [← h.slashes_prefix_iff]
  constructor
  · rintro ⟨scheme', more, ht, hcolon⟩
    have hsplit := Text.splitAtFirst_beq_eq_some_iff.mpr ⟨h.text_eq, h.colon_notMem⟩
    rw [Text.splitAtFirst_beq_eq_some_iff.mpr ⟨ht, hcolon⟩] at hsplit
    rw [← (Prod.mk.inj (Option.some_inj.mp hsplit)).2]
    exact List.prefix_append ['/', '/'] more
  · rintro ⟨more, hmore⟩
    exact ⟨scheme, more, by rw [h.text_eq, ← hmore]; rfl, h.colon_notMem⟩

theorem length_path_le {u : Uri} {behind : Text} (h : Parts u.text scheme rest ending)
    (hfollows : u.PathFollows behind) :
    (withoutIgnored u.path).length
      ≤ (Path.split (behind ++ withoutIgnored ending)).1.length := by
  obtain ⟨ending', hsuffix, hignored, hpath⟩ := hfollows
  rw [hpath]
  exact length_split_le h.endsPath_of_mem
    ((h.suffix ending' hsuffix hignored).sublist.filter _).length_le

section Slashes

variable {u : Uri} {more authority behind : Text}

theorem withoutIgnored_path_of_slashes (h : Parts u.text scheme ('/' :: '/' :: more) ending)
    (hmore : withoutIgnored more = authority ++ behind) :
    withoutIgnored u.path
      = (Path.split (fromSlash (authority ++ (behind ++ withoutIgnored ending)))).1 := by
  rw [path, h.text_eq, List.cons_append, List.cons_append, writtenPath_of_slashes h.colon_notMem,
    withoutIgnored_split, withoutIgnored_fromSlash, withoutIgnored_append, hmore, List.append_assoc]

/-- A slash in what the reader takes for the authority makes the path longer than what follows. -/
theorem slash_notMem_of_pathFollows (h : Parts u.text scheme ('/' :: '/' :: more) ending)
    (hmore : withoutIgnored more = authority ++ behind)
    (hauthority : ∀ c ∈ authority, SchemeKind.endsPath c = false)
    (hfollows : u.PathFollows behind) : '/' ∉ authority := by
  intro hmem
  obtain ⟨between, hbetween, hfrom⟩ :=
    exists_fromSlash_append hauthority hmem (behind ++ withoutIgnored ending)
  have hlong : ∀ c ∈ '/' :: between, SchemeKind.endsPath c = false :=
    List.forall_mem_cons.mpr ⟨rfl, hbetween⟩
  have hle := h.length_path_le hfollows
  rw [h.withoutIgnored_path_of_slashes hmore, hfrom, ← List.cons_append, split_append hlong,
    List.length_append, List.length_cons] at hle
  omega

/-- A path that was cut out behind the slashes begins with a slash, and so must what follows. -/
theorem behind_head_of_pathFollows (h : Parts u.text scheme ('/' :: '/' :: more) ending)
    (hmore : withoutIgnored more = authority ++ behind) (hfollows : u.PathFollows behind) :
    ∀ c ∈ behind.head?, c = '/' ∨ SchemeKind.endsPath c = true := by
  intro c hc
  by_contra hmark
  rw [not_or, Bool.not_eq_true] at hmark
  obtain ⟨between, rfl⟩ := List.head?_eq_some_iff.mp hc
  obtain ⟨ending', -, -, hpath⟩ := hfollows
  have hfirst := @split_append [c] (List.forall_mem_singleton.mpr hmark.2)
    (between ++ withoutIgnored ending')
  have heq := (h.withoutIgnored_path_of_slashes hmore).symm.trans (hpath.trans hfirst)
  exact hmark.1 (head_split_fromSlash _ c (by rw [heq]; rfl))

theorem pathFollows_of_behind_head (h : Parts u.text scheme ('/' :: '/' :: more) ending)
    (hmore : withoutIgnored more = authority ++ behind)
    (hauthority : ∀ c ∈ authority, SchemeKind.endsPath c = false) (hslash : '/' ∉ authority)
    (hhead : ∀ c ∈ behind.head?, c = '/' ∨ SchemeKind.endsPath c = true) :
    u.PathFollows behind := by
  have hpath := h.withoutIgnored_path_of_slashes hmore
  rw [fromSlash_append hauthority hslash] at hpath
  cases behind with
  | nil =>
    -- What is ignored at the end belongs to the authority.
    have hnone := fromSlash_append h.endsPath_of_mem h.slash_notMem []
    rw [List.append_nil] at hnone
    rw [List.nil_append, hnone] at hpath
    exact ⟨[], List.nil_suffix, List.forall_mem_nil _, hpath⟩
  | cons c more' =>
    have hstop : fromSlash (c :: (more' ++ withoutIgnored ending))
        = c :: (more' ++ withoutIgnored ending) := by
      refine List.dropWhile_cons_of_neg ?_
      rcases hhead c rfl with rfl | hc
      · simp
      · simp [hc]
    rw [List.cons_append, hstop] at hpath
    exact ⟨ending, h.ending_suffix, h.ignored, hpath⟩

theorem pathFollows_iff_of_slashes (h : Parts u.text scheme ('/' :: '/' :: more) ending)
    (hmore : withoutIgnored more = authority ++ behind)
    (hauthority : ∀ c ∈ authority, SchemeKind.endsPath c = false) :
    u.PathFollows behind ↔ MarksAuthority u.text ('/' :: '/' :: authority) behind := by
  constructor
  · intro hfollows
    exact ⟨h.exists_slashes_iff.mpr (List.prefix_append ['/', '/'] more),
      ⟨authority, rfl, h.slash_notMem_of_pathFollows hmore hauthority hfollows⟩,
      h.behind_head_of_pathFollows hmore hfollows⟩
  · rintro ⟨-, ⟨authority', hfront, hslash⟩, hhead⟩
    obtain rfl : authority = authority' := by simpa using hfront
    exact h.pathFollows_of_behind_head hmore hauthority hslash hhead

end Slashes

theorem pathFollows_iff_of_not_slashes {u : Uri} {front behind : Text}
    (h : Parts u.text scheme rest ending) (hslashes : ¬['/', '/'] <+: rest)
    (hrest : withoutIgnored rest = front ++ behind)
    (hfront : ∀ c ∈ front, SchemeKind.endsPath c = false) :
    u.PathFollows behind ↔ front = [] := by
  rw [← h.slashes_prefix_iff] at hslashes
  have hpath : withoutIgnored u.path
      = front ++ (Path.split (behind ++ withoutIgnored ending)).1 := by
    rw [path, h.text_eq, writtenPath_of_not_slashes h.colon_notMem hslashes, withoutIgnored_split,
      withoutIgnored_append, hrest, List.append_assoc, split_append hfront]
  constructor
  · intro hfollows
    have hle := h.length_path_le hfollows
    rw [hpath, List.length_append] at hle
    exact List.length_eq_zero_iff.mp (by omega)
  · rintro rfl
    exact ⟨ending, h.ending_suffix, h.ignored, hpath⟩

end Parts

variable {t : Text} {u : Uri}

theorem ofText_text (h : ofText t = .ok u) : Url.ofText u.text = .ok u.url := by
  rw [ofText] at h
  split at h
  · cases h
  · next url hurl =>
    split at h
    · cases h
      exact hurl
    · cases h

/-- **Written paths.** If an identifier has an authority, its path in normal form is empty or begins
with a slash. Its path as written is what follows the authority in two cases and no others: if the
reader takes nothing for an authority, as in a file without two slashes, whose host is the empty
one, or if the text shows where the authority is. In the second case the written path, too, is
empty or begins with a slash. -/
theorem path_follows_authority (h : ofText t = .ok u) (ha : u.authority.isSome = true) :
    (∀ c ∈ u.url.pathText.head?, c = '/') ∧
      ∃ front behind, Url.Divided u.text front behind ∧
        (u.PathFollows behind ↔ front = [] ∨ MarksAuthority u.text front behind) ∧
        (MarksAuthority u.text front behind → ∀ c ∈ u.path.head?, c = '/') := by
  rw [authority, Url.authorityText, Option.isSome_map] at ha
  obtain ⟨⟨segments, hsegments⟩, scheme, rest, behind, hscheme, hbehind⟩ :=
    Url.exists_behind (ofText_text h) ha
  obtain ⟨front, hrest, hfront, hslashes⟩ := Url.exists_front hbehind
  obtain ⟨written, ending, hparts⟩ := exists_parts hscheme
  refine ⟨?_, front, behind, ⟨scheme, rest, hscheme, hbehind, hrest⟩, ?_, ?_⟩
  · rw [Url.pathText, hsegments, Path.render]
    cases segments with
    | nil => simp
    | cons segment more =>
      intro c hc
      exact (Option.some_inj.mp hc).symm
  · by_cases hbegins : ['/', '/'] <+: rest
    · obtain ⟨authority, rfl⟩ := hslashes hbegins
      obtain ⟨more, rfl⟩ := hbegins
      have hmore : withoutIgnored more = authority ++ behind :=
        (List.append_right_inj ['/', '/']).mp hrest
      rw [hparts.pathFollows_iff_of_slashes hmore fun c hc ↦ hfront c (List.mem_append_right _ hc)]
      simp
    · rw [hparts.pathFollows_iff_of_not_slashes hbegins hrest hfront]
      refine ⟨Or.inl, fun hcases ↦ hcases.resolve_right fun hmarks ↦ hbegins ?_⟩
      exact hparts.exists_slashes_iff.mp hmarks.slashes
  · intro hmarks
    obtain ⟨scheme', more, ht, hcolon⟩ := hmarks.slashes
    rw [path, ht, writtenPath_of_slashes hcolon]
    exact head_split_fromSlash more

/-- The hypotheses hold of an identifier whose authority is marked. -/
theorem path_follows_authority_marked :
    let u : Uri := ⟨"fd://h:80/DC0?q".toList, ⟨"fd".toList, some ⟨[], .name ['h'], some 80⟩,
      .segments ["DC0".toList], some ['q'], none⟩⟩
    ofText u.text = .ok u ∧ u.authority.isSome = true ∧ u.path = "/DC0".toList ∧
      Url.Divided u.text "//h:80".toList "/DC0?q".toList ∧ u.PathFollows "/DC0?q".toList := by
  intro u
  have hread : ofText u.text = .ok u := by decide +kernel
  have hsplit : splitScheme? (u.text.trim Url.isIgnoredAround)
      = some ("fd".toList, "//h:80/DC0?q".toList) := by decide +kernel
  have hbehind : Url.behind? (.ofScheme "fd".toList) "//h:80/DC0?q".toList
      = some "/DC0?q".toList := by decide +kernel
  obtain ⟨-, front, behind, ⟨scheme, rest, hscheme, hrest, hparts⟩, hfollows, -⟩ :=
    path_follows_authority hread (by decide +kernel)
  rw [hsplit] at hscheme
  obtain ⟨rfl, rfl⟩ := Prod.mk.inj (Option.some_inj.mp hscheme)
  rw [hbehind] at hrest
  obtain rfl := Option.some_inj.mp hrest
  obtain rfl : "//h:80".toList = front := List.append_cancel_right hparts
  refine ⟨hread, by decide +kernel, by decide +kernel, ⟨_, _, hsplit, hbehind, rfl⟩,
    hfollows.mpr (Or.inr ⟨⟨"fd".toList, "h:80/DC0?q".toList, rfl, by decide⟩,
      ⟨"h:80".toList, rfl, by decide⟩, ?_⟩)⟩
  rintro c hc
  exact Or.inl (Option.some_inj.mp hc).symm

/-- With one slash the reader finds an authority all the same, and the host is part of the path as
it was written. -/
theorem path_holds_host :
    ∃ u : Uri, ofText "http:/h/p".toList = .ok u ∧ u.authority = some ['h'] ∧
      u.url.pathText = "/p".toList ∧ u.path = "/h/p".toList ∧
      Url.Divided u.text "/h".toList "/p".toList ∧ ¬u.PathFollows "/p".toList := by
  refine ⟨⟨"http:/h/p".toList,
    ⟨"http".toList, some (.ofHost (.name ['h'])), .segments [['p']], none, none⟩⟩,
    by decide +kernel, by decide +kernel, by decide +kernel, by decide +kernel, ?_, ?_⟩
  · exact ⟨"http".toList, "/h/p".toList, by decide +kernel, by decide +kernel, by decide +kernel⟩
  · rintro ⟨ending, -, -, hpath⟩
    have hwritten : withoutIgnored (writtenPath "http:/h/p".toList) = "/h/p".toList := by
      decide +kernel
    have hfirst := @split_append "/p".toList (by simp [SchemeKind.endsPath]) (withoutIgnored ending)
    have heq := hwritten.symm.trans (hpath.trans hfirst)
    simp at heq

end Uri

end Placement
