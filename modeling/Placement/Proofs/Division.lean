import Placement.Proofs.Equality
import Placement.Proofs.Machine

/-!
# Where an address is divided

What follows the scheme of an address with an authority is taken in two parts: slashes and the
authority first, then the path, the query and the fragment. Each kind of scheme has its own rules
for where the second part begins. In a special scheme any number of slashes of either form leads to
an authority, in a file there must be two, unless a drive letter follows them, and in any other
scheme two slashes must stand there as such. `Url.Divided` says where the reader divides a text, as
far as it can see it, that is, without the tabs and line breaks that it ignores.

Each step of the reader hands back an end of the text that it was given, so the two parts make up
the whole (`Url.exists_front`).
-/

namespace Placement

/-! ## What is ignored -/

theorem withoutIgnored_append (t u : Text) :
    withoutIgnored (t ++ u) = withoutIgnored t ++ withoutIgnored u :=
  List.filter_append ..

section Cutting

variable {q : Char → Bool}

private theorem ignored_or (h : ∀ c, isIgnored c = true → q c = true) :
    (fun c ↦ !(!isIgnored c) || q c) = q := by
  funext c
  cases hc : isIgnored c with
  | false => rfl
  | true => rw [h c hc]; rfl

/-- Where a text is cut does not depend on characters that are ignored. -/
theorem withoutIgnored_takeWhile (h : ∀ c, isIgnored c = true → q c = true) (t : Text) :
    withoutIgnored (t.takeWhile q) = (withoutIgnored t).takeWhile q := by
  rw [withoutIgnored, withoutIgnored, List.takeWhile_filter, ignored_or h]

theorem withoutIgnored_dropWhile (h : ∀ c, isIgnored c = true → q c = true) (t : Text) :
    withoutIgnored (t.dropWhile q) = (withoutIgnored t).dropWhile q := by
  rw [withoutIgnored, withoutIgnored, List.dropWhile_filter, ignored_or h]

end Cutting

/-! ## Authorities -/

namespace Authority

theorem readPort_suffix {k : SchemeKind} {t rest : Text} {port : Option Nat}
    (h : readPort k t = .ok (port, rest)) : rest <:+ t := by
  unfold readPort at h
  dsimp only at h
  split at h
  · cases h
  · split at h
    · obtain ⟨-, rfl⟩ := Prod.mk.inj (Except.ok.inj h)
      exact List.dropWhile_suffix _
    · cases h

theorem splitHost_append (inBrackets : Bool) (t : Text) :
    (splitHost inBrackets t).1 ++ (splitHost inBrackets t).2 = t := by
  fun_induction splitHost inBrackets t with
  | case1 => rfl
  | case2 => rfl
  | case3 inBrackets c rest hc inBrackets' host after hsplit ih =>
    rw [hsplit] at ih
    exact congrArg (c :: ·) ih

theorem readHostPort_suffix {k : SchemeKind} {t rest : Text} {host : Host} {port : Option Nat}
    (h : readHostPort k t = .ok (host, port, rest)) : rest <:+ t := by
  have hafter : (splitHost false t).2 <:+ t := ⟨_, splitHost_append false t⟩
  unfold readHostPort at h
  dsimp only at h
  split at h
  · cases h
  -- The host is read in one of two ways, and what follows it in the same way after both.
  split at h
  all_goals
    obtain ⟨host', -, h⟩ := bind_eq_ok_iff.mp h
    split at h
    · next digits hdigits =>
      split at h
      · cases h
      · obtain ⟨⟨port', behind⟩, hport, h⟩ := bind_eq_ok_iff.mp h
        cases h
        rw [hdigits] at hafter
        exact (readPort_suffix hport).trans ((List.suffix_cons _ _).trans hafter)
    · cases h
      exact hafter

theorem splitCredentials_suffix {t user hostPort : Text}
    (h : splitCredentials t = some (user, hostPort)) : hostPort <:+ t := by
  obtain ⟨⟨after, before⟩, hsplit, heq⟩ := Option.map_eq_some_iff.mp h
  obtain ⟨rfl, rfl⟩ := Prod.mk.inj heq
  obtain ⟨c, ht, -, -⟩ := Text.splitAtFirst_eq_some_iff.mp hsplit
  rw [← List.reverse_prefix, List.reverse_reverse, ht]
  exact List.prefix_append _ _

/-- What is read as an authority is a beginning of the text in which nothing ends an authority. -/
theorem exists_written {k : SchemeKind} {t rest : Text} {a : Authority}
    (h : read k t = .ok (a, rest)) :
    ∃ written, t = written ++ rest ∧ ∀ c ∈ written, k.endsAuthority c = false := by
  unfold read at h
  dsimp only at h
  split at h
  · cases h
  obtain ⟨⟨host, port, behind⟩, hread, h⟩ := bind_eq_ok_iff.mp h
  dsimp only at h
  split at h
  · cases h
  obtain ⟨rfl, rfl⟩ := Prod.mk.inj (Except.ok.inj h)
  have hbehind : behind <:+ t.takeWhile (!k.endsAuthority ·) := by
    refine (readHostPort_suffix hread).trans ?_
    cases hsplit : splitCredentials (t.takeWhile (!k.endsAuthority ·)) with
    | none => exact List.suffix_refl _
    | some parts => exact splitCredentials_suffix hsplit
  obtain ⟨written, hwritten⟩ := hbehind
  refine ⟨written, ?_, ?_⟩
  · rw [← List.append_assoc, hwritten, List.takeWhile_append_dropWhile]
  · intro c hc
    have hmem : c ∈ t.takeWhile (!k.endsAuthority ·) := hwritten ▸ List.mem_append_left _ hc
    simpa using List.mem_takeWhile_imp hmem

end Authority

/-! ## Where the reader divides a text -/

theorem toOption_eq_some_iff {ε α : Type} {x : Except ε α} {a : α} :
    x.toOption = some a ↔ x = .ok a := by
  cases x <;> simp [Except.toOption]

namespace Url

/-- Of what follows a scheme and its colon, the part that the reader leaves to the path, the query
and the fragment, when it has taken what there is of an authority. If there can be none, there is no
such part. -/
def behind? (k : SchemeKind) (t : Text) : Option Text :=
  match k with
  | .file =>
    match (afterSlash? .file t).bind (afterSlash? .file) with
    | some rest => (readFileHost rest).toOption.map fun (_, after) ↦ withoutIgnored after
    | none => some (withoutIgnored t)
  | .special port =>
    (Authority.read (.special port)
      ((withoutIgnored t).dropWhile (SchemeKind.special port).isSlash)).toOption.map Prod.snd
  | .other =>
    match withoutIgnored t with
    | '/' :: '/' :: rest => (Authority.read .other rest).toOption.map Prod.snd
    | _ => none

/-- The reader takes `front` for the authority of an address, with the slashes before it, and finds
the path, the query and the fragment in `behind`. -/
def Divided (t front behind : Text) : Prop :=
  ∃ scheme rest, splitScheme? (t.trim isIgnoredAround) = some (scheme, rest) ∧
    behind? (.ofScheme scheme) rest = some behind ∧ withoutIgnored rest = front ++ behind

theorem endsPath_of_endsAuthority {k : SchemeKind} {c : Char} (h : k.endsAuthority c = false) :
    SchemeKind.endsPath c = false :=
  (Bool.or_eq_false_iff.mp h).2

theorem endsPath_of_isSlash {k : SchemeKind} {c : Char} (h : k.isSlash c = true) :
    SchemeKind.endsPath c = false := by
  rw [SchemeKind.isSlash, Bool.or_eq_true, Bool.and_eq_true, beq_iff_eq, beq_iff_eq] at h
  rcases h with rfl | ⟨-, rfl⟩ <;> rfl

private theorem endsPath_of_written {k : SchemeKind} {slashes written : Text}
    (hslashes : ∀ c ∈ slashes, k.isSlash c = true)
    (hwritten : ∀ c ∈ written, k.endsAuthority c = false) :
    ∀ c ∈ slashes ++ written, SchemeKind.endsPath c = false := by
  intro c hc
  rcases List.mem_append.mp hc with hc | hc
  · exact endsPath_of_isSlash (hslashes c hc)
  · exact endsPath_of_endsAuthority (hwritten c hc)

theorem withoutIgnored_dropWhile_isIgnored (t : Text) :
    withoutIgnored (t.dropWhile isIgnored) = withoutIgnored t := by
  have hdropped : withoutIgnored (t.takeWhile isIgnored) = [] := by
    rw [withoutIgnored, List.filter_eq_nil_iff]
    intro c hc
    simp [List.mem_takeWhile_imp hc]
  conv_rhs => rw [← List.takeWhile_append_dropWhile (p := isIgnored) (l := t)]
  rw [withoutIgnored_append, hdropped, List.nil_append]

theorem withoutIgnored_of_afterSlash? {k : SchemeKind} {t rest : Text}
    (h : afterSlash? k t = some rest) :
    ∃ c, k.isSlash c = true ∧ withoutIgnored t = c :: withoutIgnored rest := by
  unfold afterSlash? at h
  split at h
  · next c u hdrop =>
    split at h
    · next hc =>
      obtain rfl := Option.some_inj.mp h
      have hkept : isIgnored c = false := by
        have hhead := List.head?_dropWhile_not isIgnored t
        rw [hdrop] at hhead
        exact hhead
      refine ⟨c, hc, ?_⟩
      rw [← withoutIgnored_dropWhile_isIgnored, hdrop, withoutIgnored,
        List.filter_cons_of_pos (by rw [hkept]; rfl)]
      rfl
    · cases h
  · cases h

theorem exists_written_of_readFileHost {t after : Text} {host : Host}
    (h : readFileHost t = .ok (host, after)) :
    ∃ written, t = written ++ after ∧
      ∀ c ∈ written, SchemeKind.file.endsAuthority c = false := by
  have hcut : ∃ written, t = written ++ t.dropWhile (!SchemeKind.file.endsAuthority ·) ∧
      ∀ c ∈ written, SchemeKind.file.endsAuthority c = false :=
    ⟨_, List.takeWhile_append_dropWhile.symm, fun c hc ↦ by simpa using List.mem_takeWhile_imp hc⟩
  unfold readFileHost at h
  dsimp only at h
  split at h
  · obtain ⟨-, rfl⟩ := Prod.mk.inj (Except.ok.inj h)
    exact ⟨[], rfl, List.forall_mem_nil _⟩
  · split at h
    · obtain ⟨-, rfl⟩ := Prod.mk.inj (Except.ok.inj h)
      exact hcut
    · cases hhost : Host.ofDomain (withoutIgnored (t.takeWhile (!SchemeKind.file.endsAuthority ·)))
        with
      | error e =>
        rw [hhost] at h
        cases h
      | ok host' =>
        rw [hhost] at h
        obtain ⟨-, rfl⟩ := Prod.mk.inj (Except.ok.inj h)
        exact hcut

/-- What is left is what the reader has not taken. It has taken no mark of a query or fragment, and
if the text begins with two slashes, it has taken these. -/
theorem exists_front {k : SchemeKind} {t behind : Text} (h : behind? k t = some behind) :
    ∃ front, withoutIgnored t = front ++ behind ∧
      (∀ c ∈ front, SchemeKind.endsPath c = false) ∧
      (['/', '/'] <+: t → ['/', '/'] <+: front) := by
  cases k with
  | file =>
    rw [behind?] at h
    split at h
    · next rest hrest =>
      obtain ⟨⟨host, after⟩, hread, rfl⟩ := Option.map_eq_some_iff.mp h
      obtain ⟨written, rfl, hwritten⟩ :=
        exists_written_of_readFileHost (toOption_eq_some_iff.mp hread)
      obtain ⟨u, hu, hu'⟩ := Option.bind_eq_some_iff.mp hrest
      obtain ⟨c, hc, hfirst⟩ := withoutIgnored_of_afterSlash? hu
      obtain ⟨d, hd, hsecond⟩ := withoutIgnored_of_afterSlash? hu'
      rw [hsecond, withoutIgnored_append] at hfirst
      refine ⟨[c, d] ++ withoutIgnored written, hfirst, ?_, ?_⟩
      · refine endsPath_of_written (k := .file) (by simp [hc, hd]) fun e he ↦ ?_
        exact hwritten e (List.mem_of_mem_filter he)
      · rintro ⟨more, rfl⟩
        obtain ⟨hc', hmore⟩ := List.cons.inj hfirst
        obtain ⟨hd', -⟩ := List.cons.inj hmore
        exact ⟨withoutIgnored written, by rw [← hc', ← hd']⟩
    · next hnone =>
      obtain rfl := Option.some_inj.mp h
      refine ⟨[], rfl, List.forall_mem_nil _, ?_⟩
      rintro ⟨more, rfl⟩
      cases hnone
  | special port =>
    obtain ⟨⟨a, rest⟩, hread, rfl⟩ := Option.map_eq_some_iff.mp h
    obtain ⟨written, hrest, hwritten⟩ := Authority.exists_written (toOption_eq_some_iff.mp hread)
    refine ⟨(withoutIgnored t).takeWhile (SchemeKind.special port).isSlash ++ written, ?_, ?_, ?_⟩
    · rw [List.append_assoc, ← hrest, List.takeWhile_append_dropWhile]
    · exact endsPath_of_written (fun _ ↦ List.mem_takeWhile_imp) hwritten
    · rintro ⟨more, rfl⟩
      exact List.prefix_append ['/', '/'] _
  | other =>
    rw [behind?] at h
    split at h
    · next rest hrest =>
      obtain ⟨⟨a, behind⟩, hread, rfl⟩ := Option.map_eq_some_iff.mp h
      obtain ⟨written, rfl, hwritten⟩ := Authority.exists_written (toOption_eq_some_iff.mp hread)
      exact ⟨['/', '/'] ++ written, hrest,
        endsPath_of_written (by simp [SchemeKind.isSlash]) hwritten, fun _ ↦ List.prefix_append _ _⟩
    · cases h

/-! ### Every address with an authority is divided -/

theorem path_afterAuthority (k : SchemeKind) (scheme : Text) (a : Authority) (t : Text) :
    ∃ segments, (afterAuthority k scheme a t).path = .segments segments := by
  unfold afterAuthority
  split
  · exact ⟨_, rfl⟩
  · exact ⟨_, rfl⟩

section DropsHost

/-! Only in a file's path a drive letter drops the host. -/

variable {k : SchemeKind} (p : Path.Partial)

theorem dropsHost_up : p.up.dropsHost = p.dropsHost := by
  unfold Path.Partial.up
  split
  · rfl
  · split <;> rfl

theorem dropsHost_take (hk : k ≠ .file) (segment : Text) (isLast : Bool) :
    (p.take k segment isLast).dropsHost = p.dropsHost := by
  unfold Path.Partial.take
  split
  · split <;> exact dropsHost_up p
  · split
    · split <;> rfl
    · rw [Path.Partial.push, if_neg fun h ↦ hk h.1]

theorem dropsHost_resolve (hk : k ≠ .file) (written : List Text) :
    (p.resolve k written).dropsHost = p.dropsHost := by
  induction written generalizing p with
  | nil => rfl
  | cons segment rest ih =>
    rw [Path.Partial.resolve, Path.Partial.cut?, if_neg fun h ↦ hk h.1]
    exact (ih _).trans (dropsHost_take p hk _ _)

theorem authority_ofSegments_other (scheme t : Text) :
    (ofSegments .other scheme none t).authority = none := by
  have hdrops : (Path.ofWritten .other (Path.split t).1).2 = false :=
    dropsHost_resolve _ (by decide) _
  exact if_neg (Bool.eq_false_iff.mp hdrops)

end DropsHost

theorem exists_behind {t : Text} {url : Url} (h : ofText t = .ok url)
    (ha : url.authority.isSome = true) :
    (∃ segments, url.path = .segments segments) ∧
      ∃ scheme rest behind, splitScheme? (t.trim isIgnoredAround) = some (scheme, rest) ∧
        behind? (.ofScheme scheme) rest = some behind := by
  unfold ofText at h
  split at h
  · cases h
  · next scheme rest hscheme =>
    split at h
    · next hk =>
      unfold readFile at h
      split at h
      · next rest' hslashes =>
        obtain ⟨⟨host, after⟩, hread, hurl⟩ := bind_eq_ok_iff.mp h
        obtain rfl := Except.ok.inj hurl
        refine ⟨⟨_, rfl⟩, scheme, rest, withoutIgnored after, hscheme, ?_⟩
        simp only [hk, behind?, hslashes, toOption_eq_some_iff.mpr hread, Option.map_some]
      · next hslashes =>
        obtain rfl := Except.ok.inj h
        refine ⟨⟨_, rfl⟩, scheme, rest, withoutIgnored rest, hscheme, ?_⟩
        simp only [hk, behind?, hslashes]
    · next port hk =>
      obtain ⟨⟨a, behind⟩, hread, hurl⟩ := bind_eq_ok_iff.mp h
      obtain rfl := Except.ok.inj hurl
      refine ⟨path_afterAuthority .., scheme, rest, behind, hscheme, ?_⟩
      rw [hk]
      exact congrArg (Option.map Prod.snd) (toOption_eq_some_iff.mpr hread)
    · next hk =>
      unfold readOther at h
      split at h
      · next rest' hslashes =>
        obtain ⟨⟨a, behind⟩, hread, hurl⟩ := bind_eq_ok_iff.mp h
        obtain rfl := Except.ok.inj hurl
        refine ⟨path_afterAuthority .., scheme, rest, behind, hscheme, ?_⟩
        simp only [hk, behind?, hslashes, toOption_eq_some_iff.mpr hread, Option.map_some]
      · obtain rfl := Except.ok.inj h
        rw [authority_ofSegments_other] at ha
        cases ha
      · obtain rfl := Except.ok.inj h
        cases ha

end Url

end Placement
