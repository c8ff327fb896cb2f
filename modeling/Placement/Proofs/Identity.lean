import Mathlib.Data.Finset.Card
import Mathlib.Data.List.DropRight
import Placement.Proofs.Transparency

/-!
# Which object is handed out

Two compiled constraints can be equal and still be two objects. Which object a call of the cache
hands out follows from one equation: what is kept for a text after a call is nothing, if the call
forgets the text, and otherwise what was kept before or, if that was nothing, what the call builds,
with the next identity (`Cache.get?_perform`).

From it two things are derived by induction over calls. What is kept for a text is what was built
since the text was last forgotten (`Cache.isSome_get?_after`), so it does not change until then. And
identities only grow, so what is built is none of the objects that were there before: those all have
smaller ones (`Cache.Supplied`).
-/

namespace Placement

namespace Cache

variable {c : Cache} {call : Operation} {text : Text} {shared : Shared}

/-! ## What calls do to a text -/

def Operation.text? : Operation → Option Text
  | getOrBuild text | get text | contains text | invalidate text | satisfied text _ _ => some text
  | size | clear => none

/-- Whether nothing is kept for a text after the call. -/
def Operation.forgets (text : Text) : Operation → Bool
  | invalidate t => t == text
  | clear => true
  | getOrBuild _ | get _ | contains _ | size | satisfied _ _ _ => false

/-- Whether the call builds what is not kept for a text. -/
def Operation.builds (text : Text) : Operation → Bool
  | getOrBuild t | satisfied t _ _ => t == text
  | get _ | contains _ | size | invalidate _ | clear => false

/-- The object that a call hands out. -/
def object? (c : Cache) : Operation → Option Shared
  | .getOrBuild text => (c.getOrBuild text).1.toOption
  | .get text => c.get? text
  | .contains _ | .size | .invalidate _ | .clear | .satisfied _ _ _ => none

/-- What would be built for a text now. -/
def built? (c : Cache) (text : Text) : Option Shared :=
  (compile text).toOption.map (Shared.mk c.nextId)

theorem get?_getOrBuild (c : Cache) (text t : Text) : (c.getOrBuild t).2.get? text
    = (c.get? text).or (if t == text then c.built? text else none) := by
  rcases eq_or_ne t text with rfl | hne
  · rw [if_pos (beq_self_eq_true t), built?]
    cases hkept : c.get? t with
    | some shared => rw [getOrBuild_of_kept hkept, hkept, Option.some_or]
    | none =>
      cases hcompile : compile t with
      | error e =>
        rw [getOrBuild_of_error hkept hcompile, hkept]
        rfl
      | ok e =>
        rw [getOrBuild_of_ok hkept hcompile, get?, List.lookup_cons_self]
        rfl
  · rw [if_neg (by simpa using hne), Option.or_none]
    cases hkept : c.get? t with
    | some shared => rw [getOrBuild_of_kept hkept]
    | none =>
      cases hcompile : compile t with
      | error e => rw [getOrBuild_of_error hkept hcompile]
      | ok e =>
        rw [getOrBuild_of_ok hkept hcompile, get?, List.lookup_cons, beq_false_of_ne hne.symm]
        rfl

theorem get?_invalidate (c : Cache) (text t : Text) :
    (c.invalidate t).2.get? text = if t == text then none else c.get? text := by
  rw [get?, get?, invalidate]
  induction c.entries with
  | nil => simp
  | cons entry es ih =>
    obtain ⟨key, kept⟩ := entry
    dsimp only at ih ⊢
    rw [List.filter_cons]
    by_cases hkey : key = t
    · subst hkey
      rw [if_neg (by simp), ih]
      rcases eq_or_ne key text with rfl | hne
      · rw [if_pos (beq_self_eq_true key), if_pos (beq_self_eq_true key)]
      · rw [List.lookup_cons, beq_false_of_ne hne.symm]
    · rw [if_pos (by simpa using hkey), List.lookup_cons, ih, List.lookup_cons]
      rcases eq_or_ne text key with rfl | hne
      · rw [beq_self_eq_true, beq_false_of_ne (Ne.symm hkey)]
        rfl
      · rw [beq_false_of_ne hne]

/-- **One call.** What is kept for a text after a call. -/
theorem get?_perform (c : Cache) (call : Operation) (text : Text) : (c.perform call).get? text
    = if call.forgets text then none
      else (c.get? text).or (if call.builds text then c.built? text else none) := by
  cases call with
  | getOrBuild t => exact get?_getOrBuild c text t
  | satisfied t role env =>
    rw [perform, cache_satisfied]
    exact get?_getOrBuild c text t
  | invalidate t =>
    rw [perform, get?_invalidate]
    exact congrArg (ite (t == text) none) Option.or_none.symm
  | clear => rfl
  | get | contains | size => exact Option.or_none.symm

theorem get?_perform_of_forgets (h : call.forgets text = true) :
    (c.perform call).get? text = none := by
  rw [get?_perform, if_pos h]

theorem get?_perform_of_kept (hkept : c.get? text = some shared)
    (h : call.forgets text = false) : (c.perform call).get? text = some shared := by
  rw [get?_perform, h, if_neg Bool.false_ne_true, hkept, Option.some_or]

theorem get?_perform_of_other (hclear : call ≠ .clear) (h : call.text? ≠ some text) :
    (c.perform call).get? text = c.get? text := by
  have hforgets : call.forgets text = false := by
    cases call <;> simp_all [Operation.text?, Operation.forgets]
  have hbuilds : call.builds text = false := by
    cases call <;> simp_all [Operation.text?, Operation.builds]
  rw [get?_perform, hforgets, hbuilds, if_neg Bool.false_ne_true, if_neg Bool.false_ne_true,
    Option.or_none]

/-- An object that is handed out is kept after the call, and is the one that was kept before if
there was one. -/
theorem get?_of_object (htext : call.text? = some text) (h : c.object? call = some shared) :
    (c.perform call).get? text = some shared ∧ ∀ kept, c.get? text = some kept → kept = shared := by
  cases call with
  | get t =>
    obtain rfl := Option.some_inj.mp htext
    exact ⟨h, fun kept hkept ↦ Option.some_inj.mp (hkept.symm.trans h)⟩
  | getOrBuild t =>
    obtain rfl := Option.some_inj.mp htext
    rw [object?] at h
    rw [get?_perform, Operation.forgets, if_neg Bool.false_ne_true, Operation.builds,
      if_pos (beq_self_eq_true t)]
    cases hkept : c.get? t with
    | some kept =>
      rw [getOrBuild_of_kept hkept] at h
      exact ⟨h, fun kept' hkept' ↦ Option.some_inj.mp (hkept'.symm.trans h)⟩
    | none =>
      refine ⟨?_, nofun⟩
      cases hcompile : compile t with
      | error e =>
        rw [getOrBuild_of_error hkept hcompile] at h
        cases h
      | ok e =>
        rw [getOrBuild_of_ok hkept hcompile] at h
        rw [built?, hcompile]
        exact h
  | contains | size | invalidate | clear | satisfied => cases h

/-! ## Runs -/

theorem after_append (calls calls' : List Operation) :
    after (calls ++ calls') = calls'.foldl perform (after calls) := List.foldl_append

theorem after_concat (calls : List Operation) (call : Operation) :
    after (calls ++ [call]) = (after calls).perform call := after_append calls [call]

theorem get?_foldl_of_kept {calls : List Operation} (hkept : c.get? text = some shared)
    (h : ∀ call ∈ calls, call.forgets text = false) :
    (calls.foldl perform c).get? text = some shared :=
  List.foldlRecOn (motive := fun c ↦ c.get? text = some shared) calls perform hkept
    fun _ hkept call hcall ↦ get?_perform_of_kept hkept (h call hcall)

/-! ### What is kept -/

/-- What was called since a text was last forgotten. -/
def since (text : Text) (calls : List Operation) : List Operation :=
  calls.rtakeWhile (!·.forgets text)

/-- The text was successfully built since it was last forgotten. -/
def BuiltSince (text : Text) (calls : List Operation) : Prop :=
  (∃ call ∈ since text calls, call.builds text = true) ∧ ∃ e, compile text = .ok e

theorem since_concat (text : Text) (calls : List Operation) (call : Operation) :
    since text (calls ++ [call])
      = if call.forgets text then [] else since text calls ++ [call] := by
  rw [since, List.rtakeWhile_concat]
  cases call.forgets text <;> rfl

theorem isSome_built?_iff : (c.built? text).isSome ↔ ∃ e, compile text = .ok e := by
  rw [built?, Option.isSome_map]
  cases compile text with
  | error e => simp [Except.toOption]
  | ok e => simp [Except.toOption]

/-- Kept are the texts that were built since they were last forgotten. -/
theorem isSome_get?_after (calls : List Operation) (text : Text) :
    ((after calls).get? text).isSome ↔ BuiltSince text calls := by
  induction calls using List.reverseRecOn with
  | nil => simp [after, empty, get?, BuiltSince, since]
  | append_singleton calls call ih =>
    rw [after_concat, get?_perform, BuiltSince, since_concat]
    cases hforgets : call.forgets text with
    | true => simp
    | false =>
      rw [if_neg Bool.false_ne_true, if_neg Bool.false_ne_true, Option.isSome_or, Bool.or_eq_true,
        ih, BuiltSince]
      simp only [List.mem_append, or_and_right, exists_or, List.mem_singleton, exists_eq_left]
      refine or_congr Iff.rfl ?_
      cases call.builds text with
      | true => simp [isSome_built?_iff]
      | false => simp

/-! ### Identities -/

/-- A call keeps one new object, with the next identity, or none. -/
theorem perform_cases (c : Cache) (call : Operation) :
    (∃ text e, c.get? text = none ∧
      c.perform call = ⟨(text, ⟨c.nextId, e⟩) :: c.entries, c.nextId + 1⟩) ∨
    (c.perform call).entries.Sublist c.entries ∧ (c.perform call).nextId = c.nextId := by
  have hbuild : ∀ text, (∃ t e, c.get? t = none ∧
      (c.getOrBuild text).2 = ⟨(t, ⟨c.nextId, e⟩) :: c.entries, c.nextId + 1⟩) ∨
      (c.getOrBuild text).2.entries.Sublist c.entries ∧
        (c.getOrBuild text).2.nextId = c.nextId := by
    intro text
    cases hkept : c.get? text with
    | some shared =>
      rw [getOrBuild_of_kept hkept]
      exact Or.inr ⟨List.Sublist.refl _, rfl⟩
    | none =>
      cases hcompile : compile text with
      | error e =>
        rw [getOrBuild_of_error hkept hcompile]
        exact Or.inr ⟨List.Sublist.refl _, rfl⟩
      | ok e =>
        rw [getOrBuild_of_ok hkept hcompile]
        exact Or.inl ⟨text, e, hkept, rfl⟩
  cases call with
  | getOrBuild text => exact hbuild text
  | satisfied text role env =>
    rw [perform, cache_satisfied]
    exact hbuild text
  | get | contains | size => exact Or.inr ⟨List.Sublist.refl _, rfl⟩
  | invalidate text => exact Or.inr ⟨List.filter_sublist, rfl⟩
  | clear => exact Or.inr ⟨List.nil_sublist _, rfl⟩

/-- Every text has one entry, and every identity that is kept was given before. -/
structure Supplied (c : Cache) : Prop where
  nodup : (c.entries.map Prod.fst).Nodup
  id_lt : ∀ entry ∈ c.entries, entry.2.id < c.nextId

theorem supplied_empty : empty.Supplied := ⟨List.nodup_nil, List.forall_mem_nil _⟩

theorem isSome_get?_iff : (c.get? text).isSome ↔ text ∈ c.entries.map Prod.fst := by
  rw [get?]
  induction c.entries with
  | nil => simp
  | cons entry es ih =>
    rw [List.lookup_cons, List.map_cons, List.mem_cons, ← ih]
    rcases eq_or_ne text entry.1 with h | h
    · simp [h]
    · simp [h, beq_false_of_ne h]

namespace Supplied

theorem id_lt_of_kept (hc : c.Supplied) (h : c.get? text = some shared) :
    shared.id < c.nextId := by
  obtain ⟨before, after, hentries, -⟩ := List.lookup_eq_some_iff.mp h
  exact hc.id_lt (text, shared) (by rw [hentries]; exact List.mem_append_right _ List.mem_cons_self)

theorem perform (hc : c.Supplied) (call : Operation) : (c.perform call).Supplied := by
  rcases c.perform_cases call with ⟨text, e, hnone, hnew⟩ | ⟨hsub, hid⟩
  · rw [hnew]
    refine ⟨List.nodup_cons.mpr ⟨?_, hc.nodup⟩, List.forall_mem_cons.mpr ⟨Nat.lt_succ_self _, ?_⟩⟩
    · rw [← isSome_get?_iff, hnone]
      exact Bool.false_ne_true
    · exact fun entry hentry ↦ Nat.lt_succ_of_lt (hc.id_lt entry hentry)
  · exact ⟨hc.nodup.sublist (hsub.map _),
      fun entry hentry ↦ hid ▸ hc.id_lt entry (hsub.subset hentry)⟩

end Supplied

theorem supplied_after (calls : List Operation) : (after calls).Supplied :=
  List.foldlRecOn calls perform supplied_empty fun _ hc call _ ↦ hc.perform call

theorem nextId_le_perform (c : Cache) (call : Operation) : c.nextId ≤ (c.perform call).nextId := by
  rcases c.perform_cases call with ⟨text, e, -, hnew⟩ | ⟨-, hid⟩
  · rw [hnew]
    exact Nat.le_succ _
  · exact hid.ge

theorem nextId_le_foldl (c : Cache) (calls : List Operation) :
    c.nextId ≤ (calls.foldl perform c).nextId :=
  List.foldlRecOn (motive := fun c' ↦ c.nextId ≤ c'.nextId) calls perform le_rfl
    fun c' hle call _ ↦ hle.trans (c'.nextId_le_perform call)

/-- What a call keeps that was not kept before has the next identity. -/
theorem id_of_new (hnone : c.get? text = none) (h : (c.perform call).get? text = some shared) :
    shared.id = c.nextId := by
  rw [get?_perform, hnone, Option.none_or] at h
  split at h
  · cases h
  · split at h
    · obtain ⟨e, -, rfl⟩ := Option.map_eq_some_iff.mp h
      rfl
    · cases h

/-- Identities up to `k` are given, and what is kept for a text has none of them. -/
structure KeptFrom (k : Nat) (text : Text) (c : Cache) : Prop where
  le_nextId : k ≤ c.nextId
  le_id : ∀ shared, c.get? text = some shared → k ≤ shared.id

namespace KeptFrom

variable {k : Nat}

theorem of_forgets (c : Cache) (h : call.forgets text = true) :
    (c.perform call).KeptFrom c.nextId text := by
  refine ⟨c.nextId_le_perform call, fun shared hkept ↦ ?_⟩
  rw [get?_perform_of_forgets h] at hkept
  cases hkept

theorem perform (hc : c.KeptFrom k text) (call : Operation) :
    (c.perform call).KeptFrom k text := by
  refine ⟨hc.le_nextId.trans (c.nextId_le_perform call), fun later hlater ↦ ?_⟩
  cases hbefore : c.get? text with
  | none => exact hc.le_nextId.trans (id_of_new hbefore hlater).ge
  | some before =>
    -- What was kept before stays, unless the call forgets it, and then nothing is kept.
    cases hforgets : call.forgets text with
    | true =>
      rw [get?_perform_of_forgets hforgets] at hlater
      cases hlater
    | false =>
      rw [get?_perform_of_kept hbefore hforgets] at hlater
      exact Option.some_inj.mp hlater ▸ hc.le_id before hbefore

theorem foldl_perform (hc : c.KeptFrom k text) (calls : List Operation) :
    (calls.foldl Cache.perform c).KeptFrom k text :=
  List.foldlRecOn calls Cache.perform hc fun _ hc call _ ↦ hc.perform call

end KeptFrom

/-! ## The result -/

/-- In the course of some calls, from an empty cache on, an object is handed out for a text. -/
def HandedOut (calls : List Operation) (text : Text) (shared : Shared) : Prop :=
  ∃ before call rest, calls = before ++ call :: rest ∧ call.text? = some text ∧
    (after before).object? call = some shared

/-- What was handed out has an identity that will not be given again. -/
theorem HandedOut.id_lt {calls : List Operation} (h : HandedOut calls text shared) :
    shared.id < (after calls).nextId := by
  obtain ⟨before, call, rest, rfl, htext, hobject⟩ := h
  have hkept := (get?_of_object htext hobject).1
  rw [← List.singleton_append, ← List.append_assoc, after_append, after_concat]
  exact (((supplied_after before).perform call).id_lt_of_kept hkept).trans_le
    (nextId_le_foldl _ rest)

/-- **Identity.** After any calls, for any text:
- what is handed out for it is the same object until it is forgotten,
- an object that is newly kept for it is none of those handed out before,
- so is any object kept for it after it was forgotten, compared with those handed out until then,
- only calls about it change what is kept for it, and clearing,
- it is kept exactly if it was successfully built since it was last forgotten, and as it compiles;
  forgetting it tells whether it was,
- and as many texts are kept as there are such texts. -/
theorem identities (calls : List Operation) (text : Text) :
    let c := after calls
    (∀ call between call' x y, call.text? = some text → c.object? call = some x →
      (∀ other ∈ between, other.forgets text = false) → call'.text? = some text →
      (after (calls ++ call :: between)).object? call' = some y → x = y) ∧
    (∀ call x y text', c.get? text = none → (c.perform call).get? text = some y →
      HandedOut calls text' x → x.id ≠ y.id) ∧
    (∀ call between x y text', call.forgets text = true →
      (after (calls ++ call :: between)).get? text = some y →
      HandedOut calls text' x → x.id ≠ y.id) ∧
    (∀ call, call ≠ .clear → call.text? ≠ some text →
      (c.perform call).get? text = c.get? text) ∧
    ((c.get? text).isSome ↔ BuiltSince text calls) ∧
    (c.contains text ↔ BuiltSince text calls) ∧
    (∀ x, c.get? text = some x → compile text = .ok x.expression) ∧
    ((c.invalidate text).1 ↔ BuiltSince text calls) ∧
    ∃ texts : Finset Text, (∀ t, t ∈ texts ↔ BuiltSince t calls) ∧ c.size = texts.card := by
  have hkept : ∀ t, ((after calls).get? t).isSome ↔ BuiltSince t calls := isSome_get?_after calls
  have hthen : ∀ call between, after (calls ++ call :: between)
      = between.foldl perform ((after calls).perform call) :=
    fun call between ↦ after_append calls (call :: between)
  refine ⟨?same, ?new, ?rebuilt, ?other, hkept text, hkept text, ?compiles, hkept text, ?size⟩
  case same =>
    intro call between call' x y htext hx hbetween htext' hy
    rw [hthen] at hy
    exact (get?_of_object htext' hy).2 x
      (get?_foldl_of_kept (get?_of_object htext hx).1 hbetween)
  case new =>
    intro call x y text' hnone hy hx
    exact (id_of_new hnone hy).symm ▸ hx.id_lt.ne
  case rebuilt =>
    intro call between x y text' hforgets hy hx
    rw [hthen] at hy
    have hnewer := (KeptFrom.of_forgets (after calls) hforgets).foldl_perform between
    exact (hx.id_lt.trans_le (hnewer.le_id y hy)).ne
  case other => exact fun call ↦ get?_perform_of_other
  case compiles => exact fun x ↦ (sound_after calls).compile_of_kept
  case size =>
    refine ⟨((after calls).entries.map Prod.fst).toFinset, fun t ↦ ?_, ?_⟩
    · rw [List.mem_toFinset, ← isSome_get?_iff, hkept]
    · rw [List.toFinset_card_of_nodup (supplied_after calls).nodup, List.length_map]
      rfl

theorem identities_rebuilt :
    let calls : List Operation :=
      [.getOrBuild "a<1".toList, .getOrBuild "a==".toList, .get "b".toList]
    let first : Shared := ⟨0, .comparison .less (.literal ['a']) (.literal ['1']), false⟩
    let second : Shared := ⟨1, .comparison .less (.literal ['a']) (.literal ['1']), false⟩
    (after calls).get? "a<1".toList = some first ∧
      (after (calls ++ .invalidate "a<1".toList ::
        [.satisfied "a<1".toList .primary .empty])).get? "a<1".toList = some second ∧
      first.id ≠ second.id := by
  intro calls first second
  have hfirst : (after calls).get? "a<1".toList = some first := by decide +kernel
  have hsecond : (after (calls ++ .invalidate "a<1".toList ::
      [.satisfied "a<1".toList .primary .empty])).get? "a<1".toList = some second := by
    decide +kernel
  exact ⟨hfirst, hsecond, (identities calls "a<1".toList).2.2.1 (.invalidate "a<1".toList)
    [.satisfied "a<1".toList .primary .empty] first second "a<1".toList (by decide) hsecond
    ⟨[], _, _, rfl, rfl, by decide +kernel⟩⟩

end Cache

end Placement
