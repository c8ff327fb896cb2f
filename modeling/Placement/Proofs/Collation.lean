import Mathlib.Data.List.Infix
import Placement.Proofs.Equality

/-!
# Ordering and hashing identifiers

Equality, order and hashing each compare the same five parts of an identifier in a way of their own:
equality looks at optional authorities in any case, order compares them in small letters with an
absent one first, and a hasher is told whether there is one. They agree because each of them decides
whether two keys are equal. Order is a lawful comparison of keys (`Uri.Key.compare`), and the items
that a hasher receives determine the key (`Uri.hashItems_eq_iff`).

So sorting brings equal identifiers together, and a hash set holds one of each, whatever the hash
function makes of its items.
-/

namespace Placement

namespace Uri

/-! ## Order -/

/-- Keys are compared by their parts, one after the other. -/
instance : Std.TransCmp Key.compare :=
  inferInstanceAs (Std.TransCmp (compareLex (compareOn Key.scheme)
    (compareLex (compareOn Key.authority) (compareLex (compareOn Key.path)
      (compareLex (compareOn Key.query) (compareOn Key.fragment))))))

instance : Std.LawfulEqCmp Key.compare where
  eq_of_compare {k l} h := by
    simp only [Key.compare, Ordering.then_eq_eq, Std.LawfulEqOrd.compare_eq_iff_eq] at h
    obtain ⟨hscheme, hauthority, hpath, hquery, hfragment⟩ := h
    cases k
    cases l
    simp_all

variable {u v w : Uri}

instance : Std.TransCmp compare where
  eq_swap {u v} := by
    have h : u.key.compare v.key = (v.key.compare u.key).swap := Std.OrientedCmp.eq_swap
    exact h
  isLE_trans {u v w} huv hvw := by
    have h : (u.key.compare w.key).isLE = true := Std.TransCmp.isLE_trans huv hvw
    exact h

theorem compare_eq_iff : u.compare v = .eq ↔ u.same v = true := by
  rw [same_iff_key_eq, compare, Std.LawfulEqCmp.compare_eq_iff_eq]

/-! ## Sorting -/

theorem pairwise_sort (us : List Uri) : (sort us).Pairwise fun u v ↦ (u.compare v).isLE = true := by
  refine List.pairwise_mergeSort (fun u v w ↦ Std.TransCmp.isLE_trans) (fun u v ↦ ?_) us
  have hswap : v.compare u = (u.compare v).swap := Std.OrientedCmp.eq_swap
  rw [hswap]
  cases u.compare v <;> rfl

/-- In order, what stands between equal identifiers is equal to them. -/
theorem same_of_mem_between {before between after : List Uri}
    (hsorted : (before ++ u :: (between ++ v :: after)).Pairwise
      fun u v ↦ (u.compare v).isLE = true)
    (huv : u.same v = true) (hw : w ∈ between) : u.same w = true := by
  obtain ⟨-, hrest, -⟩ := List.pairwise_append.mp hsorted
  obtain ⟨hu, hrest⟩ := List.pairwise_cons.mp hrest
  obtain ⟨-, -, hbetween⟩ := List.pairwise_append.mp hrest
  have huw : (u.compare w).isLE = true := hu w (List.mem_append_left _ hw)
  have hwv : (w.compare v).isLE = true := hbetween w hw v List.mem_cons_self
  -- Since `u` and `v` are equal, `w` is on either side of both.
  have hvu : (v.compare u).isLE = true := by
    rw [Std.OrientedCmp.eq_comm.mp (compare_eq_iff.mpr huv)]
    rfl
  exact compare_eq_iff.mp
    (Std.OrientedCmp.isLE_antisymm huw (Std.TransCmp.isLE_trans hwv hvu))

/-! ## Hashing -/

theorem HashItem.ofOption_inj {a b : Option Text} : ofOption a = ofOption b ↔ a = b := by
  cases a <;> cases b <;> simp [ofOption]

theorem HashItem.ofOption_append_inj {a b : Option Text} {s t : List HashItem} :
    ofOption a ++ s = ofOption b ++ t ↔ a = b ∧ s = t := by
  cases a <;> cases b <;> simp [ofOption]

/-- **Hashing decides equality.** Two identifiers are equal exactly if a hasher is handed the same
items for both. -/
theorem hashItems_eq_iff : u.hashItems = v.hashItems ↔ u.same v = true := by
  rw [same_iff_key_eq]
  simp only [hashItems, key, Key.mk.injEq, List.cons.injEq, HashItem.text.injEq,
    HashItem.ofOption_append_inj, HashItem.ofOption_inj]

/-- Equality of identifiers as hash sets use it. -/
abbrev beq : BEq Uri := ⟨same⟩

/-- The hash that a hash function makes of the items of an identifier. -/
abbrev hashable (hasher : List HashItem → UInt64) : Hashable Uri := ⟨fun u ↦ hasher u.hashItems⟩

theorem equivBEq : @EquivBEq Uri beq :=
  letI := beq
  { symm := fun h ↦ same_iff_key_eq.mpr (same_iff_key_eq.mp h).symm
    trans := fun h h' ↦ same_iff_key_eq.mpr ((same_iff_key_eq.mp h).trans (same_iff_key_eq.mp h'))
    rfl := same_iff_key_eq.mpr rfl }

theorem lawfulHashable (hasher : List HashItem → UInt64) :
    @LawfulHashable Uri beq (hashable hasher) :=
  letI := beq
  letI := hashable hasher
  { hash_eq := fun _ _ h ↦ congrArg hasher (hashItems_eq_iff.mpr h) }

/-- A hash set of identifiers. -/
abbrev HashSet (hasher : List HashItem → UInt64) : Type := @Std.HashSet Uri beq (hashable hasher)

def hashSet (hasher : List HashItem → UInt64) (us : List Uri) : HashSet hasher :=
  @Std.HashSet.ofList Uri beq (hashable hasher) us

section HashSet

variable (hasher : List HashItem → UInt64) (us : List Uri)

theorem pairwise_hashSet :
    (hashSet hasher us).toList.Pairwise fun u v ↦ u.same v = false := by
  have := equivBEq
  have := lawfulHashable hasher
  have hdistinct : (hashSet hasher us).toList.Pairwise fun u v ↦ beq.beq u v = false :=
    Std.HashSet.distinct_toList
  exact hdistinct

theorem contains_hashSet (u : Uri) : (hashSet hasher us).contains u = us.any (same u) := by
  have := equivBEq
  have := lawfulHashable hasher
  exact Std.HashSet.contains_ofList.trans (@List.contains_eq_any_beq _ beq us u)

theorem exists_mem_hashSet_iff (u : Uri) :
    (∃ v ∈ (hashSet hasher us).toList, u.same v = true) ↔ ∃ v ∈ us, u.same v = true := by
  have := equivBEq
  have := lawfulHashable hasher
  have hcontains : (hashSet hasher us).toList.any (same u) = us.any (same u) := by
    rw [← contains_hashSet hasher us u, ← Std.HashSet.contains_toList]
    exact (@List.contains_eq_any_beq _ beq _ u).symm
  rw [Bool.eq_iff_iff, List.any_eq_true, List.any_eq_true] at hcontains
  exact hcontains

theorem any_same_comm (us : List Uri) (u : Uri) : us.any (same · u) = us.any (same u) :=
  congrArg us.any (funext fun v ↦ same_comm v u)

theorem fresh_concat (u : Uri) : fresh (us ++ [u]) = fresh us ++ [!us.any (same · u)] := by
  rw [fresh, fresh, List.zipIdx_append, List.map_append]
  congr 1
  · refine List.map_congr_left fun ⟨v, i⟩ hmem ↦ ?_
    have hle : i ≤ us.length := by
      have hlt := (List.mem_zipIdx hmem).2.1
      omega
    dsimp only
    rw [List.take_append_of_le_length hle]
  · simp

/-- A hash set has as many elements as there are new identifiers. -/
theorem size_hashSet : (hashSet hasher us).size = (fresh us).count true := by
  have := equivBEq
  have := lawfulHashable hasher
  -- The set grows at the end of the list, which is where `fresh` looks back from.
  induction us using List.reverseRecOn with
  | nil => rfl
  | append_singleton us u ih =>
    have hinsert : hashSet hasher (us ++ [u]) = (hashSet hasher us).insert u := by
      rw [hashSet, Std.HashSet.ofList_eq_insertMany_empty, Std.HashSet.insertMany_append,
        Std.HashSet.insertMany_list_singleton, ← Std.HashSet.ofList_eq_insertMany_empty]
      rfl
    have hmem : u ∈ hashSet hasher us ↔ us.any (same u) = true := by
      rw [Std.HashSet.mem_iff_contains, contains_hashSet]
    rw [hinsert, Std.HashSet.size_insert, fresh_concat, List.count_append, any_same_comm, ih]
    cases hany : us.any (same u) with
    | true => exact if_pos (hmem.mpr hany)
    | false =>
      refine if_neg fun hin ↦ ?_
      rw [hmem, hany] at hin
      cases hin

end HashSet

/-- **Order, equality and hashing agree.** Order is a total preorder of identifiers, in which just
the equal ones compare as equal, equality is an equivalence, and a hasher is handed the same items
for two identifiers exactly if they are equal. So sorting puts equal identifiers next to each other,
and a hash set of identifiers holds one of each: no two of its elements are equal, it contains what
was put in, and it has as many elements as were new. -/
theorem compare_coherent :
    (∀ u v : Uri, v.compare u = (u.compare v).swap) ∧
      (∀ u v w : Uri, (u.compare v).isLE = true → (v.compare w).isLE = true →
        (u.compare w).isLE = true) ∧
      (∀ u v : Uri, u.compare v = .eq ↔ u.same v = true) ∧
      Equivalence (fun u v : Uri ↦ u.same v = true) ∧
      (∀ u v : Uri, u.same v = true ↔ u.hashItems = v.hashItems) ∧
      (∀ us : List Uri, (sort us).Perm us ∧
        (sort us).Pairwise (fun u v ↦ (u.compare v).isLE = true) ∧
        ∀ (before between after : List Uri) (u v : Uri),
          sort us = before ++ u :: (between ++ v :: after) → u.same v = true →
            ∀ w ∈ between, u.same w = true) ∧
      ∀ (hasher : List HashItem → UInt64) (us : List Uri),
        (hashSet hasher us).toList.Pairwise (fun u v ↦ u.same v = false) ∧
          (∀ u : Uri, (∃ v ∈ (hashSet hasher us).toList, u.same v = true) ↔
            ∃ v ∈ us, u.same v = true) ∧
          (hashSet hasher us).size = (fresh us).count true := by
  refine ⟨fun u v ↦ Std.OrientedCmp.eq_swap, fun u v w ↦ Std.TransCmp.isLE_trans,
    fun u v ↦ compare_eq_iff, ⟨fun u ↦ equivBEq.rfl, equivBEq.symm, equivBEq.trans⟩,
    fun u v ↦ hashItems_eq_iff.symm, fun us ↦ ⟨us.mergeSort_perm _, pairwise_sort us, ?_⟩,
    fun hasher us ↦ ⟨pairwise_hashSet hasher us, exists_mem_hashSet_iff hasher us,
      size_hashSet hasher us⟩⟩
  intro before between after u v hsort huv w hw
  exact same_of_mem_between (hsort ▸ pairwise_sort us) huv hw

theorem compare_coherent_spellings :
    let read (text : Text) (host : Option Text) (query : Option Text) : Uri :=
      ⟨text, ⟨['f', 'd'], host.map (.ofHost <| .name ·), .segments [['a']], query, none⟩⟩
    let a := read "fd://Host/a".toList (some "Host".toList) none
    let a' := read "FD://hOST/a".toList (some "hOST".toList) none
    let a'' := read "fd://host/a".toList (some "host".toList) none
    let b := read "fd:/a".toList none none
    let c := read "fd://host/a?".toList (some "host".toList) (some [])
    let us := [b, a, a', a'', c]
    ofTexts (us.map Uri.text) = .ok us ∧
      ((b.compare a).isLE = true ∧ (a.compare c).isLE = true ∧ (b.compare c).isLE = true) ∧
      (sort us = us ∧ a.same a'' = true ∧ a.same a' = true) ∧
      ∀ hasher, (hashSet hasher us).size = 3 := by
  intro read a a' a'' b c us
  obtain ⟨-, htrans, -, -, -, hsort, hset⟩ := compare_coherent
  have hba : (b.compare a).isLE = true := by decide +kernel
  have hac : (a.compare c).isLE = true := by decide +kernel
  have hsorted : sort us = us := List.mergeSort_of_pairwise (by decide +kernel)
  have hsame : a.same a'' = true := by decide +kernel
  have hnew : (fresh us).count true = 3 := by decide +kernel
  exact ⟨by decide +kernel, ⟨hba, hac, htrans b a c hba hac⟩,
    ⟨hsorted, hsame, (hsort us).2.2 [b] [a'] [c] a a'' hsorted hsame a' List.mem_cons_self⟩,
    fun hasher ↦ (hset hasher us).2.2.trans hnew⟩

end Uri

end Placement
