import Mathlib.Data.List.Infix
import Placement.Proofs.Equality

/-!
# Comparisons among themselves

All comparisons of two texts look at the same two sides (`Sides.ofTexts`), so what they answer can
be read off three questions to these: whether they are equal, whether one lies under the other, and
how they are ordered. Exactly one of the last two has an answer, and which one is decided by whether
both texts are numbers (`Sides.isSome_order_ofTexts`, `Sides.under_eq_none_iff`). This settles which
comparisons fail.

Numbers are ordered by their class, minus infinity, finite or infinity, and within the finite ones
by their counts (`Number.compare_eq_lex`). That makes their order linear, and equality of numbers is
what this order calls equal.
-/

namespace Placement

/-! ## The order of numbers -/

namespace Number

/-- The class of a number, and its count within the class. -/
def rank : Number → Int × Int
  | finite units => (0, units)
  | infinite true => (-1, 0)
  | infinite false => (1, 0)

theorem rank_injective : Function.Injective rank := by
  intro m n h
  rcases m with a | (_ | _) <;> rcases n with b | (_ | _) <;> simp_all [rank]

/-- Numbers are compared by class, then by count. -/
theorem compare_eq_lex (m n : Number) : m.compare n =
    compareLex (compareOn fun k ↦ (rank k).1) (compareOn fun k ↦ (rank k).2) m n := by
  rcases m with a | (_ | _) <;> rcases n with b | (_ | _) <;> rfl

instance : Std.TransCmp Number.compare where
  eq_swap {m n} := by
    rw [compare_eq_lex, compare_eq_lex]
    exact Std.OrientedCmp.eq_swap
  isLE_trans {k m n} hkm hmn := by
    rw [compare_eq_lex] at hkm hmn ⊢
    exact Std.TransCmp.isLE_trans hkm hmn

instance : Std.LawfulEqCmp Number.compare where
  eq_of_compare {m n} h := by
    rw [compare_eq_lex, compareLex, compareOn, compareOn, Ordering.then_eq_eq,
      Std.LawfulEqOrd.compare_eq_iff_eq, Std.LawfulEqOrd.compare_eq_iff_eq] at h
    exact rank_injective (Prod.ext h.1 h.2)

theorem beq_eq_isEq (m n : Number) : (m == n) = (m.compare n).isEq := by
  rw [Bool.eq_iff_iff, beq_iff_eq, Ordering.isEq_iff_eq_eq, Std.LawfulEqCmp.compare_eq_iff_eq]

end Number

theorem Comparand.ofText_eq_number_iff {t : Text} {n : Number} :
    Comparand.ofText t = .number n ↔ Number.ofText? t = some n := by
  rw [Comparand.ofText]
  cases Number.ofText? t with
  | some m => simp
  | none => cases Uri.ofText t <;> simp

def IsNumber (t : Text) : Prop := ∃ n, Number.ofText? t = some n

/-! ## What the two sides answer -/

namespace Sides

variable {x y : Text} {m n : Number}

theorem ofTexts_of_numbers (hx : Number.ofText? x = some m) (hy : Number.ofText? y = some n) :
    ofTexts x y = numbers m n := by
  rw [ofTexts, hx, hy]

theorem isSome_order_ofTexts (x y : Text) :
    (ofTexts x y).order.isSome = true ↔ IsNumber x ∧ IsNumber y := by
  rw [IsNumber, IsNumber, ofTexts]
  cases hx : Number.ofText? x with
  | none => cases Uri.ofText x <;> cases Uri.ofText y <;> simp [order]
  | some m =>
    cases hy : Number.ofText? y with
    | none => cases Uri.ofText x <;> cases Uri.ofText y <;> simp [order]
    | some n => simp [order]

/-- What has an order has no answer to whether it lies under the other, and the other way round. -/
theorem under_eq_none_iff (s : Sides) : s.under = none ↔ s.order.isSome = true := by
  cases s <;> simp [under, order]

theorem under_of_equal {s : Sides} (horder : s.order = none) (h : s.equal = true) :
    s.under = some true := by
  cases s with
  | numbers m n => cases horder
  | uris u v =>
    have hsame : v.same u = true := (Uri.same_comm v u).trans h
    rw [under, hsame, Bool.or_true]
  | texts a e =>
    have heq : a = e := beq_iff_eq.mp h
    rw [under, heq, List.isPrefixOf_iff_prefix.mpr (List.prefix_refl e)]

end Sides

/-! ## What the comparisons answer -/

namespace Comparison

/-- What a comparison answers on two texts. -/
abbrev verdict (op : Comparison) (x y : Text) : Except EvalError Bool :=
  compareTexts (.comparison op) x y

variable {op : Comparison} {x y : Text} {b : Bool}

theorem verdict_eq_ok_iff_under (h : op.base = .under) :
    op.verdict x y = .ok b ↔ (Sides.ofTexts x y).under = some b := by
  rw [verdict, compareTexts, h]
  cases (Sides.ofTexts x y).under <;> simp

theorem verdict_eq_ok_iff_notUnder (h : op.base = .notUnder) :
    op.verdict x y = .ok b ↔ (Sides.ofTexts x y).under = some (!b) := by
  rw [verdict, compareTexts, h]
  cases hunder : (Sides.ofTexts x y).under with
  | none => simp [Except.map]
  | some a => cases a <;> cases b <;> simp [Except.map]

theorem base_of_mem : ∀ op ∈ [under, notUnder, primaryUnder, primaryNotUnder],
    op.base = .under ∨ op.base = .notUnder := by
  decide

theorem verdict_of_under_eq_none (h : op.base = .under ∨ op.base = .notUnder)
    (hnone : (Sides.ofTexts x y).under = none) :
    op.verdict x y = .error (.numericPrefix (.comparison op)) := by
  rcases h with h | h
  · rw [verdict, compareTexts, h, hnone]
  · rw [verdict, compareTexts, h, hnone]
    rfl

theorem exists_verdict_eq_ok (h : op.base = .under ∨ op.base = .notUnder)
    (hsome : (Sides.ofTexts x y).under ≠ none) : ∃ b, op.verdict x y = .ok b := by
  obtain ⟨b, hb⟩ := Option.ne_none_iff_exists'.mp hsome
  rcases h with h | h
  · exact ⟨b, (verdict_eq_ok_iff_under h).mpr hb⟩
  · exact ⟨!b, (verdict_eq_ok_iff_notUnder h).mpr (by rw [hb, Bool.not_not])⟩

theorem exists_verdict_eq_error_iff (h : op.base = .under ∨ op.base = .notUnder) :
    (∃ e, op.verdict x y = .error e) ↔ (Sides.ofTexts x y).under = none := by
  refine ⟨fun ⟨e, he⟩ ↦ by_contra fun hsome ↦ ?_, fun hnone ↦ ⟨_, verdict_of_under_eq_none h hnone⟩⟩
  obtain ⟨b, hb⟩ := exists_verdict_eq_ok h hsome
  rw [hb] at he
  cases he

theorem verdict_of_order_eq_none (h : op ∈ [less, atMost, greater, atLeast])
    (hnone : (Sides.ofTexts x y).order = none) :
    op.verdict x y = .error (.nonNumericOrdering (.comparison op) x y) := by
  simp only [List.mem_cons, List.not_mem_nil, or_false] at h
  rcases h with rfl | rfl | rfl | rfl <;> (rw [verdict, compareTexts, hnone]; rfl)

/-- On numbers the comparisons answer what their order says. -/
theorem verdicts_of_numbers {m n : Number} (hx : Number.ofText? x = some m)
    (hy : Number.ofText? y = some n) :
    verdict .less x y = .ok (m.compare n).isLT ∧ verdict .equal x y = .ok (m.compare n).isEq ∧
      verdict .greater x y = .ok (m.compare n).isGT ∧
      verdict .atMost x y = .ok (m.compare n).isLE ∧
      verdict .atLeast x y = .ok (m.compare n).isGE := by
  rw [← Number.beq_eq_isEq]
  simp only [verdict, compareTexts, Sides.ofTexts_of_numbers hx hy]
  exact ⟨rfl, rfl, rfl, rfl, rfl⟩

theorem exists_numbers_of_less (h : verdict .less x y = .ok true) :
    ∃ m n, Number.ofText? x = some m ∧ Number.ofText? y = some n ∧ m.compare n = .lt := by
  cases horder : (Sides.ofTexts x y).order with
  | none =>
    rw [verdict_of_order_eq_none (by decide) horder] at h
    cases h
  | some o =>
    obtain ⟨⟨m, hx⟩, n, hy⟩ := (Sides.isSome_order_ofTexts x y).mp (Option.isSome_of_eq_some horder)
    rw [(verdicts_of_numbers hx hy).1, Except.ok.injEq, Ordering.isLT_iff_eq_lt] at h
    exact ⟨m, n, hx, hy, h⟩

theorem less_trans {z : Text} (hxy : verdict .less x y = .ok true)
    (hyz : verdict .less y z = .ok true) : verdict .less x z = .ok true := by
  obtain ⟨k, m, hx, hy, hkm⟩ := exists_numbers_of_less hxy
  obtain ⟨m', n, hy', hz, hmn⟩ := exists_numbers_of_less hyz
  cases hy.symm.trans hy'
  have hkn : k.compare n = .lt := Std.TransCmp.lt_trans hkm hmn
  rw [(verdicts_of_numbers hx hz).1, hkn]
  rfl

/-- What is equal to a number writes the same number. -/
theorem ofText?_of_equal {m : Number} (hx : Number.ofText? x = some m)
    (h : verdict .equal x y = .ok true) : Number.ofText? y = some m := by
  rw [← Comparand.ofText_eq_number_iff] at hx ⊢
  rw [← hx, compareTexts_equal_eq_ok_true.mp h]

/-! ## All together -/

/-- **The comparisons fit together.** `!=` is the negation of `==`, `!^` that of `^`, and the
variants for the primary replica answer as the others do. On two numbers exactly one of `<`, `==`
and `>` holds, `<=` and `>=` are made up of them, `<` is transitive and does not tell equal texts
apart, and nothing lies under anything. On other texts there is no order, all that asks what lies
under what has an answer, and what is equal lies under the other. -/
theorem verdicts_coherent (x y : Text) :
    (∃ b, verdict .equal x y = .ok b ∧ verdict .notEqual x y = .ok (!b)) ∧
      ((∀ b, verdict .primaryUnder x y = .ok b ↔ verdict .under x y = .ok b) ∧
        (∀ b, verdict .primaryNotUnder x y = .ok b ↔ verdict .notUnder x y = .ok b) ∧
        (∀ b, verdict .notUnder x y = .ok (!b) ↔ verdict .under x y = .ok b) ∧
        ((∃ e, verdict .notUnder x y = .error e) ↔ ∃ e, verdict .under x y = .error e)) ∧
      (IsNumber x ∧ IsNumber y →
        (verdict .less x y, verdict .equal x y, verdict .greater x y) ∈
            [(.ok true, .ok false, .ok false), (.ok false, .ok true, .ok false),
              (.ok false, .ok false, .ok true)] ∧
          (∃ b, verdict .atMost x y = .ok b ∧
            (b = true ↔ verdict .less x y = .ok true ∨ verdict .equal x y = .ok true)) ∧
          (∃ b, verdict .atLeast x y = .ok b ∧
            (b = true ↔ verdict .greater x y = .ok true ∨ verdict .equal x y = .ok true)) ∧
          (∀ z, verdict .less x y = .ok true → verdict .less y z = .ok true →
            verdict .less x z = .ok true) ∧
          (∀ x' y', verdict .equal x x' = .ok true → verdict .equal y y' = .ok true →
            verdict .less x y = verdict .less x' y') ∧
          ∀ op ∈ [under, notUnder, primaryUnder, primaryNotUnder],
            verdict op x y = .error (.numericPrefix (.comparison op))) ∧
      (¬(IsNumber x ∧ IsNumber y) →
        (∀ op ∈ [less, atMost, greater, atLeast],
          verdict op x y = .error (.nonNumericOrdering (.comparison op) x y)) ∧
          (∀ op ∈ [under, notUnder, primaryUnder, primaryNotUnder], ∃ b, verdict op x y = .ok b) ∧
          (verdict .equal x y = .ok true → verdict .under x y = .ok true)) := by
  refine ⟨⟨(Sides.ofTexts x y).equal, rfl, rfl⟩, ⟨fun b ↦ ?_, fun b ↦ ?_, fun b ↦ ?_, ?_⟩,
    fun hnumbers ↦ ?_, fun hnot ↦ ?_⟩
  · rw [verdict_eq_ok_iff_under rfl, verdict_eq_ok_iff_under rfl]
  · rw [verdict_eq_ok_iff_notUnder rfl, verdict_eq_ok_iff_notUnder rfl]
  · rw [verdict_eq_ok_iff_notUnder rfl, verdict_eq_ok_iff_under rfl, Bool.not_not]
  · rw [exists_verdict_eq_error_iff (Or.inr rfl), exists_verdict_eq_error_iff (Or.inl rfl)]
  · obtain ⟨⟨m, hx⟩, n, hy⟩ := hnumbers
    obtain ⟨hless, hequal, hgreater, hatMost, hatLeast⟩ := verdicts_of_numbers hx hy
    -- All five answers are read off one ordering, so each law is a matter of its three values.
    refine ⟨?_, ⟨_, hatMost, ?_⟩, ⟨_, hatLeast, ?_⟩, fun z ↦ less_trans, fun x' y' hxx' hyy' ↦ ?_,
      fun op hop ↦ verdict_of_under_eq_none (base_of_mem op hop) ?_⟩
    · rw [hless, hequal, hgreater]
      cases m.compare n <;> decide
    · rw [hless, hequal]
      cases m.compare n <;> decide
    · rw [hgreater, hequal]
      cases m.compare n <;> decide
    · rw [hless, (verdicts_of_numbers (ofText?_of_equal hx hxx') (ofText?_of_equal hy hyy')).1]
    · rw [Sides.ofTexts_of_numbers hx hy, Sides.under]
  · have horder : (Sides.ofTexts x y).order = none := by
      rwa [← Sides.isSome_order_ofTexts, Option.not_isSome_iff_eq_none] at hnot
    have hunder : (Sides.ofTexts x y).under ≠ none := by
      rw [ne_eq, Sides.under_eq_none_iff, Sides.isSome_order_ofTexts]
      exact hnot
    refine ⟨fun op hop ↦ verdict_of_order_eq_none hop horder,
      fun op hop ↦ exists_verdict_eq_ok (base_of_mem op hop) hunder, fun hequal ↦ ?_⟩
    exact (verdict_eq_ok_iff_under rfl).mpr (Sides.under_of_equal horder (Except.ok.inj hequal))

theorem verdicts_coherent_spellings :
    let low := " -inf".toList
    let zero := "-0".toList
    let zero' := "+0.0e5".toList
    let high := "1e400".toList
    let high' := "Infinity".toList
    let rack := "FD://h/R1".toList
    let rack' := "fd://H/R1".toList
    (IsNumber zero ∧ IsNumber high ∧
      verdict .under zero high = .error (.numericPrefix (.comparison .under))) ∧
      (IsNumber low ∧ verdict .less low zero = .ok true ∧ verdict .less low high = .ok true) ∧
      (verdict .equal zero zero' = .ok true ∧ verdict .equal high high' = .ok true ∧
        verdict .less zero high = verdict .less zero' high') ∧
      ¬(IsNumber rack ∧ IsNumber rack') ∧ verdict .equal rack rack' = .ok true ∧
      verdict .under rack rack' = .ok true ∧
      verdict .less rack rack' = .error (.nonNumericOrdering (.comparison .less) rack rack') := by
  intro low zero zero' high high' rack rack'
  have hlow : IsNumber low := ⟨.infinite true, by decide +kernel⟩
  have hzero : IsNumber zero := ⟨.finite 0, by decide +kernel⟩
  have hhigh : IsNumber high := ⟨.infinite false, by decide +kernel⟩
  have hrack : ¬(IsNumber rack ∧ IsNumber rack') := fun ⟨⟨n, hn⟩, _⟩ ↦ by
    rw [show Number.ofText? rack = none by decide +kernel] at hn
    cases hn
  have hless : verdict .less low zero = .ok true := by decide +kernel
  have hless' : verdict .less zero high = .ok true := by decide +kernel
  have hzeros : verdict .equal zero zero' = .ok true := by decide +kernel
  have hhighs : verdict .equal high high' = .ok true := by decide +kernel
  have hracks : verdict .equal rack rack' = .ok true := by decide +kernel
  obtain ⟨-, -, -, htrans, -, -⟩ := (verdicts_coherent low zero).2.2.1 ⟨hlow, hzero⟩
  obtain ⟨-, -, -, -, hsame, hunder⟩ := (verdicts_coherent zero high).2.2.1 ⟨hzero, hhigh⟩
  obtain ⟨horder, -, hequal⟩ := (verdicts_coherent rack rack').2.2.2 hrack
  exact ⟨⟨hzero, hhigh, hunder .under List.mem_cons_self⟩,
    ⟨hlow, hless, htrans high hless hless'⟩, ⟨hzeros, hhighs, hsame zero' high' hzeros hhighs⟩,
    hrack, hracks, hequal hracks, horder .less List.mem_cons_self⟩

end Comparison

end Placement
