import Mathlib.Data.List.DropRight
import Mathlib.Data.List.Infix
import Mathlib.Data.List.TakeWhile
import Placement.Scanner

/-!
# Tokens

A token is a text that can stand for itself as a literal: it is not empty, begins and ends with
something other than a blank, and no symbol of the catalog occurs in it.

## The two directions

What the scanner returns as a literal is a token (`isToken_of_readLiteral`), and a token between
blanks is read back as it is (`readLiteral_append`), provided that no symbol reaches from the token
into what follows. That is a condition on the first character behind the token alone, because no
symbol holds a blank, and none holds a parenthesis behind its first character: `separates` names
the characters that are safe there.
-/

namespace Placement

def AllBlank (t : Text) : Prop := ∀ c ∈ t, isBlank c = true

theorem allBlank_nil : AllBlank [] := List.forall_mem_nil _

theorem allBlank_space : AllBlank [' '] := List.forall_mem_singleton.mpr rfl

/-! ## Symbols

Facts about the characters of the sixteen symbols, checked over the catalog. -/

namespace Operator

/-- A character that no symbol holds behind its first one. -/
def separates (c : Char) : Bool := isBlank c || c == '(' || c == ')'

theorem isAlphanum_of_mem_head?_symbol (op : Operator) {c : Char} (h : c ∈ op.symbol.head?) :
    c.isAlphanum = false := by
  have hall : ∀ op ∈ catalog, op.symbol.head?.all (!·.isAlphanum) = true := by decide
  simpa using (Option.all_eq_true _ _).mp (hall op op.mem_catalog) c h

theorem isBlank_of_mem_symbol (op : Operator) {c : Char} (h : c ∈ op.symbol) :
    isBlank c = false := by
  have hall : ∀ op ∈ catalog, op.symbol.all (!isBlank ·) = true := by decide
  simpa using List.all_eq_true.mp (hall op op.mem_catalog) c h

theorem separates_of_mem_tail_symbol (op : Operator) {c : Char} (h : c ∈ op.symbol.tail) :
    separates c = false := by
  have hall : ∀ op ∈ catalog, op.symbol.tail.all (!separates ·) = true := by decide
  simpa using List.all_eq_true.mp (hall op op.mem_catalog) c h

/-! ### Looking up -/

theorem begins_iff {op : Operator} {t : Text} : op.begins t = true ↔ op.symbol <+: t :=
  List.isPrefixOf_iff_prefix

theorem lookup_isSome_iff {t : Text} :
    (lookup t).isSome = true ↔ ∃ op : Operator, op.symbol <+: t := by
  rw [lookup, List.find?_isSome]
  constructor
  · rintro ⟨op, -, h⟩
    exact ⟨op, begins_iff.mp h⟩
  · rintro ⟨op, h⟩
    exact ⟨op, op.mem_catalog, begins_iff.mpr h⟩

theorem lookup_eq_none_iff {t : Text} : lookup t = none ↔ ∀ op : Operator, ¬op.symbol <+: t := by
  rw [← Option.not_isSome_iff_eq_none, lookup_isSome_iff, not_exists]

theorem lookup_nil : lookup [] = none := rfl

/-- A symbol that begins `s ++ t` begins `s` already, if `t` begins with a character that separates.
This is what keeps the lexemes of a text apart. -/
theorem symbol_prefix_append_iff (op : Operator) {s t : Text} (hne : s ≠ [])
    (ht : ∀ c ∈ t.head?, separates c = true) : op.symbol <+: s ++ t ↔ op.symbol <+: s := by
  refine ⟨fun hop ↦ ?_, fun hop ↦ hop.trans (List.prefix_append s t)⟩
  rcases List.prefix_or_prefix_of_prefix hop (List.prefix_append s t) with h | ⟨z, hz⟩
  · exact h
  · cases z with
    | nil => exact ⟨[], by rw [← hz, List.append_nil, List.append_nil]⟩
    | cons c z =>
      rw [← hz, List.prefix_append_right_inj] at hop
      obtain ⟨u, rfl⟩ := hop
      have hmem : c ∈ op.symbol.tail := by
        rw [← hz, List.tail_append_of_ne_nil hne]
        simp
      have hsep := ht c rfl
      rw [separates_of_mem_tail_symbol op hmem] at hsep
      exact absurd hsep Bool.false_ne_true

/-- What follows a character that separates is not looked at. -/
theorem lookup_append_of_separates {s t : Text} (hne : s ≠ [])
    (ht : ∀ c ∈ t.head?, separates c = true) : lookup (s ++ t) = lookup s := by
  have hbegins : ∀ op : Operator, op.begins (s ++ t) = op.begins s := by
    intro op
    rw [Bool.eq_iff_iff, begins_iff, begins_iff, symbol_prefix_append_iff op hne ht]
  simp only [lookup, hbegins]

theorem lookup_cons_of_isBlank {c : Char} (hc : isBlank c = true) (t : Text) :
    lookup (c :: t) = none := by
  rw [lookup_eq_none_iff]
  intro op hop
  obtain ⟨z, hz⟩ := hop
  cases hsym : op.symbol with
  | nil => exact op.symbol_ne_nil hsym
  | cons d s =>
    rw [hsym, List.cons_append, List.cons.injEq] at hz
    have hd := op.isBlank_of_mem_symbol (c := d) (by rw [hsym]; exact List.mem_cons_self)
    rw [hz.1, hc] at hd
    exact absurd hd.symm Bool.false_ne_true

/-- The characters that make one symbol into another, longer one. -/
def lengthens (c : Char) : Bool := c == '=' || c == '^' || c == 'P'

theorem lengthens_of_isBlank {c : Char} (hc : isBlank c = true) : lengthens c = false := by
  simp only [isBlank, Bool.or_eq_true, beq_iff_eq] at hc
  rcases hc with ((rfl | rfl) | rfl) | rfl <;> rfl

/-- An operator is read as itself, unless what follows makes its symbol longer. No parenthesis is
part of a longer symbol. -/
theorem lookup_symbol_append (op : Operator) {t : Text}
    (h : op.category = .paren ∨ ∀ c ∈ t.head?, lengthens c = false) :
    lookup (op.symbol ++ t) = some op := by
  cases t with
  | nil =>
    have hall : ∀ op ∈ catalog, lookup op.symbol = some op := by decide
    rw [List.append_nil, hall op op.mem_catalog]
  | cons c t =>
    rcases h with hparen | hc
    · cases op <;> first | rfl | cases hparen
    · have hlong : ∀ d, lengthens d = true → ∀ s, List.isPrefixOf (d :: s) (c :: t) = false := by
        intro d hd s
        have hdc : (d == c) = false := by
          rw [beq_eq_false_iff_ne]
          rintro rfl
          rw [hc d rfl] at hd
          exact Bool.false_ne_true hd
        rw [List.isPrefixOf, hdc, Bool.false_and]
      cases op with
      | connective k => cases k <;> rfl
      | comparison k =>
        cases k <;>
          simp [lookup, catalog, begins, symbol, Comparison.symbol, hlong '=' rfl, hlong 'P' rfl]
      | not =>
        simp [lookup, catalog, begins, symbol, Comparison.symbol, hlong '=' rfl, hlong '^' rfl]
      | _ => rfl

theorem lookup_symbol_cons (op : Operator) {c : Char} (hc : lengthens c = false) (t : Text) :
    lookup (op.symbol ++ c :: t) = some op :=
  lookup_symbol_append op (Or.inr fun d hd ↦ by
    obtain rfl := Option.some_inj.mp hd
    exact hc)

end Operator

/-! ## Places in a text

Byte offsets that lie on a character are exactly the suffixes of a text, so "at every offset" turns
into "at every suffix", which is what an induction over the text speaks of. -/

namespace Text

theorem suffix_of_dropBytes {t rest : Text} : ∀ {n : Nat}, t.dropBytes n = some rest →
    rest <:+ t := by
  induction t with
  | nil =>
    intro n h
    cases n with
    | zero => rw [dropBytes, Option.some_inj] at h; exact h ▸ List.suffix_refl _
    | succ n => rw [dropBytes] at h; cases h
  | cons c t ih =>
    intro n h
    cases n with
    | zero => rw [dropBytes, Option.some_inj] at h; exact h ▸ List.suffix_refl _
    | succ n =>
      rw [dropBytes] at h
      split at h
      · exact (ih h).trans (List.suffix_cons c t)
      · cases h

theorem dropBytes_byteLength_append (t u : Text) : (t ++ u).dropBytes t.byteLength = some u := by
  induction t with
  | nil => cases u <;> rfl
  | cons c t ih =>
    have hpos := c.utf8Size_pos
    obtain ⟨n, hn⟩ : ∃ n, c.utf8Size + byteLength t = n + 1 :=
      Nat.exists_eq_add_one.mpr (by omega)
    rw [byteLength_cons, hn, List.cons_append, dropBytes, if_pos (by omega), ← hn,
      Nat.add_sub_cancel_left, ih]

end Text

/-- No operator occurs at any offset exactly if none begins any suffix. -/
theorem Operator.occurringAt_eq_nil_iff {t : Text} :
    (∀ offset, occurringAt t offset = []) ↔ ∀ s, s <:+ t → lookup s = none := by
  constructor
  · rintro h s ⟨u, rfl⟩
    have hu := h (Text.byteLength u)
    rw [occurringAt, Text.dropBytes_byteLength_append] at hu
    rw [lookup, List.find?_eq_none]
    exact List.filter_eq_nil_iff.mp hu
  · intro h offset
    rw [occurringAt]
    cases hdrop : t.dropBytes offset with
    | none => rfl
    | some rest =>
      have hrest := h rest (Text.suffix_of_dropBytes hdrop)
      rw [lookup, List.find?_eq_none] at hrest
      exact List.filter_eq_nil_iff.mpr hrest

/-! ## Tokens -/

/-- A text that can stand for itself as a literal. -/
structure IsToken (t : Text) : Prop where
  ne_nil : t ≠ []
  /-- No blank at the beginning. -/
  head_not_blank : ∀ c ∈ t.head?, isBlank c = false
  /-- No blank at the end. -/
  last_not_blank : ∀ c ∈ t.getLast?, isBlank c = false
  /-- No symbol at any byte offset. -/
  no_symbol : ∀ offset, Operator.occurringAt t offset = []

theorem IsToken.lookup_suffix {t s : Text} (h : IsToken t) (hs : s <:+ t) :
    Operator.lookup s = none := Operator.occurringAt_eq_nil_iff.mp h.no_symbol s hs

/-- The form in which a given text can be checked: a text has only finitely many suffixes. -/
def isToken (t : Text) : Bool :=
  !t.isEmpty && t.head?.all (!isBlank ·) && t.getLast?.all (!isBlank ·) &&
    t.tails.all fun s ↦ (Operator.lookup s).isNone

theorem isToken_iff {t : Text} : isToken t = true ↔ IsToken t := by
  have htails : (∀ s ∈ t.tails, Operator.lookup s = none) ↔
      ∀ offset, Operator.occurringAt t offset = [] := by
    simp only [List.mem_tails, Operator.occurringAt_eq_nil_iff]
  have hall : isToken t = true ↔ ((t ≠ [] ∧ (∀ c ∈ t.head?, isBlank c = false)) ∧
      (∀ c ∈ t.getLast?, isBlank c = false)) ∧ ∀ s ∈ t.tails, Operator.lookup s = none := by
    simp [isToken, Option.all_eq_true]
  rw [hall, htails]
  constructor
  · rintro ⟨⟨⟨hne, hhead⟩, hlast⟩, hsymbol⟩
    exact ⟨hne, hhead, hlast, hsymbol⟩
  · intro h
    exact ⟨⟨⟨h.ne_nil, h.head_not_blank⟩, h.last_not_blank⟩, h.no_symbol⟩

instance (t : Text) : Decidable (IsToken t) := decidable_of_iff _ isToken_iff

/-! ## Trimming and cutting -/

theorem eq_false_of_mem_head?_dropWhile {α : Type} {p : α → Bool} {l : List α} {a : α}
    (h : a ∈ (l.dropWhile p).head?) : p a = false := by
  have hhead := List.head?_dropWhile_not p l
  rw [Option.mem_def.mp h] at hhead
  exact hhead

namespace Text

variable {p : Char → Bool}

private theorem dropWhile_eq_self {t : Text} (h : ∀ c ∈ t.head?, p c = false) :
    t.dropWhile p = t := by
  cases t with
  | nil => rfl
  | cons c t => rw [List.dropWhile_cons_of_neg (by rw [h c rfl]; exact Bool.false_ne_true)]

private theorem rdropWhile_eq_self {t : Text} (h : ∀ c ∈ t.getLast?, p c = false) :
    t.rdropWhile p = t := by
  rw [List.rdropWhile_eq_self_iff]
  intro hne
  rw [h _ (List.getLast?_eq_some_getLast hne)]
  exact Bool.false_ne_true

theorem exists_append_trim (p : Char → Bool) (t : Text) : ∃ before after : Text,
    t = before ++ t.trim p ++ after ∧ (∀ c ∈ before, p c = true) ∧ ∀ c ∈ after, p c = true := by
  have hsplit : t.trim p ++ (t.dropWhile p).rtakeWhile p = t.dropWhile p :=
    List.rdropWhile_append_rtakeWhile
  refine ⟨t.takeWhile p, (t.dropWhile p).rtakeWhile p, ?_, fun _ ↦ List.mem_takeWhile_imp,
    fun _ ↦ List.mem_rtakeWhile_imp⟩
  rw [List.append_assoc, hsplit, List.takeWhile_append_dropWhile]

/-- What trimming leaves is a part of the text that begins and ends outside `p`. -/
theorem exists_trim (p : Char → Bool) (t : Text) :
    (∃ before after : Text, t = before ++ t.trim p ++ after) ∧
      (∀ c ∈ (t.trim p).head?, p c = false) ∧ ∀ c ∈ (t.trim p).getLast?, p c = false := by
  have hsplit : t.trim p ++ (t.dropWhile p).rtakeWhile p = t.dropWhile p :=
    List.rdropWhile_append_rtakeWhile
  obtain ⟨before, after, hparts, -, -⟩ := exists_append_trim p t
  refine ⟨⟨before, after, hparts⟩, ?_, ?_⟩
  · intro c hc
    refine eq_false_of_mem_head?_dropWhile (l := t) ?_
    rw [← hsplit, List.head?_append, Option.mem_def.mp hc]
    rfl
  · intro c hc
    have hne : (t.dropWhile p).rdropWhile p ≠ [] := by
      rintro hnil
      rw [trim, trimEnd, ← List.rdropWhile, hnil] at hc
      cases hc
    have hlast := List.rdropWhile_last_not p _ hne
    rw [trim, trimEnd, ← List.rdropWhile, List.getLast?_eq_some_getLast hne] at hc
    rw [← Option.some_inj.mp hc]
    exact Bool.eq_false_iff.mpr hlast

theorem trim_append {before t after : Text} (hbefore : ∀ c ∈ before, p c = true)
    (hafter : ∀ c ∈ after, p c = true) (hne : t ≠ []) (hhead : ∀ c ∈ t.head?, p c = false)
    (hlast : ∀ c ∈ t.getLast?, p c = false) : (before ++ t ++ after).trim p = t := by
  have hdrop : (before ++ t ++ after).dropWhile p = t ++ after := by
    rw [List.append_assoc, List.dropWhile_append_of_pos hbefore, dropWhile_eq_self]
    rwa [List.head?_append_of_ne_nil _ hne]
  have hrdrop : (t ++ after).rdropWhile p = t.rdropWhile p := by
    rw [List.rdropWhile, List.reverse_append, List.dropWhile_append_of_pos, List.rdropWhile]
    intro c hc
    exact hafter c (List.mem_reverse.mp hc)
  rw [trim, hdrop, trimEnd, ← List.rdropWhile, hrdrop, rdropWhile_eq_self hlast]

theorem trim_eq_nil_iff {t : Text} : t.trim p = [] ↔ ∀ c ∈ t, p c = true := by
  rw [← List.dropWhile_eq_nil_iff, trim, trimEnd, ← List.rdropWhile, List.rdropWhile_eq_nil_iff]
  constructor
  · intro hall
    cases hdrop : t.dropWhile p with
    | nil => rfl
    | cons c rest =>
      have hhead : p c = false := eq_false_of_mem_head?_dropWhile (by rw [hdrop]; rfl)
      rw [hdrop] at hall
      exact absurd (hall c List.mem_cons_self) (Bool.eq_false_iff.mp hhead)
  · intro hnil c hc
    rw [hnil] at hc
    cases hc

theorem splitAtFirst_eq_some_iff {t before behind : Text} :
    t.splitAtFirst p = some (before, behind) ↔
      ∃ c, t = before ++ c :: behind ∧ p c = true ∧ ∀ d ∈ before, p d = false := by
  constructor
  · intro h
    induction t generalizing before with
    | nil => cases h
    | cons c t ih =>
      rw [splitAtFirst] at h
      split at h
      · next hc =>
        obtain ⟨rfl, rfl⟩ := Prod.mk.inj (Option.some_inj.mp h)
        exact ⟨c, rfl, hc, List.forall_mem_nil _⟩
      · next hc =>
        obtain ⟨⟨first, second⟩, hsplit, heq⟩ := Option.map_eq_some_iff.mp h
        obtain ⟨rfl, rfl⟩ := Prod.mk.inj heq
        obtain ⟨d, rfl, hd, hfirst⟩ := ih hsplit
        exact ⟨d, rfl, hd, List.forall_mem_cons.mpr ⟨Bool.eq_false_iff.mpr hc, hfirst⟩⟩
  · rintro ⟨c, rfl, hc, hbefore⟩
    induction before with
    | nil => exact if_pos hc
    | cons d before ih =>
      obtain ⟨hd, hbefore⟩ := List.forall_mem_cons.mp hbefore
      rw [List.cons_append, splitAtFirst, if_neg (Bool.eq_false_iff.mp hd), ih hbefore]
      rfl

theorem splitAtFirst_beq_eq_some_iff {c : Char} {t before behind : Text} :
    t.splitAtFirst (· == c) = some (before, behind) ↔ t = before ++ c :: behind ∧ c ∉ before := by
  rw [splitAtFirst_eq_some_iff]
  constructor
  · rintro ⟨d, rfl, hd, hbefore⟩
    obtain rfl := beq_iff_eq.mp hd
    exact ⟨rfl, fun hmem ↦ absurd rfl (beq_eq_false_iff_ne.mp (hbefore d hmem))⟩
  · rintro ⟨rfl, hbefore⟩
    exact ⟨c, rfl, BEq.rfl, fun d hd ↦ beq_eq_false_iff_ne.mpr fun heq ↦ hbefore (heq ▸ hd)⟩

end Text

/-! ## Where a literal ends -/

theorem endsLiteral_cons (c : Char) (t : Text) :
    endsLiteral (c :: t) = (Operator.lookup (c :: t)).isSome := by
  rw [endsLiteral]
  cases hlook : (Operator.lookup (c :: t)).isSome with
  | false => rw [Bool.and_false]
  | true =>
    obtain ⟨op, hop⟩ := Operator.lookup_isSome_iff.mp hlook
    have hhead : c ∈ op.symbol.head? := by
      obtain ⟨z, hz⟩ := hop
      cases hsym : op.symbol with
      | nil => exact absurd hsym op.symbol_ne_nil
      | cons d s =>
        rw [hsym, List.cons_append, List.cons.injEq] at hz
        rw [hz.1]
        exact rfl
    rw [op.isAlphanum_of_mem_head?_symbol hhead]
    rfl

theorem endsLiteral_symbol_append (op : Operator) (t : Text) :
    endsLiteral (op.symbol ++ t) = true := by
  cases hsym : op.symbol with
  | nil => exact absurd hsym op.symbol_ne_nil
  | cons c s =>
    rw [List.cons_append, endsLiteral_cons, Operator.lookup_isSome_iff]
    exact ⟨op, by rw [hsym, ← List.cons_append]; exact List.prefix_append _ _⟩

/-- No operator begins inside `passed` when the text goes on with `remaining`. The continuation
matters, since a symbol may begin in the one and end in the other. -/
def Passes (passed remaining : Text) : Prop :=
  ∀ s, s <:+ passed → s ≠ [] → Operator.lookup (s ++ remaining) = none

theorem passes_splitLiteral (t : Text) : Passes (splitLiteral t).1 (splitLiteral t).2 := by
  intro s hs hne
  induction t with
  | nil => exact absurd (List.suffix_nil.mp hs) hne
  | cons c t ih =>
    have hwhole := splitLiteral_append (c :: t)
    rw [splitLiteral] at hs hwhole ⊢
    split at hs
    · exact absurd (List.suffix_nil.mp hs) hne
    · next hend =>
      rw [if_neg hend] at hwhole ⊢
      rcases List.suffix_cons_iff.mp hs with rfl | hs
      · rw [hwhole, ← Option.not_isSome_iff_eq_none, ← endsLiteral_cons]
        exact hend
      · exact ih hs

theorem splitLiteral_of_endsLiteral {t : Text} (h : endsLiteral t = true) :
    splitLiteral t = ([], t) := by
  cases t with
  | nil => rfl
  | cons c t => rw [splitLiteral, if_pos h]

theorem splitLiteral_eq {passed remaining : Text} (hpassed : Passes passed remaining)
    (hremaining : endsLiteral remaining = true) :
    splitLiteral (passed ++ remaining) = (passed, remaining) := by
  induction passed with
  | nil => exact splitLiteral_of_endsLiteral hremaining
  | cons c t ih =>
    have hhere := hpassed (c :: t) List.suffix_rfl (List.cons_ne_nil c t)
    have hrec := ih fun s hs ↦ hpassed s (hs.trans (List.suffix_cons c t))
    rw [List.cons_append] at hhere ⊢
    rw [splitLiteral, endsLiteral_cons, hhere, if_neg (by simp), hrec]

/-- Where a text is split does not depend on what follows it, if that begins with an operator and a
character that separates. -/
theorem splitLiteral_append_of_separates {t : Text} (hseam : ∀ c ∈ t.head?,
    Operator.separates c = true) (hends : endsLiteral t = true) (s : Text) :
    splitLiteral (s ++ t) = ((splitLiteral s).1, (splitLiteral s).2 ++ t) := by
  induction s with
  | nil => exact splitLiteral_of_endsLiteral hends
  | cons c s ih =>
    have hhere : endsLiteral (c :: (s ++ t)) = endsLiteral (c :: s) := by
      rw [endsLiteral_cons, endsLiteral_cons, ← List.cons_append,
        Operator.lookup_append_of_separates (List.cons_ne_nil c s) hseam]
    rw [List.cons_append, splitLiteral, splitLiteral, hhere]
    split
    · rfl
    · rw [ih]

theorem Passes.append {t u remaining : Text} (ht : Passes t (u ++ remaining))
    (hu : Passes u remaining) : Passes (t ++ u) remaining := by
  intro s hs hne
  rcases List.suffix_or_suffix_of_suffix hs (List.suffix_append t u) with hsu | ⟨v, rfl⟩
  · exact hu s hsu hne
  · rcases eq_or_ne v [] with rfl | hv
    · exact hu u List.suffix_rfl hne
    · obtain ⟨w, hw⟩ := hs
      rw [← List.append_assoc, List.append_left_inj] at hw
      rw [List.append_assoc]
      exact ht v ⟨w, hw⟩ hv

theorem AllBlank.passes {gap : Text} (hgap : AllBlank gap) (remaining : Text) :
    Passes gap remaining := by
  intro s hs hne
  cases s with
  | nil => exact absurd rfl hne
  | cons c s => exact Operator.lookup_cons_of_isBlank (hgap c (hs.subset List.mem_cons_self)) _

theorem IsToken.passes {t remaining : Text} (ht : IsToken t)
    (hseam : ∀ c ∈ remaining.head?, Operator.separates c = true) : Passes t remaining :=
  fun _ hs hne ↦ (Operator.lookup_append_of_separates hne hseam).trans (ht.lookup_suffix hs)

/-! ## Reading literals -/

namespace Scanner

/-- Every literal that the scanner returns is a token. -/
theorem isToken_of_readLiteral {s next : Scanner} {token : Text}
    (h : s.readLiteral = (some token, next)) : IsToken token := by
  obtain ⟨⟨before, after, hparts⟩, hhead, hlast⟩ :=
    Text.exists_trim isBlank (splitLiteral s.rest).1
  have htoken : (splitLiteral s.rest).1.trimBlanks = token ∧ token ≠ [] := by
    have hfst := congrArg Prod.fst h
    rw [readLiteral] at hfst
    dsimp only at hfst
    split at hfst
    · cases hfst
    · next hne =>
      rw [Option.some_inj] at hfst
      subst hfst
      exact ⟨rfl, by simpa using hne⟩
  obtain ⟨htrim, hne⟩ := htoken
  rw [Text.trimBlanks] at htrim
  rw [htrim] at hparts hhead hlast
  refine ⟨hne, hhead, hlast, Operator.occurringAt_eq_nil_iff.mpr fun u hu ↦ ?_⟩
  rcases eq_or_ne u [] with rfl | hu'
  · exact Operator.lookup_nil
  · -- A symbol at the beginning of `u` would be one inside the text that was passed over.
    have hsuffix : u ++ after <:+ (splitLiteral s.rest).1 := by
      obtain ⟨v, rfl⟩ := hu
      exact ⟨before ++ v, by rw [hparts]; simp only [List.append_assoc]⟩
    have hnone := passes_splitLiteral _ _ hsuffix (List.append_ne_nil_of_left_ne_nil hu' _)
    rw [Operator.lookup_eq_none_iff] at hnone ⊢
    intro op hop
    rw [List.append_assoc] at hnone
    exact hnone op (hop.trans (List.prefix_append _ _))

theorem readLiteral_blanks {gap remaining : Text} {position : Nat} (hgap : AllBlank gap)
    (hremaining : endsLiteral remaining = true) :
    readLiteral ⟨gap ++ remaining, position⟩
      = (none, ⟨remaining, position + Text.byteLength gap⟩) := by
  have hsplit := splitLiteral_eq (hgap.passes remaining) hremaining
  have htrim : Text.trimBlanks gap = [] := Text.trim_eq_nil_iff.mpr hgap
  rw [readLiteral]
  simp only [hsplit, htrim]
  rfl

/-- A token between blanks is read as it is. Behind it the text either ends or goes on with an
operator, and a blank or a parenthesis comes first. -/
theorem readLiteral_append {before token after remaining : Text} {position : Nat}
    (hbefore : AllBlank before) (htoken : IsToken token) (hafter : AllBlank after)
    (hremaining : endsLiteral remaining = true)
    (hseam : ∀ c ∈ (after ++ remaining).head?, Operator.separates c = true) :
    readLiteral ⟨before ++ token ++ after ++ remaining, position⟩
      = (some token, ⟨remaining, position + Text.byteLength (before ++ token ++ after)⟩) := by
  have hpasses : Passes (before ++ token ++ after) remaining :=
    ((hbefore.passes _).append (htoken.passes hseam)).append (hafter.passes _)
  have hsplit := splitLiteral_eq hpasses hremaining
  have htrim : Text.trimBlanks (before ++ token ++ after) = token :=
    Text.trim_append hbefore hafter htoken.ne_nil htoken.head_not_blank htoken.last_not_blank
  rw [readLiteral]
  simp only [hsplit, htrim, List.isEmpty_eq_false_iff.mpr htoken.ne_nil]
  rfl

theorem readLiteral_append_of_separates {t : Text}
    (hseam : ∀ c ∈ t.head?, Operator.separates c = true) (hends : endsLiteral t = true)
    (s : Scanner) (position : Nat) : ∃ position', readLiteral ⟨s.rest ++ t, position⟩
      = (s.readLiteral.1, ⟨s.readLiteral.2.rest ++ t, position'⟩) := by
  refine ⟨position + Text.byteLength (splitLiteral s.rest).1, ?_⟩
  simp only [readLiteral, splitLiteral_append_of_separates hseam hends]

end Scanner

end Placement
