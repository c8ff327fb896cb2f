import Mathlib.Data.List.DropRight
import Mathlib.Data.List.Nodup
import Mathlib.Data.List.Perm.Subperm
import Placement.Proofs.Lookup

/-!
# Environments are ordered maps

After any operations, what an environment holds can be read off the operations themselves. For a
single name only that part of its history counts that came after it was last removed (`since`).
There the *last* definition gives the value (`lastValue?`), and the *first* one gives the place
among the other names (`birth`).

The two pull in different directions: a name that is defined again gets a new value and keeps its
place. So both are carried in one invariant (`Recounts`), which holds of the empty environment and
is kept by every change.

## Operations and changes

Some operations differ only in what they answer, and one of them changes many names. Histories are
therefore lists of *changes*, each of which is about one name or about all of them.
-/

namespace Placement

namespace Environment

/-! ## Operations -/

/-- An operation on an environment. Building one up by a further property is `define` as well. -/
inductive Operation
  | define (name value : Text)
  | extend (properties : List (Text × Text))
  | take (name : Text)
  | remove (name : Text)
  | clear
  deriving DecidableEq, Repr

def perform (env : Environment) : Operation → Environment
  | .define name value => env.define name value
  | .extend properties => env.extend properties
  | .take name => (env.take name).2
  | .remove name => (env.remove name).2
  | .clear => empty

/-- The environment after some operations, empty at first. -/
def after (operations : List Operation) : Environment := operations.foldl perform empty

/-- A change of one name, or of all. -/
inductive Change
  | define (name value : Text)
  | remove (name : Text)
  | clear
  deriving DecidableEq, Repr

def change (env : Environment) : Change → Environment
  | .define name value => env.define name value
  | .remove name => env.erase name
  | .clear => empty

/-- The changes that an operation consists of. -/
def Operation.changes : Operation → List Change
  | define name value => [.define name value]
  | extend properties => properties.map fun (name, value) ↦ .define name value
  | take name | remove name => [.remove name]
  | clear => [.clear]

theorem perform_eq_foldl (env : Environment) (operation : Operation) :
    env.perform operation = operation.changes.foldl change env := by
  cases operation with
  | extend properties =>
    rw [Operation.changes, List.foldl_map]
    rfl
  | define | take | remove | clear => rfl

theorem foldl_perform (operations : List Operation) (env : Environment) :
    operations.foldl perform env = (operations.flatMap Operation.changes).foldl change env := by
  induction operations generalizing env with
  | nil => rfl
  | cons operation operations ih =>
    rw [List.foldl_cons, ih, perform_eq_foldl, List.flatMap_cons, List.foldl_append]

/-! ## Histories -/

/-- Whether a name is not defined after a change, whatever was before. -/
def Change.forgets (name : Text) : Change → Bool
  | define _ _ => false
  | remove n => n == name
  | clear => true

def Change.value? (name : Text) : Change → Option Text
  | define n value => if n = name then some value else none
  | remove _ | clear => none

/-- What happened since a name was last removed. -/
def since (name : Text) (history : List Change) : List Change :=
  history.rtakeWhile (!·.forgets name)

/-- The last definition of a name since it was last removed. -/
def lastValue? (name : Text) (history : List Change) : Option Text :=
  ((since name history).filterMap (·.value? name)).getLast?

/-- Where in a history a name was first defined since it was last removed. -/
def birth (name : Text) (history : List Change) : Nat :=
  history.length - (since name history).length
    + (since name history).findIdx fun c ↦ (c.value? name).isSome

section Histories

variable {name : Text} {history : List Change} {c : Change}

theorem since_concat (name : Text) (history : List Change) (c : Change) :
    since name (history ++ [c]) = if c.forgets name then [] else since name history ++ [c] := by
  rw [since, List.rtakeWhile_concat]
  cases c.forgets name <;> rfl

theorem length_since_le (name : Text) (history : List Change) :
    (since name history).length ≤ history.length :=
  (List.rtakeWhile_suffix _ _).length_le

theorem lastValue?_concat (name : Text) (history : List Change) (c : Change) :
    lastValue? name (history ++ [c])
      = if c.forgets name then none else (c.value? name).or (lastValue? name history) := by
  rw [lastValue?, since_concat]
  by_cases h : c.forgets name
  · rw [if_pos h, if_pos h]
    rfl
  · rw [if_neg h, if_neg h, List.filterMap_append, List.getLast?_append, lastValue?]
    cases hvalue : c.value? name <;> simp [hvalue]

theorem lastValue?_isSome_iff :
    (lastValue? name history).isSome ↔ ∃ c ∈ since name history, (c.value? name).isSome := by
  rw [lastValue?, Option.isSome_iff_ne_none, ne_eq, List.getLast?_eq_none_iff,
    List.filterMap_eq_nil_iff]
  simp only [not_forall, exists_prop, Option.isSome_iff_ne_none, ne_eq]

private theorem findIdx_lt_of_isSome (h : (lastValue? name history).isSome) :
    (since name history).findIdx (fun c ↦ (c.value? name).isSome)
      < (since name history).length :=
  List.findIdx_lt_length.mpr (lastValue?_isSome_iff.mp h)

theorem birth_lt (h : (lastValue? name history).isSome) : birth name history < history.length := by
  have hfind := findIdx_lt_of_isSome h
  have hsince := length_since_le name history
  rw [birth]
  omega

/-- Later changes do not move the birth of a name, unless they remove it. -/
theorem birth_concat (h : (lastValue? name history).isSome) (hc : c.forgets name = false) :
    birth name (history ++ [c]) = birth name history := by
  have hfind := findIdx_lt_of_isSome h
  rw [birth, since_concat, hc, if_neg Bool.false_ne_true, List.findIdx_append, if_pos hfind,
    List.length_append, List.length_append, List.length_singleton, Nat.add_sub_add_right, birth]

/-- A name that has no value is born where it is defined next. -/
theorem birth_concat_define (h : lastValue? name history = none) (value : Text) :
    birth name (history ++ [.define name value]) = history.length := by
  have hfind : (since name history).findIdx (fun c ↦ (c.value? name).isSome)
      = (since name history).length := by
    refine List.findIdx_eq_length.mpr fun c hc ↦ ?_
    rw [Bool.eq_false_iff]
    intro hvalue
    have hsome := lastValue?_isSome_iff.mpr ⟨c, hc, hvalue⟩
    rw [h] at hsome
    cases hsome
  have hsince := length_since_le name history
  rw [birth, since_concat, Change.forgets, if_neg Bool.false_ne_true, List.findIdx_append, hfind,
    if_neg (Nat.lt_irrefl _), List.length_append, List.length_append]
  simp [Change.value?]
  omega

end Histories

/-! ## The invariant -/

/-- An environment holds what a history says: every name has the value last given to it, and the
names stand in the order of their births. -/
structure Recounts (env : Environment) (history : List Change) : Prop where
  get?_eq (name : Text) : env.get? name = lastValue? name history
  births : env.names.Pairwise fun a b ↦ birth a history < birth b history

theorem recounts_empty : Recounts empty [] := ⟨fun _ ↦ rfl, List.Pairwise.nil⟩

namespace Recounts

variable {env : Environment} {history : List Change} {name : Text}

theorem isSome_of_mem (h : Recounts env history) (hname : name ∈ env.names) :
    (lastValue? name history).isSome := by
  rw [← h.get?_eq]
  exact mem_names_iff.mp hname

/-- A change that forgets none of some names keeps their order. -/
theorem births_concat (h : Recounts env history) {c : Change} {names : List Text}
    (hsub : names.Sublist env.names) (hc : ∀ name ∈ names, c.forgets name = false) :
    names.Pairwise fun a b ↦ birth a (history ++ [c]) < birth b (history ++ [c]) := by
  refine (h.births.sublist hsub).imp_of_mem fun {a b} ha hb hab ↦ ?_
  rw [birth_concat (h.isSome_of_mem (hsub.subset ha)) (hc a ha),
    birth_concat (h.isSome_of_mem (hsub.subset hb)) (hc b hb)]
  exact hab

theorem define (h : Recounts env history) (name value : Text) :
    Recounts (env.define name value) (history ++ [.define name value]) := by
  constructor
  · intro key
    rw [get?_define, lastValue?_concat, Change.forgets, if_neg Bool.false_ne_true, Change.value?,
      h.get?_eq]
    by_cases hkey : key = name
    · simp [hkey]
    · simp [hkey, Ne.symm hkey]
  · have hold := h.births_concat (List.Sublist.refl _) (c := .define name value) fun _ _ ↦ rfl
    rw [names_define]
    split
    · exact hold
    · next hnew =>
      -- A new name comes last, and is born later than all the others.
      have hnone : lastValue? name history = none := by
        rw [← h.get?_eq, ← Option.not_isSome_iff_eq_none, ← mem_names_iff]
        exact hnew
      refine List.pairwise_append.mpr ⟨hold, List.pairwise_singleton _ _, fun a ha b hb ↦ ?_⟩
      rw [List.mem_singleton] at hb
      subst hb
      rw [birth_concat_define hnone, birth_concat (h.isSome_of_mem ha) rfl]
      exact birth_lt (h.isSome_of_mem ha)

theorem erase (h : Recounts env history) (name : Text) :
    Recounts (env.erase name) (history ++ [.remove name]) := by
  constructor
  · intro key
    rw [get?_erase, lastValue?_concat, Change.forgets, Change.value?, h.get?_eq, Option.none_or]
    by_cases hkey : key = name
    · rw [if_pos hkey, if_pos (beq_iff_eq.mpr hkey.symm)]
    · rw [if_neg hkey, beq_false_of_ne (Ne.symm hkey), if_neg Bool.false_ne_true]
  · rw [names_erase]
    refine h.births_concat List.filter_sublist fun a ha ↦ ?_
    have hne : a ≠ name := by simpa using (List.mem_filter.mp ha).2
    rw [Change.forgets, beq_false_of_ne hne.symm]

theorem change (h : Recounts env history) (c : Change) :
    Recounts (env.change c) (history ++ [c]) := by
  cases c with
  | define name value => exact h.define name value
  | remove name => exact h.erase name
  | clear =>
    refine ⟨fun name ↦ ?_, List.Pairwise.nil⟩
    rw [lastValue?_concat, Change.forgets, if_pos rfl]
    rfl

theorem foldl_change (h : Recounts env history) (changes : List Change) :
    Recounts (changes.foldl Environment.change env) (history ++ changes) := by
  induction changes generalizing env history with
  | nil =>
    rw [List.append_nil]
    exact h
  | cons c changes ih =>
    have hrest := ih (h.change c)
    rw [List.append_assoc] at hrest
    exact hrest

end Recounts

theorem recounts_after (operations : List Operation) :
    Recounts (after operations) (operations.flatMap Operation.changes) := by
  rw [after, foldl_perform]
  exact recounts_empty.foldl_change _

/-! ## Comparing environments -/

theorem nodup_entries (env : Environment) : env.entries.Nodup :=
  List.Nodup.of_map Prod.fst env.nodup_names

theorem sameProperties_iff {env env' : Environment} : env.sameProperties env' = true ↔
    ∀ entry, entry ∈ env.entries ↔ entry ∈ env'.entries := by
  have hall : (env.entries.all fun (name, value) ↦ env'.get? name == some value) = true ↔
      env.entries ⊆ env'.entries := by
    rw [List.all_eq_true]
    refine forall₂_congr fun entry _ ↦ ?_
    rw [beq_iff_eq, get?_eq_some_iff]
  rw [sameProperties, Bool.and_eq_true, beq_iff_eq, hall, size, size]
  constructor
  · -- As many entries, and all of them: there is no room for others.
    rintro ⟨hlength, hsub⟩ entry
    exact ((List.subperm_of_subset env.nodup_entries hsub).perm_of_length_le hlength.ge).mem_iff
  · intro h
    have hperm := (List.perm_ext_iff_of_nodup env.nodup_entries env'.nodup_entries).mpr h
    exact ⟨hperm.length_eq, hperm.subset⟩

/-! ## The result -/

/-- **Ordered maps.** After any operations the names are distinct, each has the value of its last
definition since it was last removed, and they stand in the order of their first definitions since
then. So defining a name again keeps its place, and removing one keeps the order of the others.
Taking and removing answer for what was there, and two environments are equal if they have the same
entries, in whatever order. -/
theorem ordered_map (operations : List Operation) :
    let env := after operations
    let history := operations.flatMap Operation.changes
    env.names.Nodup ∧
      (∀ name, env.get? name = lastValue? name history) ∧
      (∀ name, (env.take name).1 = env.get? name ∧ (env.remove name).1 = env.contains name) ∧
      (env.names.Pairwise fun a b ↦ birth a history < birth b history) ∧
      (∀ name value, (env.define name value).names
        = if name ∈ env.names then env.names else env.names ++ [name]) ∧
      (∀ name, (env.take name).2.names = env.names.filter (· ≠ name) ∧
        (env.remove name).2.names = env.names.filter (· ≠ name)) ∧
      ∀ env' : Environment, env.sameProperties env' = true ↔
        ∀ entry, entry ∈ env.entries ↔ entry ∈ env'.entries := by
  intro env history
  have h : Recounts env history := recounts_after operations
  exact ⟨env.nodup_names, h.get?_eq, fun name ↦ ⟨rfl, rfl⟩, h.births, names_define env,
    fun name ↦ ⟨names_erase env name, names_erase env name⟩, fun env' ↦ sameProperties_iff⟩

-- The first name keeps its place with a new value, and the second loses it by being removed.
example : (after [.extend [(['a'], ['1']), (['b'], ['2']), (['c'], ['3'])], .define ['a'] ['4'],
    .remove ['b'], .define ['b'] ['5']]).entries
      = [(['a'], ['4']), (['c'], ['3']), (['b'], ['5'])] := by decide

end Environment

end Placement
