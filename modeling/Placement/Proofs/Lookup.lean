import Placement.Environment

/-!
# Looking properties up

Since names are distinct, the value of a property is a matter of which entries there are, not of
where they stand (`Environment.get?_eq_some_iff`). Defining a property gives it its value and leaves
every other one as it was.

Where names stand is a matter of their own: one that is defined again keeps its place, and a new one
comes last (`Environment.names_define`). So entries with distinct names define an environment that
has just these entries (`Environment.ofList_entries`).
-/

namespace Placement

namespace Environment

variable {name value : Text}

theorem lookup_eq_some_iff_mem {es : List (Text × Text)} (h : (es.map Prod.fst).Nodup) :
    es.lookup name = some value ↔ (name, value) ∈ es := by
  induction es with
  | nil => simp
  | cons entry es ih =>
    obtain ⟨n, v⟩ := entry
    rw [List.map_cons, List.nodup_cons] at h
    rw [List.lookup_cons, List.mem_cons]
    by_cases heq : name = n
    · subst heq
      have hnot : (name, value) ∉ es := fun hmem ↦
        h.1 (List.mem_map.mpr ⟨_, hmem, rfl⟩)
      simp [hnot, eq_comm]
    · rw [beq_false_of_ne heq]
      simp [ih h.2, heq]

theorem get?_eq_some_iff {env : Environment} :
    env.get? name = some value ↔ (name, value) ∈ env.entries :=
  lookup_eq_some_iff_mem env.nodup_names

theorem get?_eq_of_perm {env env' : Environment} (h : env.entries.Perm env'.entries)
    (name : Text) : env.get? name = env'.get? name := by
  ext value
  rw [get?_eq_some_iff, get?_eq_some_iff, h.mem_iff]

theorem lookup_insertEntry (name value key : Text) (es : List (Text × Text)) :
    (insertEntry name value es).lookup key = if key = name then some value else es.lookup key := by
  induction es with
  | nil =>
    rw [insertEntry, List.lookup_cons]
    by_cases hkey : key = name
    · simp [hkey]
    · simp [beq_false_of_ne hkey, hkey]
  | cons entry es ih =>
    obtain ⟨n, v⟩ := entry
    rw [insertEntry]
    by_cases hname : n = name
    · subst hname
      rw [if_pos rfl, List.lookup_cons, List.lookup_cons]
      by_cases hkey : key = n
      · simp [hkey]
      · simp [beq_false_of_ne hkey, hkey]
    · rw [if_neg hname, List.lookup_cons, List.lookup_cons, ih]
      by_cases hkey : key = n
      · subst hkey
        simp [hname]
      · rw [beq_false_of_ne hkey]

theorem get?_define (env : Environment) (name value key : Text) :
    (env.define name value).get? key = if key = name then some value else env.get? key :=
  lookup_insertEntry name value key env.entries

theorem get?_erase (env : Environment) (name key : Text) :
    (env.erase name).get? key = if key = name then none else env.get? key := by
  ext value
  rw [get?_eq_some_iff, erase, List.mem_filter]
  by_cases h : key = name
  · simp [h]
  · simp [h, get?_eq_some_iff]

/-- Defining other properties changes nothing for this one. -/
theorem get?_extend {properties : List (Text × Text)} {key : Text}
    (h : ∀ entry ∈ properties, entry.1 ≠ key) (env : Environment) :
    (env.extend properties).get? key = env.get? key := by
  induction properties generalizing env with
  | nil => rfl
  | cons entry properties ih =>
    obtain ⟨hentry, hrest⟩ := List.forall_mem_cons.mp h
    have hstep := ih hrest (env.define entry.1 entry.2)
    rw [get?_define, if_neg hentry.symm] at hstep
    exact hstep

/-! ## The names

A name keeps its place when it is defined again, and comes last when it is new. -/

theorem names_define (env : Environment) (name value : Text) :
    (env.define name value).names
      = if name ∈ env.names then env.names else env.names ++ [name] :=
  map_fst_insertEntry name value env.entries

theorem names_erase (env : Environment) (name : Text) :
    (env.erase name).names = env.names.filter (· ≠ name) := by
  rw [names, names, erase, List.filter_map]
  rfl

theorem mem_names_iff {env : Environment} : name ∈ env.names ↔ (env.get? name).isSome := by
  rw [Option.isSome_iff_exists]
  simp only [get?_eq_some_iff, names, List.mem_map, Prod.exists, exists_and_right,
    exists_eq_right]

/-! ## Building environments up

Properties of new and distinct names are put behind those that are there, as they are. -/

theorem insertEntry_of_notMem {es : List (Text × Text)} (h : name ∉ es.map Prod.fst) :
    insertEntry name value es = es ++ [(name, value)] := by
  induction es with
  | nil => rfl
  | cons entry es ih =>
    obtain ⟨n, v⟩ := entry
    rw [List.map_cons, List.mem_cons, not_or] at h
    rw [insertEntry, if_neg (Ne.symm h.1), ih h.2, List.cons_append]

theorem entries_extend {properties : List (Text × Text)} {env : Environment}
    (h : ((env.entries ++ properties).map Prod.fst).Nodup) :
    (env.extend properties).entries = env.entries ++ properties := by
  induction properties generalizing env with
  | nil => exact (List.append_nil _).symm
  | cons entry properties ih =>
    obtain ⟨n, v⟩ := entry
    have hnew : n ∉ env.entries.map Prod.fst := by
      rw [List.map_append, List.nodup_append] at h
      exact fun hmem ↦ h.2.2 n hmem n List.mem_cons_self rfl
    have hdefine : (env.define n v).entries = env.entries ++ [(n, v)] := insertEntry_of_notMem hnew
    have hrest : ((env.define n v).extend properties).entries
        = (env.define n v).entries ++ properties := by
      refine ih ?_
      rw [hdefine, List.append_assoc]
      exact h
    rw [hdefine, List.append_assoc] at hrest
    exact hrest

/-- The entries of an environment define it. -/
theorem ofList_entries (env : Environment) : ofList env.entries = env := by
  ext1
  exact entries_extend env.nodup_names

end Environment

end Placement
