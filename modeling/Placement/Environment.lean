import Placement.Text.Basic

/-!
# Environments

The properties that a constraint is evaluated against: names with values, in the order in which
the names were first defined. Defining a name again keeps its place, and taking a name out keeps
the order of the others.

Names are distinct. This is part of the type, so that looking a name up, taking it out and listing
what is left all speak of the same entry.
-/

namespace Placement

/-- Named properties in the order of their first definition. -/
structure Environment where
  entries : List (Text × Text)
  /-- No name occurs twice. -/
  nodup_names : (entries.map Prod.fst).Nodup
  deriving DecidableEq

namespace Environment

/-- No properties. -/
def empty : Environment := ⟨[], List.nodup_nil⟩

instance : Inhabited Environment := ⟨empty⟩

@[ext] theorem ext {e e' : Environment} (h : e.entries = e'.entries) : e = e' := by
  cases e; cases e'; cases h; rfl

/-! ## Asking -/

/-- The names, in order. -/
def names (e : Environment) : List Text := e.entries.map Prod.fst

/-- The value of a property. -/
def get? (e : Environment) (name : Text) : Option Text := e.entries.lookup name

/-- Whether a property is defined. -/
def contains (e : Environment) (name : Text) : Bool := (e.get? name).isSome

def size (e : Environment) : Nat := e.entries.length

def isEmpty (e : Environment) : Bool := e.entries.isEmpty

/-- Whether two environments define the same names with the same values, in whatever order. -/
def sameProperties (e e' : Environment) : Bool :=
  e.size == e'.size && e.entries.all fun (name, value) ↦ e'.get? name == some value

/-- The entries ordered by name. -/
def sortedEntries (e : Environment) : List (Text × Text) :=
  e.entries.mergeSort fun p q ↦ (compare p.1 q.1).isLE

/-! ## Changing -/

/-- Put a value in the place of the old one, or at the end if there is none. -/
def insertEntry (name value : Text) : List (Text × Text) → List (Text × Text)
  | [] => [(name, value)]
  | (n, v) :: rest =>
    if n = name then (name, value) :: rest else (n, v) :: insertEntry name value rest

theorem map_fst_insertEntry (name value : Text) (es : List (Text × Text)) :
    (insertEntry name value es).map Prod.fst =
      if name ∈ es.map Prod.fst then es.map Prod.fst else es.map Prod.fst ++ [name] := by
  induction es with
  | nil => rfl
  | cons e rest ih =>
    obtain ⟨n, v⟩ := e
    rw [insertEntry]
    by_cases h : n = name
    · simp [h]
    · rw [if_neg h, List.map_cons, ih]
      have h' : name ≠ n := Ne.symm h
      by_cases hmem : name ∈ rest.map Prod.fst <;> simp_all

theorem nodup_insertEntry (name value : Text) {es : List (Text × Text)}
    (h : (es.map Prod.fst).Nodup) : ((insertEntry name value es).map Prod.fst).Nodup := by
  rw [map_fst_insertEntry]
  split
  · exact h
  · next hnot =>
    rw [List.nodup_append]
    refine ⟨h, by simp, ?_⟩
    intro a ha b hb hab
    rw [List.mem_singleton] at hb
    exact hnot (hb ▸ hab ▸ ha)

/-- Define a property, replacing any value it had. -/
def define (e : Environment) (name value : Text) : Environment :=
  ⟨insertEntry name value e.entries, nodup_insertEntry name value e.nodup_names⟩

/-- Define one property after another. -/
def extend (e : Environment) (properties : List (Text × Text)) : Environment :=
  properties.foldl (fun e (name, value) ↦ e.define name value) e

/-- The environment that defines these properties one after another. -/
def ofList (properties : List (Text × Text)) : Environment := empty.extend properties

/-- Leave a property out, keeping the others in order. -/
def erase (e : Environment) (name : Text) : Environment :=
  ⟨e.entries.filter (·.1 ≠ name), (List.filter_sublist.map Prod.fst).nodup e.nodup_names⟩

/-- The value of a property, and the environment without it. -/
def take (e : Environment) (name : Text) : Option Text × Environment :=
  (e.get? name, e.erase name)

/-- Whether a property was defined, and the environment without it. -/
def remove (e : Environment) (name : Text) : Bool × Environment :=
  let (value, e) := e.take name
  (value.isSome, e)

end Environment

end Placement
