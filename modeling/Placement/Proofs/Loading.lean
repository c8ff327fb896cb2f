import Placement.Command.Program
import Placement.Proofs.JsonGrammar

/-!
# Properties from a file and from the command line

Properties come from two sources, each of which may define a name more than once, and both go
through the same insertions, the file first. What counts for the value of a name is its last
definition of all, and what counts for its place is the first one (`Environment.get?_ofList`,
`Environment.names_ofList`): a property of the file that the command line overrides stays where the
file has it.

What a file holds is said by the grammar of objects of strings, so that `load_merges` speaks of
every text that is one, with the members that it writes.
-/

namespace Placement

namespace Environment

theorem ofList_append (properties more : List (Text × Text)) :
    ofList (properties ++ more) = (ofList properties).extend more :=
  List.foldl_append

/-- Names stand in the order of their first definitions. -/
theorem names_ofList (properties : List (Text × Text)) :
    (ofList properties).names = (properties.map Prod.fst).eraseDups := by
  induction properties using List.reverseRecOn with
  | nil => rfl
  | append_singleton properties entry ih =>
    have hdefine : ofList (properties ++ [entry]) = (ofList properties).define entry.1 entry.2 :=
      ofList_append properties [entry]
    rw [hdefine, names_define, ih, List.map_append, List.eraseDups_append, List.map_singleton]
    simp only [List.mem_eraseDups]
    split
    · next hmem => simp [List.removeAll, hmem]
    · next hnot => simp [List.removeAll, hnot, List.eraseDups_cons]

theorem get?_ofList (properties : List (Text × Text)) (name : Text) :
    (ofList properties).get? name = properties.reverse.lookup name := by
  induction properties using List.reverseRecOn with
  | nil => rfl
  | append_singleton properties entry ih =>
    have hdefine : ofList (properties ++ [entry]) = (ofList properties).define entry.1 entry.2 :=
      ofList_append properties [entry]
    rw [hdefine, get?_define, ih, List.reverse_append, List.reverse_singleton,
      List.singleton_append, List.lookup_cons]
    by_cases hname : name = entry.1
    · simp [hname]
    · simp [hname, beq_false_of_ne hname]

/-- An environment that holds the definitions of a file and those that override them. -/
structure Merges (env : Environment) (file given : List (Text × Text)) : Prop where
  nodup_names : env.names.Nodup
  /-- A name has the value that it was given last, or else the one that the file has last. -/
  get?_eq : ∀ name, env.get? name = (given.reverse.lookup name).or (file.reverse.lookup name)
  /-- The names of the file come first, and those that it lacks come behind them, each of them where
  it occurred first. -/
  names_eq : env.names = (file.map Prod.fst).eraseDups
    ++ ((given.map Prod.fst).filter (· ∉ file.map Prod.fst)).eraseDups

theorem merges_extend (file given : List (Text × Text)) :
    ((ofList file).extend given).Merges file given where
  nodup_names := nodup_names _
  get?_eq name := by
    rw [← ofList_append, get?_ofList, List.reverse_append, List.lookup_append]
  names_eq := by
    rw [← ofList_append, names_ofList, List.map_append, List.eraseDups_append]
    simp [List.removeAll]

end Environment

/-! ## Files -/

/-- A file is loaded if it can be read and holds an object of strings. The number that is logged is
that of its distinct names. -/
theorem PropertySource.load_eq_ok_iff {files : Files} {path : Text} {given : List (Text × Text)}
    {env : Environment} {events : List LogEvent} :
    load files ⟨some path, given⟩ = .ok (env, events) ↔
      ∃ text members, files path = .ok text ∧ Json.WritesObject text members ∧
        env = (Environment.ofList members).extend given ∧
        events = [.loadedProperties path (members.map Prod.fst).eraseDups.length] := by
  have hsize : ∀ members : List (Text × Text), (Environment.ofList members).size
      = (members.map Prod.fst).eraseDups.length := by
    intro members
    rw [← Environment.names_ofList, Environment.names, List.length_map, Environment.size]
  rw [load]
  constructor
  · intro h
    dsimp only at h
    split at h
    · cases h
    · next text htext =>
      split at h
      · cases h
      · next loaded hloaded =>
        obtain ⟨members, hobject, rfl⟩ := Environment.ofJson?_eq_some_iff.mp hloaded
        obtain ⟨rfl, rfl⟩ := Prod.mk.inj (Except.ok.inj h)
        exact ⟨text, members, htext, hobject, rfl, by rw [hsize]⟩
  · rintro ⟨text, members, htext, hobject, rfl, rfl⟩
    have hloaded := Environment.ofJson?_eq_some_iff.mpr ⟨members, hobject, rfl⟩
    simp only [htext, hloaded, hsize]

/-! ## Properties as they are typed -/

theorem readProperty_eq_ok_iff {t name value : Text} :
    readProperty t = .ok (name, value) ↔
      ∃ before, t = before ++ '=' :: value ∧ '=' ∉ before ∧
        (∃ c ∈ before, isWhiteSpace c = false) ∧ name = before.trimSpace := by
  have hempty : ∀ before : Text, ¬before.trimSpace.isEmpty = true ↔
      ∃ c ∈ before, isWhiteSpace c = false := by
    intro before
    rw [List.isEmpty_iff, Text.trimSpace, Text.trim_eq_nil_iff]
    simp
  rw [readProperty]
  constructor
  · intro h
    split at h
    · cases h
    · next before behind hcut =>
      dsimp only at h
      split at h
      · cases h
      · next hname =>
        obtain ⟨rfl, rfl⟩ := Prod.mk.inj (Except.ok.inj h)
        obtain ⟨rfl, hbefore⟩ := Text.splitAtFirst_beq_eq_some_iff.mp hcut
        exact ⟨before, rfl, hbefore, (hempty before).mp hname, rfl⟩
  · rintro ⟨before, ht, hbefore, hname, rfl⟩
    rw [Text.splitAtFirst_beq_eq_some_iff.mpr ⟨ht, hbefore⟩]
    exact if_neg ((hempty before).mpr hname)

/-- **Two sources, one environment.** A file that holds an object of strings is loaded whatever
names it repeats, and the environment merges its members with the properties that were given: each
name once, with the value that it was given last or else has last in the file, the names of the file
before the others, each where it occurred first. A text is taken for a property exactly if there is
something other than white space before its first `=`; this is its name, without the white space
around it, and all that follows is its value. -/
theorem load_merges :
    (∀ (files : Files) (path text : Text) (members given : List (Text × Text)),
        files path = .ok text → Json.WritesObject text members →
        ∃ env : Environment, env.Merges members given ∧
          PropertySource.load files ⟨some path, given⟩
            = .ok (env, [.loadedProperties path (members.map Prod.fst).eraseDups.length])) ∧
      ∀ t name value : Text, readProperty t = .ok (name, value) ↔
        ∃ before, t = before ++ '=' :: value ∧ '=' ∉ before ∧
          (∃ c ∈ before, isWhiteSpace c = false) ∧ name = before.trimSpace :=
  ⟨fun _ _ text members given hfile hobject ↦
    ⟨_, Environment.merges_extend members given,
      PropertySource.load_eq_ok_iff.mpr ⟨text, members, hfile, hobject, rfl, rfl⟩⟩,
    fun _ _ _ ↦ readProperty_eq_ok_iff⟩

theorem load_merges_overridden :
    let file := "\x7b\"a\": \"1\", \"b\": \"2\", \"a\": \"3\"\x7d".toList
    let given : List (Text × Text) := [(['c'], ['4']), (['b'], ['5']), (['c'], ['6'])]
    ∃ env : Environment,
      PropertySource.load (fun _ ↦ .ok file) ⟨some ['f'], given⟩
        = .ok (env, [.loadedProperties ['f'] 2]) ∧
      env.names = [['a'], ['b'], ['c']] ∧
      env.get? ['a'] = some ['3'] ∧ env.get? ['b'] = some ['5'] ∧ env.get? ['c'] = some ['6'] := by
  intro file given
  have hobject : Json.WritesObject file [(['a'], ['1']), (['b'], ['2']), (['a'], ['3'])] :=
    Json.decodeObject_eq_some_iff.mp (by decide +kernel)
  obtain ⟨env, hmerges, hload⟩ := load_merges.1 (fun _ ↦ .ok file) ['f'] file _ given rfl hobject
  refine ⟨env, hload, ?_, ?_, ?_, ?_⟩
  · rw [hmerges.names_eq]
    decide
  all_goals
    rw [hmerges.get?_eq]
    decide

end Placement
