import Mathlib.Data.List.Basic
import Placement.Cache

/-!
# The cache is transparent

Compiling a text gives the same constraint whenever it is done. So a constraint that was compiled
earlier may stand for one compiled now, as long as whatever is kept for a text is what compiling it
gives. This is the one invariant of the cache (`Cache.Sound`). Every call keeps it, hence any
sequence of calls does (`Cache.sound_after`), and with it the answers of a call are those that
compiling afresh would give, whatever was called before (`Cache.transparent`).

The invariant also says what is not kept: a text that does not compile has no entry, so asking for
it changes nothing.
-/

namespace Placement

/-- Whether a constraint is satisfied, compiled for this one question. -/
def satisfiedAfresh (text : Text) (role : Role) (env : Environment) :
    Except ConstraintError Bool × Environment :=
  match compile text with
  | .error e => (.error (.parse e), env)
  | .ok e => ((e.satisfied role env).1.mapError .eval, (e.satisfied role env).2)

namespace Cache

variable {c : Cache} {text : Text}

/-! ## Calls -/

/-- A call of the cache. -/
inductive Operation
  | getOrBuild (text : Text)
  | get (text : Text)
  | contains (text : Text)
  | size
  | invalidate (text : Text)
  | clear
  | satisfied (text : Text) (role : Role) (env : Environment)

def perform (c : Cache) : Operation → Cache
  | .getOrBuild text => (c.getOrBuild text).2
  | .get _ | .contains _ | .size => c
  | .invalidate text => (c.invalidate text).2
  | .clear => c.clear
  | .satisfied text role env => (c.satisfied text role env).2.2

/-- The cache after some calls, empty at first. -/
def after (calls : List Operation) : Cache := calls.foldl perform empty

/-! ## Compiling through the cache -/

theorem getOrBuild_of_kept {shared : Shared} (h : c.get? text = some shared) :
    c.getOrBuild text = (.ok shared, c) := by
  rw [getOrBuild, h]

theorem getOrBuild_of_error {e : ParseError} (hnone : c.get? text = none)
    (h : compile text = .error e) : c.getOrBuild text = (.error e, c) := by
  rw [getOrBuild, hnone, h]

theorem getOrBuild_of_ok {e : Expression} (hnone : c.get? text = none) (h : compile text = .ok e) :
    c.getOrBuild text
      = (.ok ⟨c.nextId, e⟩, ⟨(text, ⟨c.nextId, e⟩) :: c.entries, c.nextId + 1⟩) := by
  rw [getOrBuild, hnone, h]
  rfl

/-- Asking whether a constraint is satisfied changes the cache as compiling it does. -/
theorem cache_satisfied (c : Cache) (text : Text) (role : Role) (env : Environment) :
    (c.satisfied text role env).2.2 = (c.getOrBuild text).2 := by
  rw [satisfied]
  rcases c.getOrBuild text with ⟨e | shared, c'⟩ <;> rfl

/-! ## The invariant -/

/-- What is kept for a text is what compiling it gives. -/
def Sound (c : Cache) : Prop :=
  ∀ text shared, (text, shared) ∈ c.entries → compile text = .ok shared.expression

theorem sound_empty : empty.Sound := by
  intro text shared h
  cases h

namespace Sound

theorem compile_of_kept (hc : c.Sound) {shared : Shared} (h : c.get? text = some shared) :
    compile text = .ok shared.expression := by
  obtain ⟨before, after, hentries, -⟩ := List.lookup_eq_some_iff.mp h
  refine hc text shared ?_
  rw [hentries]
  exact List.mem_append_right _ List.mem_cons_self

theorem getOrBuild_of_error (hc : c.Sound) {e : ParseError} (h : compile text = .error e) :
    c.getOrBuild text = (.error e, c) := by
  cases hkept : c.get? text with
  | none => exact Cache.getOrBuild_of_error hkept h
  | some shared =>
    rw [hc.compile_of_kept hkept] at h
    cases h

theorem getOrBuild (hc : c.Sound) (text : Text) : (c.getOrBuild text).2.Sound := by
  cases hkept : c.get? text with
  | some shared =>
    rw [getOrBuild_of_kept hkept]
    exact hc
  | none =>
    cases hcompile : compile text with
    | error e =>
      rw [Cache.getOrBuild_of_error hkept hcompile]
      exact hc
    | ok e =>
      rw [getOrBuild_of_ok hkept hcompile]
      -- The one new entry is what was compiled for it.
      intro text' shared' h
      rcases List.mem_cons.mp h with hnew | hold
      · cases hnew
        exact hcompile
      · exact hc text' shared' hold

theorem perform (hc : c.Sound) (call : Operation) : (c.perform call).Sound := by
  cases call with
  | getOrBuild text => exact hc.getOrBuild text
  | get | contains | size => exact hc
  | invalidate text => exact fun text' shared h ↦ hc text' shared (List.mem_filter.mp h).1
  | clear => exact sound_empty
  | satisfied text role env =>
    rw [Cache.perform, cache_satisfied]
    exact hc.getOrBuild text

theorem foldl_perform (hc : c.Sound) (calls : List Operation) :
    (calls.foldl Cache.perform c).Sound := by
  induction calls generalizing c with
  | nil => exact hc
  | cons call calls ih => exact ih (hc.perform call)

end Sound

theorem sound_after (calls : List Operation) : (after calls).Sound :=
  sound_empty.foldl_perform calls

/-! ## Answers -/

namespace Sound

/-- Compiling through the cache gives what compiling gives. -/
theorem expression_getOrBuild (hc : c.Sound) (text : Text) :
    (c.getOrBuild text).1.map Shared.expression = compile text := by
  cases hkept : c.get? text with
  | some shared =>
    rw [getOrBuild_of_kept hkept, hc.compile_of_kept hkept]
    rfl
  | none =>
    cases hcompile : compile text with
    | error e => rw [Cache.getOrBuild_of_error hkept hcompile]; rfl
    | ok e => rw [getOrBuild_of_ok hkept hcompile]; rfl

theorem satisfied_eq_afresh (hc : c.Sound) (text : Text) (role : Role) (env : Environment) :
    ((c.satisfied text role env).1, (c.satisfied text role env).2.1)
      = satisfiedAfresh text role env := by
  rw [satisfiedAfresh, ← hc.expression_getOrBuild text, Cache.satisfied]
  rcases c.getOrBuild text with ⟨e | shared, c'⟩ <;> rfl

end Sound

/-- **Transparency.** After any calls, what is kept for a text is what compiling it gives, and both
compiling through the cache and asking whether a constraint is satisfied answer as if there were no
cache. A text that does not compile leaves the cache and the environment as they were. -/
theorem transparent (calls : List Operation) (text : Text) (role : Role) (env : Environment) :
    let c := after calls
    (∀ text' shared, (text', shared) ∈ c.entries → compile text' = .ok shared.expression) ∧
      (c.getOrBuild text).1.map Shared.expression = compile text ∧
      ((c.satisfied text role env).1, (c.satisfied text role env).2.1)
        = satisfiedAfresh text role env ∧
      ∀ e, compile text = .error e → c.getOrBuild text = (.error e, c) ∧
        c.satisfied text role env = (.error (.parse e), env, c) := by
  intro c
  have hc : c.Sound := sound_after calls
  refine ⟨hc, hc.expression_getOrBuild text, hc.satisfied_eq_afresh text role env, fun e he ↦ ?_⟩
  have hbuild : c.getOrBuild text = (.error e, c) := hc.getOrBuild_of_error he
  refine ⟨hbuild, ?_⟩
  rw [satisfied, hbuild]

theorem transparent_rejected :
    let calls : List Operation :=
      [.getOrBuild "a<1".toList, .satisfied "a==".toList .primary .empty,
        .invalidate "a<1".toList, .satisfied "a<1".toList .secondary .empty]
    let env := Environment.ofList [(['a'], ['0'])]
    (after calls).entries = [("a<1".toList,
        ⟨1, ⟨.comparison .less (.literal ['a']) (.literal ['1']), false⟩⟩)] ∧
      compile "a==".toList = .error (.missingOperand (.comparison .equal)) ∧
      (after calls).satisfied "a==".toList .secondary env
        = (.error (.parse (.missingOperand (.comparison .equal))), env, after calls) := by
  intro calls env
  have hcompile : compile "a==".toList = .error (.missingOperand (.comparison .equal)) := by
    decide +kernel
  exact ⟨by decide +kernel, hcompile,
    ((transparent calls "a==".toList .secondary env).2.2.2 _ hcompile).2⟩

end Cache

end Placement
