import Placement.Command.Program
import Placement.Proofs.Machine
import Placement.Proofs.Reference

/-!
# One verdict, however it is asked for

Whether a constraint is satisfied can be asked of the constraint itself, of a check and of a
session. Each of the three goes its own way from the text to the answer, but all of them show the
same: the constraint compiled, its value for the properties and the replica, and which properties
were never asked for.

A check is a computation whose steps may fail, compiling before loading before evaluating
(`findValue`), and what it prints and how it ends can be read off what this finds
(`runCheck_spec`). A session compiles and evaluates only, and shows the lines of its report one by
one (`Session.output_answer_of_ok`). What is left over is for both what the constraint does not ask
for (`Expression.names_remaining_evaluate`), so a session can list it after a failure too.
-/

namespace Placement

theorem Environment.names_without (env : Environment) (names : List Text) :
    (env.without names).names = env.names.filter (· ∉ names) := by
  rw [Environment.names, Environment.names, List.filter_map]
  rfl

/-! ## What is shown of a constraint -/

namespace Expression

/-- The properties that the constraint does not ask for, in order. -/
def unused (e : Expression) (role : Role) (env : Environment) : List Text :=
  env.names.filter fun name ↦ ¬e.root.Asks role name

theorem names_remaining_evaluate (e : Expression) (ctx : EvalContext) (env : Environment) :
    (e.evaluate ctx env).remaining.names = e.unused ctx.role env := by
  rw [evaluate, Node.remaining_evaluate, Environment.names_without, unused]
  refine List.filter_congr fun name _ ↦ ?_
  rw [decide_eq_decide, Node.mem_consulted_iff]

def policyLines (e : Expression) : Text :=
  let policyLine (title : String) (p : Policy) : Text :=
    ((e.policy? p).map fun policy ↦ Text.line (title.toList ++ policy)).getD []
  policyLine "fault-domain policy: " .faultDomain ++ policyLine "placement policy: " .placement

theorem satisfied_eq_ok_iff {e : Expression} {role : Role} {env : Environment} {b : Bool} :
    (e.satisfied role env).1 = .ok b ↔
      ∃ value, (e.evaluate ⟨role, false⟩ env).outcome = .ok value ∧ value.isTruthy = b := by
  rw [satisfied]
  cases (e.evaluate ⟨role, false⟩ env).outcome <;> simp [Except.map]

theorem satisfied_eq_error_iff {e : Expression} {role : Role} {env : Environment}
    {error : EvalError} : (e.satisfied role env).1 = .error error ↔
      (e.evaluate ⟨role, false⟩ env).outcome = .error error := by
  rw [satisfied]
  cases (e.evaluate ⟨role, false⟩ env).outcome <;> simp [Except.map]

end Expression

/-- The line that lists unused properties, if there are any. -/
def unusedLine (names : List Text) : Text :=
  if names.isEmpty then [] else Text.line ("unused: ".toList ++ Text.join [',', ' '] names)

theorem reportValue_eq (value : Value) (remaining : Environment) :
    reportValue value remaining = value.render.line ++ unusedLine remaining.names := by
  have hempty : remaining.names.isEmpty = remaining.isEmpty := List.isEmpty_map
  rw [reportValue, unusedLine, hempty]

/-! ## Checks -/

namespace Run

variable {r : Run}

theorem exitCode_eq_zero_iff : r.exitCode = 0 ↔ r.outcome = .ok true := by
  rw [exitCode]
  rcases r.outcome with failure | (_ | _) <;> simp

theorem exitCode_eq_two_iff : r.exitCode = 2 ↔ r.outcome = .ok false := by
  rw [exitCode]
  rcases r.outcome with failure | (_ | _) <;> simp

theorem exitCode_eq_one_iff : r.exitCode = 1 ↔ ∃ failure, r.outcome = .error failure := by
  rw [exitCode]
  rcases r.outcome with failure | (_ | _) <;> simp

end Run

/-- What a check finds: the constraint, the properties that were loaded, and the value. -/
structure Finding where
  expression : Expression
  environment : Environment
  value : Value

/-- Compile a constraint, load properties, and evaluate. The first failure ends it. -/
def findValue (files : Files) (role : Role) (text : Text) (source : PropertySource) :
    Except Failure Finding := do
  let e ← (compile text).mapError (.notCompiled text)
  let (env, _) ← source.load files
  let value ← (e.evaluate ⟨role, false⟩ env).outcome.mapError (.notEvaluated e)
  return ⟨e, env, value⟩

theorem mapError_eq_ok_iff {ε ε' α : Type} {f : ε → ε'} {x : Except ε α} {a : α} :
    x.mapError f = .ok a ↔ x = .ok a := by
  cases x <;> simp [Except.mapError]

section Check

variable {files : Files} {role : Role} {text : Text} {source : PropertySource}

theorem findValue_eq_ok_iff {f : Finding} : findValue files role text source = .ok f ↔
    compile text = .ok f.expression ∧ (∃ loaded, source.load files = .ok (f.environment, loaded)) ∧
      (f.expression.evaluate ⟨role, false⟩ f.environment).outcome = .ok f.value := by
  constructor
  · intro h
    obtain ⟨e, hcompile, h⟩ := bind_eq_ok_iff.mp h
    obtain ⟨⟨env, loaded⟩, hload, h⟩ := bind_eq_ok_iff.mp h
    obtain ⟨value, hvalue, h⟩ := bind_eq_ok_iff.mp h
    cases h
    exact ⟨mapError_eq_ok_iff.mp hcompile, ⟨loaded, hload⟩, mapError_eq_ok_iff.mp hvalue⟩
  · rintro ⟨hcompile, ⟨loaded, hload⟩, hvalue⟩
    refine bind_eq_ok_iff.mpr ⟨f.expression, mapError_eq_ok_iff.mpr hcompile, ?_⟩
    refine bind_eq_ok_iff.mpr ⟨(f.environment, loaded), hload, ?_⟩
    exact bind_eq_ok_iff.mpr ⟨f.value, mapError_eq_ok_iff.mpr hvalue, rfl⟩

/-- Looking for a value fails if the text is no constraint, the properties cannot be loaded, or the
constraint cannot be evaluated. -/
theorem findValue_eq_error_iff :
    (∃ failure, findValue files role text source = .error failure) ↔
      (∃ error, compile text = .error error) ∨ (∃ failure, source.load files = .error failure) ∨
        ∃ e env loaded error, compile text = .ok e ∧ source.load files = .ok (env, loaded) ∧
          (e.satisfied role env).1 = .error error := by
  constructor
  · rintro ⟨failure, h⟩
    cases hcompile : compile text with
    | error error => exact .inl ⟨error, rfl⟩
    | ok e =>
      rcases hload : source.load files with failure | ⟨env, loaded⟩
      · exact .inr (.inl ⟨failure, rfl⟩)
      · cases hvalue : (e.evaluate ⟨role, false⟩ env).outcome with
        | error error =>
          exact .inr (.inr ⟨e, env, loaded, error, rfl, rfl,
            Expression.satisfied_eq_error_iff.mpr hvalue⟩)
        | ok value =>
          have hfound : findValue files role text source = .ok ⟨e, env, value⟩ :=
            findValue_eq_ok_iff.mpr ⟨hcompile, ⟨loaded, hload⟩, hvalue⟩
          rw [hfound] at h
          cases h
  · intro h
    cases hfound : findValue files role text source with
    | error failure => exact ⟨failure, rfl⟩
    | ok f =>
      -- Each of the three failures is at odds with what was found.
      obtain ⟨hcompile, ⟨loaded, hload⟩, hvalue⟩ := findValue_eq_ok_iff.mp hfound
      rw [hcompile, hload] at h
      rcases h with ⟨error, h⟩ | ⟨failure, h⟩ | ⟨e, env, loaded', error, h, h', hfailed⟩
      · cases h
      · cases h
      · cases h
        cases h'
        rw [Expression.satisfied_eq_error_iff, hvalue] at hfailed
        cases hfailed

/-- What a check prints and how it ends. -/
theorem runCheck_spec (files : Files) (ctx : EvalContext) (text : Text) (source : PropertySource) :
    let r := runCheck files ctx text source
    match findValue files ctx.role text source with
    | .error failure => r.output = [] ∧ r.outcome = .error failure
    | .ok f => r.output
        = f.value.render.line ++ unusedLine (f.expression.unused ctx.role f.environment) ∧
      r.outcome = .ok f.value.isTruthy := by
  rw [runCheck, findValue, compile]
  dsimp only
  cases (Compilation.ofText text).outcome with
  | error error => exact ⟨rfl, rfl⟩
  | ok e =>
    rcases source.load files with failure | ⟨env, loaded⟩
    · exact ⟨rfl, rfl⟩
    · have htrace : (e.evaluate ⟨ctx.role, false⟩ env).outcome = (e.evaluate ctx env).outcome :=
        e.root.outcome_evaluate_trace ctx.role false ctx.trace env
      have hunused := e.names_remaining_evaluate ctx env
      simp only [Except.mapError, bind, Except.bind, htrace]
      cases (e.evaluate ctx env).outcome with
      | error error => exact ⟨rfl, rfl⟩
      | ok value => exact ⟨(reportValue_eq value _).trans (by rw [hunused]), rfl⟩

variable {ctx : EvalContext} {b : Bool} {failure : Failure} {f : Finding}

theorem runCheck_of_failed (h : findValue files ctx.role text source = .error failure) :
    (runCheck files ctx text source).output = [] ∧
      (runCheck files ctx text source).outcome = .error failure := by
  have hspec := runCheck_spec files ctx text source
  rwa [h] at hspec

theorem runCheck_of_found (h : findValue files ctx.role text source = .ok f) :
    (runCheck files ctx text source).output
        = f.value.render.line ++ unusedLine (f.expression.unused ctx.role f.environment) ∧
      (runCheck files ctx text source).outcome = .ok f.value.isTruthy := by
  have hspec := runCheck_spec files ctx text source
  rwa [h] at hspec

theorem outcome_runCheck_eq_ok_iff : (runCheck files ctx text source).outcome = .ok b ↔
    ∃ f, findValue files ctx.role text source = .ok f ∧ f.value.isTruthy = b := by
  cases h : findValue files ctx.role text source with
  | error failure => simp [(runCheck_of_failed h).2]
  | ok f => simp [(runCheck_of_found h).2]

theorem outcome_runCheck_eq_error_iff : (runCheck files ctx text source).outcome = .error failure ↔
    findValue files ctx.role text source = .error failure := by
  cases h : findValue files ctx.role text source with
  | error failure' => simp [(runCheck_of_failed h).2]
  | ok f => simp [(runCheck_of_found h).2]

/-- A value was found that counts as a yes, or as a no, exactly if the constraint is satisfied, or
is not. -/
theorem found_iff_satisfied :
    (∃ f, findValue files role text source = .ok f ∧ f.value.isTruthy = b) ↔
      ∃ e env loaded, compile text = .ok e ∧ source.load files = .ok (env, loaded) ∧
        (e.satisfied role env).1 = .ok b := by
  constructor
  · rintro ⟨f, hfound, hb⟩
    obtain ⟨hcompile, ⟨loaded, hload⟩, hvalue⟩ := findValue_eq_ok_iff.mp hfound
    exact ⟨f.expression, f.environment, loaded, hcompile, hload,
      Expression.satisfied_eq_ok_iff.mpr ⟨f.value, hvalue, hb⟩⟩
  · rintro ⟨e, env, loaded, hcompile, hload, hsatisfied⟩
    obtain ⟨value, hvalue, hb⟩ := Expression.satisfied_eq_ok_iff.mp hsatisfied
    exact ⟨⟨e, env, value⟩, findValue_eq_ok_iff.mpr ⟨hcompile, ⟨loaded, hload⟩, hvalue⟩, hb⟩

theorem output_runCheck_of_ok (h : (runCheck files ctx text source).outcome = .ok b) :
    ∃ e env loaded value, compile text = .ok e ∧ source.load files = .ok (env, loaded) ∧
      (e.evaluate ⟨ctx.role, false⟩ env).outcome = .ok value ∧
      (runCheck files ctx text source).output
        = value.render.line ++ unusedLine (e.unused ctx.role env) := by
  obtain ⟨f, hfound, -⟩ := outcome_runCheck_eq_ok_iff.mp h
  obtain ⟨hcompile, ⟨loaded, hload⟩, hvalue⟩ := findValue_eq_ok_iff.mp hfound
  exact ⟨f.expression, f.environment, loaded, f.value, hcompile, hload, hvalue,
    (runCheck_of_found hfound).1⟩

end Check

/-! ## Sessions -/

/-- A line that is more than white space, has none around it and is no command is a constraint. -/
theorem Line.ofText_eq_eval {text : Text} (hne : text ≠ []) (htrim : text.trimSpace = text)
    (hcolon : text.head? ≠ some ':') : Line.ofText text = .ok (.eval text) := by
  rw [ofText, htrim]
  split
  · contradiction
  · next command => exact absurd rfl hcolon
  · rfl

theorem Text.line_join {lines : List Text} (hne : lines ≠ []) :
    (Text.join ['\n'] lines).line = lines.flatMap Text.line := by
  induction lines with
  | nil => contradiction
  | cons t lines ih =>
    cases lines with
    | nil => exact (List.append_nil _).symm
    | cons u more =>
      rw [List.flatMap_cons, ← ih (List.cons_ne_nil u more), join, line, line, line]
      simp only [List.append_assoc]

namespace Session

variable {s : Session} {text : Text} {e : Expression}

theorem flatMap_line_report (e : Expression) (v : Evaluation) :
    (report e v).flatMap Text.line
      = (match v.outcome with
        | .ok value => Text.line (value.render ++ "  ; ".toList ++ e.render)
        | .error error => Text.line ("evaluation error: ".toList ++ error.message))
        ++ e.policyLines ++ unusedLine v.remaining.names := by
  have hpolicy (title : String) (p : Policy) :
      ((e.policy? p).toList.map (title.toList ++ ·)).flatMap Text.line
        = ((e.policy? p).map fun policy ↦ Text.line (title.toList ++ policy)).getD [] := by
    cases e.policy? p with
    | none => rfl
    | some policy => exact List.append_nil _
  have hunused : (if v.remaining.names.isEmpty then []
      else ["unused: ".toList ++ Text.join [',', ' '] v.remaining.names]).flatMap Text.line
        = unusedLine v.remaining.names := by
    rw [unusedLine]
    split
    · rfl
    · exact List.append_nil _
  rw [report]
  simp only [List.flatMap_append, hpolicy, hunused, Expression.policyLines, List.append_assoc]
  cases v.outcome <;> simp

theorem output_answer_eval (h : Line.ofText text = .ok (.eval text)) :
    (s.answer text).output = (s.evaluate text).1.line := by
  rw [answer, h]
  rfl

theorem output_answer_of_error (h : Line.ofText text = .ok (.eval text)) {error : ParseError}
    (hcompile : compile text = .error error) :
    (s.answer text).output = Text.line ("parse error: ".toList ++ error.message) := by
  rw [output_answer_eval h, evaluate]
  dsimp only
  rw [← compile, hcompile]

/-- A session answers a constraint with its outcome, its policies, and what was not asked for. -/
theorem output_answer_of_ok (h : Line.ofText text = .ok (.eval text))
    (hcompile : compile text = .ok e) :
    (s.answer text).output
      = (match (e.evaluate ⟨s.context.role, false⟩ s.environment).outcome with
        | .ok value => Text.line (value.render ++ "  ; ".toList ++ e.render)
        | .error error => Text.line ("evaluation error: ".toList ++ error.message))
        ++ e.policyLines ++ unusedLine (e.unused s.context.role s.environment) := by
  have htrace : (e.evaluate s.context s.environment).outcome
      = (e.evaluate ⟨s.context.role, false⟩ s.environment).outcome :=
    e.root.outcome_evaluate_trace s.context.role s.context.trace false s.environment
  have hreport : report e (e.evaluate s.context s.environment) ≠ [] := List.cons_ne_nil _ _
  rw [output_answer_eval h, evaluate]
  dsimp only
  rw [← compile, hcompile]
  dsimp only
  rw [Text.line_join hreport, flatMap_line_report, htrace, e.names_remaining_evaluate]

end Session

/-! ## Agreement -/

/-- **Agreement.** A check ends with 0 if the constraint is satisfied, with 2 if it is not, and with
1 and no output if the text is no constraint, or the properties cannot be loaded, or the evaluation
fails. If it does not fail it prints the value and the names that the constraint does not ask for.
A session with any properties, for the same replica, answers the same text with the same value or
with the error, and lists the same names, also after an error of the evaluation. -/
theorem verdicts_agree (files : Files) (verbose trace primary : Bool) (source : PropertySource)
    (items : List TerminalItem) (text : Text) :
    let role := Role.ofBool primary
    let check := Invocation.run ⟨verbose, trace, .check text primary source⟩ files items
    (check.exitCode = 0 ↔ ∃ e env loaded, compile text = .ok e ∧
        source.load files = .ok (env, loaded) ∧ (e.satisfied role env).1 = .ok true) ∧
      (check.exitCode = 2 ↔ ∃ e env loaded, compile text = .ok e ∧
        source.load files = .ok (env, loaded) ∧ (e.satisfied role env).1 = .ok false) ∧
      (check.exitCode = 1 ∧ check.output = [] ↔
        (∃ error, compile text = .error error) ∨
          (∃ failure, source.load files = .error failure) ∨
          ∃ e env loaded error, compile text = .ok e ∧ source.load files = .ok (env, loaded) ∧
            (e.satisfied role env).1 = .error error) ∧
      (check.exitCode = 0 ∨ check.exitCode = 2 → ∃ e env loaded value, compile text = .ok e ∧
        source.load files = .ok (env, loaded) ∧
        (e.evaluate ⟨role, false⟩ env).outcome = .ok value ∧
        check.output = value.render.line ++ unusedLine (e.unused role env)) ∧
      ∀ env trace', text ≠ [] → text.trimSpace = text → text.head? ≠ some ':' →
        let shown := (Session.answer ⟨env, ⟨role, trace'⟩⟩ text).output
        (∀ error, compile text = .error error →
            shown = Text.line ("parse error: ".toList ++ error.message)) ∧
          ∀ e, compile text = .ok e →
            (∀ error, (e.satisfied role env).1 = .error error →
              shown = Text.line ("evaluation error: ".toList ++ error.message)
                ++ e.policyLines ++ unusedLine (e.unused role env)) ∧
            ∀ value, (e.evaluate ⟨role, false⟩ env).outcome = .ok value →
              shown = Text.line (value.render ++ "  ; ".toList ++ e.render)
                ++ e.policyLines ++ unusedLine (e.unused role env) := by
  intro role check
  refine ⟨?_, ?_, ?_, ?_, ?_⟩
  · rw [Run.exitCode_eq_zero_iff]
    exact outcome_runCheck_eq_ok_iff.trans found_iff_satisfied
  · rw [Run.exitCode_eq_two_iff]
    exact outcome_runCheck_eq_ok_iff.trans found_iff_satisfied
  · rw [Run.exitCode_eq_one_iff, ← findValue_eq_error_iff]
    constructor
    · rintro ⟨⟨failure, h⟩, -⟩
      exact ⟨failure, outcome_runCheck_eq_error_iff.mp h⟩
    · rintro ⟨failure, h⟩
      have hfailed : check.output = [] ∧ check.outcome = .error failure := runCheck_of_failed h
      exact ⟨⟨failure, hfailed.2⟩, hfailed.1⟩
  · rintro (h | h)
    · exact output_runCheck_of_ok (Run.exitCode_eq_zero_iff.mp h)
    · exact output_runCheck_of_ok (Run.exitCode_eq_two_iff.mp h)
  · intro env trace' hne htrim hcolon
    have heval := Line.ofText_eq_eval hne htrim hcolon
    refine ⟨fun error hcompile ↦ Session.output_answer_of_error heval hcompile, ?_⟩
    intro e hcompile
    have hshown := Session.output_answer_of_ok (s := ⟨env, ⟨role, trace'⟩⟩) heval hcompile
    refine ⟨fun error hsatisfied ↦ ?_, fun value hvalue ↦ ?_⟩
    · rwa [Expression.satisfied_eq_error_iff.mp hsatisfied] at hshown
    · rwa [hvalue] at hshown

theorem verdicts_agree_after_error :
    let files : Files := fun _ ↦ .error []
    let source : PropertySource := ⟨none, [(['a'], ['1']), (['b'], ['2'])]⟩
    let text : Text := "a==1 && c==1".toList
    let check := Invocation.run ⟨false, false, .check text false source⟩ files []
    let session : Session := ⟨.ofList source.given, ⟨.secondary, true⟩⟩
    text ≠ [] ∧ text.trimSpace = text ∧ text.head? ≠ some ':' ∧
      check.exitCode = 1 ∧ check.output = [] ∧
      (session.answer text).output
        = "evaluation error: property `c` is not defined\nunused: b\n".toList := by
  intro files source text check session
  have hne : text ≠ [] := by decide
  have htrim : text.trimSpace = text := by decide
  have hcolon : text.head? ≠ some ':' := by decide
  have hcompile : compile "a==1 && c==1".toList = .ok ⟨.connective .and
      (.comparison .equal (.literal ['a']) (.literal ['1']))
      (.comparison .equal (.literal ['c']) (.literal ['1'])), false⟩ := by decide +kernel
  obtain ⟨-, -, hfails, -, hshows⟩ := verdicts_agree files false false false source [] text
  obtain ⟨hexit, hsilent⟩ := hfails.mpr (.inr (.inr ⟨_, _, _, _, hcompile, rfl, rfl⟩))
  have hshown := ((hshows (.ofList source.given) true hne htrim hcolon).2 _ hcompile).1 _ rfl
  exact ⟨hne, htrim, hcolon, hexit, hsilent, hshown⟩

end Placement
