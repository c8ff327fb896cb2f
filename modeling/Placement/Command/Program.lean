import Placement.Command.Arguments
import Placement.Command.Help
import Placement.Json.Record
import Placement.Log.Filter
import Placement.Session
import Placement.Text.Cluster

/-!
# Runs of the program

A run of the program is a function of its command line, the files it can read, the filter setting of
its surroundings, and what its terminal delivers. Reading a file and talking to a terminal are left
to the outside, so that everything the program decides is in this module.

A constraint is compiled before any properties are loaded, so that a text that is none fails in the
same way whatever the files hold.
-/

namespace Placement

/-! ## Failures -/

/-- Why a command failed. -/
inductive Failure
  | notCompiled (text : Text) (error : ParseError)
  /-- A file could not be read, with what the system says about it. -/
  | unreadableFile (path : Text) (cause : Text)
  | invalidFile (path : Text)
  | notEvaluated (e : Expression) (error : EvalError)
  /-- The terminal failed. -/
  | terminal (message : Text)
  deriving DecidableEq, Repr

namespace Failure

/-- The wording of a failure and of each cause behind it, as far as it is the program's own. -/
def chain : Failure → List Text
  | notCompiled text error => ["cannot compile `".toList ++ text ++ ['`'], error.message]
  | unreadableFile path _ => ["cannot read properties file ".toList ++ path]
  | invalidFile path =>
    ["invalid properties file ".toList ++ path,
      "expected a JSON object mapping names to string values".toList]
  | notEvaluated e error => ["cannot evaluate `".toList ++ e.render ++ ['`'], error.message]
  | terminal message => [message]

/-- The wording of a failure in one line. -/
def message (f : Failure) : Text := Text.join [':', ' '] f.chain

/-- The wording of a failure in one line, with what the system says about it. -/
def fullMessage (f : Failure) : Text :=
  match f with
  | unreadableFile _ cause => Text.join [':', ' '] (f.chain ++ [cause])
  | f => f.message

end Failure

/-! ## Properties -/

/-- The files that can be read: the text of one, or what the system says instead. -/
abbrev Files := Text → Except Text Text

/-- The properties of a source, and what loading them logs. -/
def PropertySource.load (files : Files) (source : PropertySource) :
    Except Failure (Environment × List LogEvent) :=
  match source.file with
  | none => .ok (.ofList source.given, [])
  | some path =>
    match files path with
    | .error cause => .error (.unreadableFile path cause)
    | .ok text =>
      match Environment.ofJson? text with
      | none => .error (.invalidFile path)
      | some env => .ok (env.extend source.given, [.loadedProperties path env.size])

/-! ## Commands -/

/-- What a command printed and logged, and how it ended: with a failure, or telling whether the
constraint was satisfied. -/
structure Run where
  output : Text
  outcome : Except Failure Bool
  events : List LogEvent

namespace Run

/-- A command that failed before it printed anything. -/
def failed (failure : Failure) (events : List LogEvent) : Run := ⟨[], .error failure, events⟩

/-- A success is 0, a failure 1, and a constraint that is not satisfied 2. -/
def exitCode (r : Run) : Nat :=
  match r.outcome with
  | .ok true => 0
  | .ok false => 2
  | .error _ => 1

end Run

/-- The canonical form of a constraint and what is known of it before it is evaluated. -/
def describe (e : Expression) : Text :=
  let policy (p : Policy) : Text := (e.policy? p).getD ['-']
  Text.line ("expression:          ".toList ++ e.render)
    ++ Text.line ("for primary:         ".toList ++ .ofBool e.forPrimary)
    ++ Text.line ("fault-domain policy: ".toList ++ policy .faultDomain)
    ++ Text.line ("placement policy:    ".toList ++ policy .placement)

/-- Compile a constraint and describe it. -/
def runParse (text : Text) : Run :=
  let compilation := Compilation.ofText text
  match compilation.outcome with
  | .error error => .failed (.notCompiled text error) (compilation.logged text)
  | .ok e => ⟨describe e, .ok true, compilation.logged text⟩

/-- The value of a constraint, and the properties it never asked for. -/
def reportValue (value : Value) (remaining : Environment) : Text :=
  Text.line value.render ++
    if remaining.isEmpty then []
    else Text.line ("unused: ".toList ++ Text.join [',', ' '] remaining.names)

/-- Compile a constraint, load properties, and evaluate the one against the other. -/
def runCheck (files : Files) (ctx : EvalContext) (text : Text) (source : PropertySource) : Run :=
  let compilation := Compilation.ofText text
  let compiled := compilation.logged text
  match compilation.outcome with
  | .error error => .failed (.notCompiled text error) compiled
  | .ok e =>
    match source.load files with
    | .error failure => .failed failure compiled
    | .ok (env, loaded) =>
      let evaluation := e.evaluate ctx env
      let events := compiled ++ loaded ++ [.checking env.size ctx.role.isPrimary]
        ++ evaluation.logged
      match evaluation.outcome with
      | .error error => .failed (.notEvaluated e error) events
      | .ok value => ⟨reportValue value evaluation.remaining, .ok value.isTruthy, events⟩

/-! ## Sessions -/

/-- What a session says before its first line. -/
def banner : Text :=
  Text.line (programName ++ [' '] ++ version ++ " (:help for commands)".toList)

/-- The session that a source of properties begins, and what loading them logs. -/
def Session.ofSource (files : Files) (ctx : EvalContext) (source : PropertySource) :
    Except Failure (Session × List LogEvent) :=
  (source.load files).map fun (env, loaded) ↦ (⟨env, ctx⟩, loaded)

/-- A session from its banner on. -/
def Session.transcript (s : Session) (items : List TerminalItem) : Transcript :=
  let t := s.run items
  { t with output := banner ++ t.output }

/-- What a session amounts to as a command. -/
def Transcript.asRun (t : Transcript) (loaded : List LogEvent) : Run :=
  ⟨t.output, (t.failure.map (.error ∘ .terminal)).getD (.ok true), loaded ++ t.events⟩

/-- Run a session. -/
def runSession (files : Files) (ctx : EvalContext) (source : PropertySource)
    (items : List TerminalItem) : Run :=
  match Session.ofSource files ctx source with
  | .error failure => .failed failure []
  | .ok (session, loaded) => (session.transcript items).asRun loaded

/-- Run a command. -/
def Invocation.run (i : Invocation) (files : Files) (items : List TerminalItem) : Run :=
  let ctx (primary : Bool) : EvalContext := ⟨.ofBool primary, i.trace⟩
  match i.command with
  | .parse text => runParse text
  | .check text primary source => runCheck files (ctx primary) text source
  | .repl primary source => runSession files (ctx primary) source items

/-! ## The whole program -/

/-- A line as it was meant: a backspace takes back the cluster before it, if there is one. No
cluster reaches over a backspace, so what is between two of them is cut by itself. -/
def applyBackspaces (line : Text) : Text :=
  match line.pieces (· == '\x08') with
  | [] => []
  | [whole] => whole
  | first :: more =>
    (more.foldl (fun typed piece ↦ typed.dropLast ++ piece.clusters) first.clusters).flatten

/-- The lines of an input. Its last line may lack its end, and a carriage return before the end of
a line belongs to the end. -/
def inputLines (input : Text) : List Text :=
  let pieces := input.pieces (· == '\n')
  let ended := pieces.dropLast.map fun line ↦
    if line.getLast? == some '\r' then line.dropLast else line
  (ended ++ (pieces.getLast?.filter (!·.isEmpty)).toList).map applyBackspaces

/-- What a run of the whole program leaves behind. -/
structure Report where
  exitCode : Nat
  output : Text
  errorOutput : Text
  /-- The command line was rejected. -/
  rejected : Bool
  /-- The events that the filter lets through. -/
  log : List LogEvent

namespace Report

/-- Nothing but a text that was asked for. -/
def ofText (text : Text) : Report := ⟨0, text, [], false, []⟩

/-- The answer to a command line that is not run. -/
def ofUsageError : UsageError → Report
  | .help scope => ofText scope.helpText
  | .version => ofText versionText
  | .noArguments => ⟨2, [], Scope.program.helpText, true, []⟩
  | e => ⟨2, [], Text.line ("error: ".toList ++ e.message), true, []⟩

/-- The report of a command. -/
def ofRun (r : Run) (filter : LogFilter) : Report :=
  let errorOutput := match r.outcome with
    | .ok _ => []
    | .error failure => Text.line ("error: ".toList ++ failure.fullMessage)
  ⟨r.exitCode, r.output, errorOutput, false, r.events.filter filter.admits⟩

end Report

/-- Run the program on a command line, with the filter setting of its surroundings, if any, and its
whole input. -/
def runProgram (files : Files) (setting : Option Text) (input : Text) (words : List Text) :
    Report :=
  match readArguments words with
  | .error e => .ofUsageError e
  | .ok i =>
    .ofRun (i.run files ((inputLines input).map .line)) (.choose setting i.verbose i.trace)

end Placement
