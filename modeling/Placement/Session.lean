import Placement.Log.Event
import Placement.Property

/-!
# Interactive sessions

A session reads lines. Most are constraints, evaluated for the session's replica against a copy of
its properties, so that no evaluation uses up what the next one needs; those that begin with a colon
are commands, which alone change properties and replica.

A session ends with a line that leaves it, an interrupt, a failure to read, or the end of its input.
-/

namespace Placement

/-! ## Lines -/

/-- A line, understood. -/
inductive Line
  | blank
  | primary
  | secondary
  | set (name value : Text)
  | unset (name : Text)
  | env
  | help
  | quit
  | eval (text : Text)
  deriving DecidableEq, Repr

/-- Why a line is not understood. -/
inductive LineError
  | property (error : PropertyError)
  | unknownCommand (command : Text)
  deriving DecidableEq, Repr

/-- The wording of an error. -/
def LineError.message : LineError → Text
  | property e => e.message
  | unknownCommand command => "unknown command `:".toList ++ command ++ "` (try :help)".toList

namespace Line

/-- Name and argument of a command, without its colon. -/
def splitCommand (command : Text) : Text × Text :=
  match command.splitAtFirst isWhiteSpace with
  | some (name, argument) => (name, Text.trimSpace argument)
  | none => (command, [])

/-- Understand a command. Only `set` and `unset` take an argument. -/
def ofCommand (command : Text) : Except LineError Line :=
  let (name, argument) := splitCommand command
  let word := String.ofList name
  if word == "set" then
    match readProperty argument with
    | .ok (name, value) => .ok (set name value)
    | .error e => .error (.property e)
  else if word == "unset" && !argument.isEmpty then .ok (unset argument)
  else if !argument.isEmpty then .error (.unknownCommand command)
  else if word == "primary" then .ok primary
  else if word == "secondary" then .ok secondary
  else if word == "env" then .ok env
  else if word == "help" then .ok help
  else if word == "quit" || word == "q" || word == "exit" then .ok quit
  else .error (.unknownCommand command)

/-- Understand a line, without the white space around it. -/
def ofText (t : Text) : Except LineError Line :=
  match t.trimSpace with
  | [] => .ok blank
  | ':' :: command => ofCommand command
  | text => .ok (eval text)

end Line

/-! ## Answers -/

/-- Properties and replica of a session. -/
structure Session where
  environment : Environment
  context : EvalContext
  deriving DecidableEq

/-- What a line does: what it prints, the session after it, whether the session goes on, and what
is logged. -/
structure Response where
  output : Text
  session : Session
  goesOn : Bool
  events : List LogEvent

/-- A line of output. -/
def Text.line (t : Text) : Text := t ++ ['\n']

/-- The commands of a session. -/
def sessionHelp : Text :=
  Text.join ['\n'] <| List.map String.toList
    ["Enter a constraint expression to evaluate it, or a command:",
      "  :primary            evaluate for the primary replica",
      "  :secondary          evaluate for secondary replicas",
      "  :set NAME=VALUE     define a property",
      "  :unset NAME         remove a property",
      "  :env                show the properties",
      "  :help               show this message",
      "  :quit               leave"]

namespace Session

/-- What is printed before a line is read. -/
def prompt (s : Session) : Text :=
  match s.context.role with
  | .primary => "constraint[primary]> ".toList
  | .secondary => "constraint> ".toList

/-- The lines that answer a constraint: its value and canonical form or its error, its policies,
and the properties it never asked for. -/
def report (e : Expression) (evaluation : Evaluation) : List Text :=
  let policyLine (title : String) (p : Policy) : List Text :=
    (e.policy? p).toList.map (title.toList ++ ·)
  let unused := evaluation.remaining.names
  [match evaluation.outcome with
    | .ok value => value.render ++ "  ; ".toList ++ e.render
    | .error error => "evaluation error: ".toList ++ error.message]
    ++ policyLine "fault-domain policy: " .faultDomain
    ++ policyLine "placement policy: " .placement
    ++ (if unused.isEmpty then [] else ["unused: ".toList ++ Text.join [',', ' '] unused])

/-- Answer a constraint. The session's properties stay as they are. -/
def evaluate (s : Session) (text : Text) : Text × List LogEvent :=
  let compilation := Compilation.ofText text
  match compilation.outcome with
  | .error e => (("parse error: ".toList ++ e.message), compilation.logged text)
  | .ok e =>
    let evaluation := e.evaluate s.context s.environment
    (Text.join ['\n'] (report e evaluation), compilation.logged text ++ evaluation.logged)

/-- The session for another replica. -/
def withRole (s : Session) (role : Role) : Session :=
  { s with context := { s.context with role } }

/-- Act on a line. -/
def handle (s : Session) : Line → Response
  | .blank => ⟨[], s, true, []⟩
  | .primary => ⟨[], s.withRole .primary, true, []⟩
  | .secondary => ⟨[], s.withRole .secondary, true, []⟩
  | .set name value => ⟨[], { s with environment := s.environment.define name value }, true, []⟩
  | .unset name =>
    let (defined, environment) := s.environment.remove name
    let output := if defined then [] else Text.line (['`'] ++ name ++ "` is not defined".toList)
    ⟨output, { s with environment }, true, []⟩
  | .env =>
    ⟨s.environment.entries.flatMap fun (name, value) ↦
      Text.line (name ++ [' ', '=', ' '] ++ value), s, true, []⟩
  | .help => ⟨sessionHelp.line, s, true, []⟩
  | .quit => ⟨[], s, false, []⟩
  | .eval text =>
    let (output, events) := s.evaluate text
    ⟨output.line, s, true, events⟩

/-- Answer a line as it was typed. One that is not understood prints why. -/
def answer (s : Session) (t : Text) : Response :=
  match Line.ofText t with
  | .ok line => s.handle line
  | .error e => ⟨e.message.line, s, true, []⟩

end Session

/-! ## Runs -/

/-- What a terminal delivers when it is asked for a line. -/
inductive TerminalItem
  | line (text : Text)
  | interrupt
  | failure (message : Text)
  deriving DecidableEq, Repr

/-- What a session did, from one point to its end. -/
structure Transcript where
  /-- All that was printed. -/
  output : Text
  /-- The prompt of every reading, also of the last. -/
  prompts : List Text
  /-- Every line read, as it was. -/
  history : List Text
  /-- How many items were never read. -/
  unread : Nat
  /-- The message of the failure that ended the session. -/
  failure : Option Text
  events : List LogEvent
  /-- The session at its end. -/
  final : Session

/-- A line and its answer, with the session before it. -/
structure Exchange where
  before : Session
  line : Except LineError Line
  response : Response

namespace Session

/-- Run a session until it ends. -/
def run (s : Session) : List TerminalItem → Transcript
  | [] => ⟨[], [s.prompt], [], 0, none, [], s⟩
  | .interrupt :: rest => ⟨[], [s.prompt], [], rest.length, none, [], s⟩
  | .failure message :: rest => ⟨[], [s.prompt], [], rest.length, some message, [], s⟩
  | .line text :: rest =>
    let r := s.answer text
    if r.goesOn then
      let t := r.session.run rest
      { t with
        output := r.output ++ t.output
        prompts := s.prompt :: t.prompts
        history := text :: t.history
        events := r.events ++ t.events }
    else ⟨r.output, [s.prompt], [text], rest.length, none, r.events, r.session⟩

/-- The lines of a session one by one, up to the one that ends it. -/
def exchanges (s : Session) : List Text → List Exchange
  | [] => []
  | t :: rest =>
    let r := s.answer t
    ⟨s, Line.ofText t, r⟩ :: if r.goesOn then r.session.exchanges rest else []

end Session

end Placement
