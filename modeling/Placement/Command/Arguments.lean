import Placement.Command.Vocabulary
import Placement.Property

/-!
# Command lines

A command line is options of the program, a verb, and options of the verb. A long option is `--`
and its name, a short one `-` and its letter; letters of flags may share one `-`. The value of a
parameter follows in the same word or is the next one, which then may not look like an option.

A parameter without its value in the same word is kept waiting: it is settled only when the next
option is taken or the command line ends. So of two mistakes the one met first is not always the
one reported, and `settle` is the place that says which.
-/

namespace Placement

/-! ## What is read -/

/-- Where properties come from: a file, if any, and then single properties, which override it. -/
structure PropertySource where
  file : Option Text
  given : List (Text × Text)
  deriving DecidableEq, Repr

/-- What the program is asked to do, and with what. -/
inductive Command
  | parse (text : Text)
  | check (text : Text) (primary : Bool) (source : PropertySource)
  | repl (primary : Bool) (source : PropertySource)
  deriving DecidableEq, Repr

/-- A command line, understood. -/
structure Invocation where
  verbose : Bool
  trace : Bool
  command : Command
  deriving DecidableEq, Repr

/-- The properties file that a command reads. -/
def Command.file? : Command → Option Text
  | parse _ => none
  | check _ _ source | repl _ source => source.file

/-- Why a command line is not run. Asking for help or the version is one of the reasons. -/
inductive UsageError
  | help (scope : Scope)
  | version
  /-- Nothing at all is on the command line. -/
  | noArguments
  /-- There are options, but no verb. -/
  | missingCommand
  | unknownCommand (word : Text)
  | unknownArgument (word : Text)
  | missingParameter (p : Parameter)
  | missingValue (p : Parameter)
  /-- A flag was given a value. -/
  | unneededValue (f : Flag)
  /-- An option was given twice. -/
  | repeated (s : Setting)
  | badProperty (error : PropertyError)
  deriving DecidableEq, Repr

/-! ## Options of one scope -/

/-- The options read so far in one scope. -/
structure Choices where
  flags : List Flag
  expression : Option Text
  propertiesFile : Option Text
  /-- The single properties, in order. -/
  properties : List (Text × Text)
  /-- A parameter that is not settled yet, with its value if that was read. -/
  waiting : Option (Parameter × Option Text)
  deriving DecidableEq, Repr

namespace Choices

/-- No options. -/
def empty : Choices := ⟨[], none, none, [], none⟩

/-- Whether a parameter that may be given once was given. -/
def has (c : Choices) : Parameter → Bool
  | .expression => c.expression.isSome
  | .propertiesFile => c.propertiesFile.isSome
  | .property => false

/-- Give a parameter its value. That it is there a second time counts before what is wrong with the
value. -/
def record (c : Choices) (p : Parameter) (value : Text) : Except UsageError Choices :=
  if c.has p then .error (.repeated (.parameter p))
  else
    match p with
    | .expression => .ok { c with expression := some value }
    | .propertiesFile =>
      if value.isEmpty then .error (.missingValue p)
      else .ok { c with propertiesFile := some value }
    | .property =>
      match readProperty value with
      | .error e => .error (.badProperty e)
      | .ok entry => .ok { c with properties := c.properties ++ [entry] }

/-- Settle the waiting parameter, if there is one. -/
def settle (c : Choices) : Except UsageError Choices :=
  match c.waiting with
  | none => .ok c
  | some (p, none) => .error (.missingValue p)
  | some (p, some value) => { c with waiting := none }.record p value

/-- Take a flag. Those that ask for help or the version end the reading. -/
def takeFlag (c : Choices) (scope : Scope) (f : Flag) : Except UsageError Choices := do
  let c ← c.settle
  match f with
  | .help => .error (.help scope)
  | .version => .error .version
  | f => if f ∈ c.flags then .error (.repeated (.flag f)) else .ok { c with flags := f :: c.flags }

/-- Take a parameter, with the value that stands in the same word. -/
def takeParameter (c : Choices) (p : Parameter) (value : Option Text) :
    Except UsageError Choices := do
  let c ← c.settle
  match value with
  | some value => c.record p value
  | none => .ok { c with waiting := some (p, none) }

/-- Take a long option, of which `body` is what follows `--`. -/
def takeLong (c : Choices) (scope : Scope) (body : Text) : Except UsageError Choices :=
  let (name, value) := match body.splitAtFirst (· == '=') with
    | some (name, value) => (name, some value)
    | none => (body, none)
  match scope.ofLongName? name, value with
  | some (.flag f), none => c.takeFlag scope f
  | some (.flag f), some _ => .error (.unneededValue f)
  | some (.parameter p), value => c.takeParameter p value
  | none, _ => .error (.unknownArgument (['-', '-'] ++ body))

/-- The value that follows a letter in the same word. A `=` between them is no part of it. -/
def attachedValue : Text → Option Text
  | [] => none
  | '=' :: value => some value
  | value => some value

/-- Take the letters that follow one `-`. A parameter takes the rest of them as its value. -/
def takeLetters (c : Choices) (scope : Scope) : Text → Except UsageError Choices
  | [] => .ok c
  | letter :: rest =>
    match scope.ofLetter? letter with
    | some (.flag f) => do (← c.takeFlag scope f).takeLetters scope rest
    | some (.parameter p) => c.takeParameter p (attachedValue rest)
    | none => .error (.unknownArgument ['-', letter])

/-- Take a word that is no option: it can only be the value of the parameter that lacks one. -/
def takeWord (c : Choices) (word : Text) : Except UsageError Choices :=
  match c.waiting with
  | some (p, none) => .ok { c with waiting := some (p, some word) }
  | _ => .error (.unknownArgument word)

end Choices

/-! ## Words -/

/-- What a word looks like. -/
inductive WordShape
  /-- `--` alone: no word after it is an option. -/
  | endOfOptions
  | long (body : Text)
  | letters (body : Text)
  /-- Anything else, also `-` alone. -/
  | plain
  deriving DecidableEq, Repr

/-- The shape of a word. -/
def WordShape.ofText : Text → WordShape
  | ['-', '-'] => endOfOptions
  | '-' :: '-' :: body => long body
  | ['-'] => plain
  | '-' :: body => letters body
  | _ => plain

/-- Read the words after a verb. -/
def readOptions (v : Verb) (c : Choices) : List Text → Except UsageError Choices
  | [] => c.settle
  | word :: rest =>
    match WordShape.ofText word with
    | .endOfOptions =>
      match rest with
      | [] => c.settle
      | word :: _ => .error (.unknownArgument word)
    | .long body => do readOptions v (← c.takeLong (.verb v) body) rest
    | .letters body => do readOptions v (← c.takeLetters (.verb v) body) rest
    | .plain => do readOptions v (← c.takeWord word) rest

/-- The command of a verb and its options. -/
def Verb.command (v : Verb) (c : Choices) : Except UsageError Command :=
  let source : PropertySource := ⟨c.propertiesFile, c.properties⟩
  let primary : Bool := .primary ∈ c.flags
  match v, c.expression with
  | repl, _ => .ok (.repl primary source)
  | parse, some text => .ok (.parse text)
  | check, some text => .ok (.check text primary source)
  | parse, none | check, none => .error (.missingParameter .expression)

/-- Read a command line from its verb on, after the options `outer` of the program. A flag counts
wherever it stands. -/
def readVerb (v : Verb) (outer : Choices) (words : List Text) : Except UsageError Invocation := do
  let c ← readOptions v .empty words
  let command ← v.command c
  let given (f : Flag) : Bool := f ∈ outer.flags ++ c.flags
  return ⟨given .verbose, given .trace, command⟩

/-- What the words after `help` ask about. No verb knows further words. -/
def helpTopic : List Text → UsageError
  | [] => .help .program
  | word :: rest =>
    match Scope.ofName? word, rest with
    | some scope, [] => .help scope
    | some _, next :: _ => .unknownCommand next
    | none, _ => .unknownCommand word

/-- Why a command line without a verb is not run. -/
def missingVerb (c : Choices) : UsageError :=
  if c.flags.isEmpty then .noArguments else .missingCommand

/-- Read a command line from some point before its verb on. -/
def readProgram (c : Choices) : List Text → Except UsageError Invocation
  | [] => .error (missingVerb c)
  | word :: rest =>
    match Scope.ofName? word with
    | some (.verb v) => readVerb v c rest
    | some _ => .error (helpTopic rest)
    | none =>
      match WordShape.ofText word with
      | .endOfOptions =>
        match rest with
        | [] => .error (missingVerb c)
        | word :: _ =>
          .error (if (Scope.ofName? word).isSome then .unknownArgument word
            else .unknownCommand word)
      | .long body => do readProgram (← c.takeLong .program body) rest
      | .letters body => do readProgram (← c.takeLetters .program body) rest
      | .plain => .error (.unknownCommand word)

/-- Read a command line, given without the name of the program. -/
def readArguments (words : List Text) : Except UsageError Invocation := readProgram .empty words

/-- Read what follows the verb `repl`. -/
def readSessionArguments (words : List Text) : Except UsageError Invocation :=
  readVerb .repl .empty words

/-! ## Wording -/

/-- The wording of an error. Asking for a text is none and has none. -/
def UsageError.message : UsageError → Text
  | help _ | version => []
  | noArguments | missingCommand => "a command is missing".toList
  | unknownCommand word => "unknown command `".toList ++ word ++ ['`']
  | unknownArgument word => "unexpected argument `".toList ++ word ++ ['`']
  | missingParameter p => "`".toList ++ (Setting.parameter p).longForm ++ "` is missing".toList
  | missingValue p => "`".toList ++ (Setting.parameter p).longForm ++ "` needs a value".toList
  | unneededValue f => "`".toList ++ (Setting.flag f).longForm ++ "` takes no value".toList
  | repeated s => "`".toList ++ s.longForm ++ "` is given more than once".toList
  | badProperty e => e.message

end Placement
