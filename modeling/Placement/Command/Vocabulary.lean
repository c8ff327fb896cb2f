import Placement.Text.Basic

/-!
# The words of the command line

The program has three verbs, and options that stand before or after the verb. An option is a flag,
which is there or not, or a parameter, which has a value.

`Scope.options` is the one table of them: reading a command line looks options up in it, and the
help texts list it in its order.
-/

namespace Placement

/-- The name of the program. -/
def programName : Text := "fabric-constraint".toList

/-- The version of the program. -/
def version : Text := "0.0.1".toList

/-- What the program is asked to do. -/
inductive Verb
  | parse
  | check
  | repl
  deriving DecidableEq, Repr

namespace Verb

/-- Every verb, as they are listed. -/
def all : List Verb := [parse, check, repl]

def name : Verb → Text
  | parse => "parse".toList
  | check => "check".toList
  | repl => "repl".toList

/-- The verb of a name. -/
def ofName? (word : Text) : Option Verb := all.find? (·.name == word)

end Verb

/-- Where on the command line an option stands, and also what a help text is about: before the
verb, after one, or after `help`. -/
inductive Scope
  | program
  | verb (v : Verb)
  | help
  deriving DecidableEq, Repr

/-- An option without a value. -/
inductive Flag
  | verbose
  | trace
  | primary
  | help
  | version
  deriving DecidableEq, Repr

/-- The long name of a flag. -/
def Flag.name : Flag → Text
  | verbose => "verbose".toList
  | trace => "trace".toList
  | primary => "primary".toList
  | help => "help".toList
  | version => "version".toList

/-- An option with a value. -/
inductive Parameter
  | expression
  | property
  | propertiesFile
  deriving DecidableEq, Repr

namespace Parameter

/-- The long name of a parameter. -/
def name : Parameter → Text
  | expression => "expr".toList
  | property => "prop".toList
  | propertiesFile => "props-file".toList

/-- What its value is called in the help texts. -/
def valueName : Parameter → Text
  | expression => "<EXPR>".toList
  | property => "<NAME=VALUE>".toList
  | propertiesFile => "<PATH>".toList

/-- Whether it has to be given wherever it is known. -/
def isRequired : Parameter → Bool
  | expression => true
  | property | propertiesFile => false

end Parameter

/-- What an option sets. -/
inductive Setting
  | flag (f : Flag)
  | parameter (p : Parameter)
  deriving DecidableEq, Repr

namespace Setting

/-- The long name of an option. -/
def name : Setting → Text
  | flag f => f.name
  | parameter p => p.name

/-- An option in its long form, with the name of its value. -/
def longForm : Setting → Text
  | flag f => ['-', '-'] ++ f.name
  | parameter p => ['-', '-'] ++ p.name ++ [' '] ++ p.valueName

end Setting

/-- An option: what it sets, its letter, and what the help texts say about it. -/
structure CommandOption where
  setting : Setting
  letter : Option Char
  summary : Text
  deriving DecidableEq, Repr

namespace CommandOption

def verbose : CommandOption :=
  ⟨.flag .verbose, some 'v', "Log compilation and cache activity".toList⟩

def trace : CommandOption :=
  ⟨.flag .trace, none, "Trace every node as it is evaluated".toList⟩

def help : CommandOption := ⟨.flag .help, some 'h', "Print help".toList⟩

def version : CommandOption := ⟨.flag .version, some 'V', "Print version".toList⟩

def expression : CommandOption := ⟨.parameter .expression, some 'e', "Constraint text".toList⟩

def property : CommandOption :=
  ⟨.parameter .property, some 'p',
    "Property as NAME=VALUE (repeatable, overrides the file)".toList⟩

def propertiesFile : CommandOption :=
  ⟨.parameter .propertiesFile, none, "JSON object of string properties".toList⟩

/-- The flag for the primary replica. Checking and sessions describe it differently. -/
def primary (summary : Text) : CommandOption := ⟨.flag .primary, none, summary⟩

end CommandOption

namespace Scope

open CommandOption

/-- The options known in a scope, as they are listed. -/
def options : Scope → List CommandOption
  | program => [verbose, trace, CommandOption.help, CommandOption.version]
  | verb .parse => [expression, verbose, trace, CommandOption.help]
  | verb .check =>
    [expression, primary "Evaluate for the primary replica".toList, property, propertiesFile,
      verbose, trace, CommandOption.help]
  | verb .repl =>
    [primary "Start in primary mode".toList, property, propertiesFile, verbose, trace,
      CommandOption.help]
  | help => []

/-- The option of a long name. -/
def ofLongName? (s : Scope) (name : Text) : Option Setting :=
  (s.options.map (·.setting)).find? (·.name == name)

/-- The option of a letter. -/
def ofLetter? (s : Scope) (letter : Char) : Option Setting :=
  (s.options.find? (·.letter == some letter)).map (·.setting)

/-- The word that asks for help where a verb may stand. -/
def helpName : Text := "help".toList

/-- The scope of a word that stands in place of a verb. -/
def ofName? (word : Text) : Option Scope :=
  if word = helpName then some help else (Verb.ofName? word).map verb

end Scope

end Placement
