import QueryCanvas.Command.Arguments
import QueryCanvas.Host.OsText

/-!
# Invocations

The program has three commands. `Invocation.read` gives the command that arguments ask for, or says
that they ask for help or the version, or make no sense. The file of the settings may be given
before and after the name of the command; the one after it counts. Arguments are texts; the paths
among them become bytes of the system.
-/

namespace QueryCanvas

namespace Command

/-- The name of the program. -/
def programName : String := "erdq"

/-- The version of the program. -/
def programVersion : String := "0.1.0"

/-- The option for the file of the settings. -/
def configOption : OptionEntry :=
  ⟨"config", none, .path "CONFIG", false, "Path to an erdq.toml config file"⟩

/-- The option that asks for help. -/
def helpOption : OptionEntry :=
  ⟨"help", some 'h', .help, false, "Print help"⟩

/-- The option that asks for the version. -/
def versionOption : OptionEntry :=
  ⟨"version", some 'V', .version, false, "Print version"⟩

/-- The options before the name of the command. -/
def programOptions : List OptionEntry :=
  [configOption, helpOption, versionOption]

/-- A command as it is called. -/
inductive Topic where
  | tables
  | compile
  | submit
deriving DecidableEq, Repr

namespace Topic

/-- All commands. -/
def all : List Topic :=
  [.tables, .compile, .submit]

/-- The name of a command. -/
def name : Topic → String
  | .tables => "tables"
  | .compile => "compile"
  | .submit => "submit"

/-- What a command does. -/
def about : Topic → String
  | .tables => "List the tables of a data source with their field types"
  | .compile => "Replay a gesture script and print the canonical specification"
  | .submit => "Replay a gesture script and submit it to the query API"

/-- The options of a command. -/
def options : Topic → List OptionEntry
  | .tables =>
      [configOption,
       ⟨"data-source", some 'd', .text "DATA_SOURCE", true, "Data source identifier"⟩,
       ⟨"data-service", none, .text "DATA_SERVICE", false,
        "Override the configured data service URL"⟩,
       helpOption]
  | .compile =>
      [configOption,
       ⟨"output", some 'o', .path "OUTPUT", false,
        "Write the specification to this file instead of stdout"⟩,
       ⟨"copy", none, .switch, false, "Copy the specification to the clipboard"⟩,
       ⟨"data-source", some 'd', .text "DATA_SOURCE", false,
        "Resolve tables missing from the script against this data source"⟩,
       helpOption]
  | .submit =>
      [configOption,
       ⟨"data-source", some 'd', .text "DATA_SOURCE", true, "Data source identifier"⟩,
       ⟨"type", some 't', .text "QUERY_TYPE", true, "Query type discriminator"⟩,
       ⟨"api-service", none, .text "API_SERVICE", false,
        "Override the configured API service URL"⟩,
       helpOption]

/-- The command is called with a script. -/
def takesScript : Topic → Bool
  | .tables => false
  | .compile => true
  | .submit => true

/-- The command of that name. -/
def ofName? (name : String) : Option Topic :=
  all.find? (·.name == name)

end Topic

end Command

/-- What help is about: the program, one of its commands, or help itself. -/
inductive Command.Subject where
  | program
  | command (topic : Command.Topic)
  | help
deriving DecidableEq, Repr

/-- A command with its options. -/
inductive Command where
  | tables (dataSource : String) (dataService : Option String)
  | compile (script : OsText) (output : Option OsText) (copy : Bool) (dataSource : Option String)
  | submit (script : OsText) (dataSource queryType : String) (apiService : Option String)
deriving DecidableEq, Repr

/-- What arguments ask for. -/
inductive Invocation where
  | call (config : Option OsText) (command : Command)
  | help (subject : Command.Subject)
  | version
  | misuse
deriving DecidableEq, Repr

namespace Command

/-- The command that its options and operands describe, if none of those that it needs lacks. -/
def ofGiven? (topic : Topic) (g : Given) : Option Command :=
  match topic with
  | .tables => do return .tables (← g.value? "data-source") (g.value? "data-service")
  | .compile => do
      return .compile (← g.operands.head?) ((g.value? "output").map OsText.ofString)
        (g.value? "copy").isSome (g.value? "data-source")
  | .submit => do
      return .submit (← g.operands.head?) (← g.value? "data-source") (← g.value? "type")
        (g.value? "api-service")

end Command

namespace Invocation

open Command

/-- What arguments ask for that ended early. -/
def ofStop (subject : Subject) : Stop → Invocation
  | .help => .help subject
  | .version => .version
  | .misuse => .misuse

/-- The command that the arguments after its name describe. -/
def readTopic (topic : Topic) (arguments : List String) : Except Stop (Given × Command) := do
  let limit := if topic.takesScript then 1 else 0
  let (g, pending, _) ← readArguments topic.options (some limit) .nothing Given.none arguments
  let g ← g.settle pending
  match Command.ofGiven? topic g with
  | some command => return (g, command)
  | none => throw .misuse

/-- What a call of a command asks for, after the arguments before its name. What these left open is
settled last. -/
def ofTopic (outer : Given) (pending : Pending) (topic : Topic) (arguments : List String) :
    Invocation :=
  match readTopic topic arguments with
  | .error stop => ofStop (.command topic) stop
  | .ok (g, command) =>
      match outer.settle pending with
      | .error stop => ofStop .program stop
      | .ok outer =>
          let config := (g.value? "config").or (outer.value? "config")
          .call (config.map OsText.ofString) command

/-- What arguments ask for. -/
def read (arguments : List String) : Invocation :=
  match readArguments programOptions none .nothing Given.none arguments with
  | .error stop => ofStop .program stop
  | .ok (_, _, []) => .misuse
  | .ok (_, _, ["help"]) => .help .program
  | .ok (_, _, ["help", "help"]) => .help .help
  | .ok (_, _, ["help", name]) =>
      match Topic.ofName? name with
      | some topic => .help (.command topic)
      | none => .misuse
  | .ok (outer, pending, name :: rest) =>
      match Topic.ofName? name with
      | some topic => ofTopic outer pending topic rest
      | none => .misuse

end Invocation

end QueryCanvas
