import QueryCanvas.Command.Invocation

/-!
# Help

The text that explains the program, one of its commands, or help itself. Names stand in a column
that is as wide as the widest of them, with explanations to the right.
-/

namespace QueryCanvas.Command

/-- A text followed by blanks up to a width. -/
def padded (width : Nat) (text : String) : String :=
  text ++ String.ofList (List.replicate (width - text.length) ' ')

/-- Rows of two columns. -/
def columns (rows : List (String × String)) : List String :=
  let width := (rows.map (·.1.length)).foldl max 0
  rows.map fun (name, about) => "  " ++ padded width name ++ "  " ++ about

/-- The placeholder for the value of an option, in angle brackets. -/
def OptionEntry.placeholder : OptionEntry → String
  | ⟨_, _, .text name, _, _⟩ => " <" ++ name ++ ">"
  | ⟨_, _, .path name, _, _⟩ => " <" ++ name ++ ">"
  | _ => ""

/-- An option as the list of options shows it. -/
def OptionEntry.row (entry : OptionEntry) : String × String :=
  let letter := match entry.short with
    | some c => String.ofList ['-', c, ',', ' ']
    | none => "    "
  (letter ++ "--" ++ entry.long ++ entry.placeholder, entry.about)

/-- A required option as the line of usage shows it. -/
def OptionEntry.usage (entry : OptionEntry) : String :=
  " --" ++ entry.long ++ entry.placeholder

/-- What asking for help does. -/
def helpAbout : String :=
  "Print this message or the help of the given subcommand(s)"

/-- The help of the program. -/
def programHelp : List String :=
  ["erdq - Compile entity-relationship diagrams into query specifications", "",
   "Usage: erdq [OPTIONS] <COMMAND>", "", "Commands:"] ++
    columns (Topic.all.map (fun t => (t.name, t.about)) ++
      [("help", helpAbout)]) ++
    ["", "Options:"] ++ columns (programOptions.map OptionEntry.row)

/-- The help of a command. -/
def Topic.help (topic : Topic) : List String :=
  let required := (topic.options.filter (·.isRequired)).map OptionEntry.usage
  let operand := if topic.takesScript then " <SCRIPT>" else ""
  [topic.about, "", "Usage: erdq " ++ topic.name ++ " [OPTIONS]" ++ String.join required ++ operand,
   ""] ++
    (if topic.takesScript then
      "Arguments:" :: columns [("<SCRIPT>", "Path to the script (.json)")] ++ [""]
    else []) ++
    "Options:" :: columns (topic.options.map OptionEntry.row)

/-- The help on help. -/
def helpHelp : List String :=
  [helpAbout, "", "Usage: erdq help [COMMAND]...", "", "Arguments:"] ++
    columns [("[COMMAND]...", "Print help for the subcommand(s)")]

/-- The lines of help. -/
def Subject.lines : Subject → List String
  | .program => programHelp
  | .command topic => topic.help
  | .help => helpHelp

/-- The text of help. -/
def helpText (subject : Subject) : String :=
  "\n".intercalate subject.lines

end QueryCanvas.Command
