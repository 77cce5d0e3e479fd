/-!
# Arguments of a command

A command takes options, named by a long name after two hyphens or by a letter after one, and
operands. An option may be given once; the value of an option that takes one is the rest of its
argument or the next argument, which must not begin with a hyphen. Paths must not be empty. After a
lone pair of hyphens every argument is an operand. Arguments are judged from the left, but a value
in an argument of its own only when the next option or operand is read.
-/

namespace QueryCanvas.Command

/-- What an option does or takes. -/
inductive OptionKind where
  | help
  | version
  | switch
  | text (placeholder : String)
  | path (placeholder : String)
deriving DecidableEq, Repr

/-- An option of a command. -/
structure OptionEntry where
  long : String
  short : Option Char
  kind : OptionKind
  isRequired : Bool
  about : String
deriving DecidableEq, Repr

/-- Why reading arguments ends early. -/
inductive Stop where
  | help
  | version
  | misuse
deriving DecidableEq, Repr

/-- The options with their values, and the operands. -/
structure Given where
  values : List (String × String)
  operands : List String
deriving DecidableEq, Repr

namespace Given

/-- Nothing is given. -/
def none : Given :=
  ⟨[], []⟩

/-- The value of an option. -/
def value? (g : Given) (long : String) : Option String :=
  g.values.lookup long

/-- Give an option its value. -/
def record (g : Given) (entry : OptionEntry) (value : String) : Except Stop Given :=
  match g.value? entry.long, entry.kind with
  | some _, _ => .error .misuse
  | .none, .path _ =>
      if value = "" then .error .misuse
      else .ok { g with values := g.values ++ [(entry.long, value)] }
  | .none, _ => .ok { g with values := g.values ++ [(entry.long, value)] }

/-- Add an operand, which is a path, up to a number of them. -/
def addOperand (g : Given) (limit : Nat) (operand : String) : Except Stop Given :=
  if g.operands.length < limit ∧ operand ≠ "" then
    .ok { g with operands := g.operands ++ [operand] }
  else .error .misuse

/-- Add several operands. -/
def addOperands (g : Given) (limit : Nat) (operands : List String) : Except Stop Given :=
  operands.foldlM (fun g operand => g.addOperand limit operand) g

end Given

/-- An argument by its hyphens: a lone pair, an option by its long name and perhaps a value, options
by their letters, or anything else. -/
inductive Argument where
  | escape
  | long (name : String) (value : Option String)
  | short (letters : List Char)
  | operand (text : String)
deriving DecidableEq, Repr

namespace Argument

/-- The name of a long option and its value, if an equals sign divides them. -/
def splitLong (cs : List Char) : Argument :=
  let name := String.ofList (cs.takeWhile (· != '='))
  match cs.dropWhile (· != '=') with
  | [] => .long name none
  | _ :: value => .long name (some (String.ofList value))

/-- Classify an argument. -/
def ofText (text : String) : Argument :=
  match text.toList with
  | ['-', '-'] => .escape
  | '-' :: '-' :: cs => splitLong cs
  | '-' :: c :: cs => .short (c :: cs)
  | _ => .operand text

end Argument

/-- Apply an option that takes no value. -/
def applyFlag (g : Given) (entry : OptionEntry) : Except Stop Given :=
  match entry.kind with
  | .help => .error .help
  | .version => .error .version
  | _ => g.record entry ""

/-- The option takes a value. -/
def OptionEntry.takesValue (entry : OptionEntry) : Bool :=
  match entry.kind with
  | .text _ => true
  | .path _ => true
  | _ => false

/-- Read the letters of an argument. An option whose value is still to come is given back. -/
def readShort (options : List OptionEntry) (g : Given) :
    List Char → Except Stop (Option OptionEntry × Given)
  | [] => .ok (none, g)
  | c :: cs =>
      match options.find? (·.short == some c) with
      | none => .error .misuse
      | some entry =>
          if entry.takesValue then
            match cs with
            | [] => .ok (some entry, g)
            | '=' :: value => (g.record entry (String.ofList value)).map (none, ·)
            | value => (g.record entry (String.ofList value)).map (none, ·)
          else (applyFlag g entry).bind fun g => readShort options g cs

/-- Read an option by its long name. An option whose value is still to come is given back. -/
def readLong (options : List OptionEntry) (g : Given) (name : String) (value : Option String) :
    Except Stop (Option OptionEntry × Given) :=
  match options.find? (·.long == name) with
  | none => .error .misuse
  | some entry =>
      match entry.takesValue, value with
      | true, some value => (g.record entry value).map (none, ·)
      | true, none => .ok (some entry, g)
      | false, none => (applyFlag g entry).map (none, ·)
      | false, some _ => .error .misuse

/-- What is open between two arguments: nothing, an option that waits for its value, or an option
whose value, given by an argument of its own, is yet to be recorded. -/
inductive Pending where
  | nothing
  | waiting (entry : OptionEntry)
  | unrecorded (entry : OptionEntry) (value : String)
deriving DecidableEq, Repr

/-- An option waits for its value, or none does. -/
def Pending.ofOption : Option OptionEntry → Pending
  | some entry => .waiting entry
  | none => .nothing

/-- Record what is open. An option that still waits for its value never gets one. -/
def Given.settle (g : Given) : Pending → Except Stop Given
  | .nothing => .ok g
  | .waiting _ => .error .misuse
  | .unrecorded entry value => g.record entry value

/-- Read arguments. A value in an argument of its own is recorded when the next option or operand is
read. If `limit` is nothing, reading stops before the first operand; else there may be so many
operands. What is open at the end and what was not read are given back. -/
def readArguments (options : List OptionEntry) (limit : Option Nat) :
    Pending → Given → List String → Except Stop (Given × Pending × List String)
  | pending, g, [] => .ok (g, pending, [])
  | pending, g, text :: rest =>
      match Argument.ofText text, pending, limit with
      | .operand value, .waiting entry, limit =>
          readArguments options limit (.unrecorded entry value) g rest
      | .operand operand, pending, none => .ok (g, pending, operand :: rest)
      | .operand operand, pending, some n => do
          let g ← (← g.settle pending).addOperand n operand
          readArguments options limit .nothing g rest
      | .escape, pending, some n => do
          return (← (← g.settle pending).addOperands n rest, .nothing, [])
      | .escape, _, none => .error .misuse
      | .long name value, pending, limit => do
          let (waiting, g) ← readLong options (← g.settle pending) name value
          readArguments options limit (.ofOption waiting) g rest
      | .short letters, pending, limit => do
          let (waiting, g) ← readShort options (← g.settle pending) letters
          readArguments options limit (.ofOption waiting) g rest

end QueryCanvas.Command
