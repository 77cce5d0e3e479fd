import QueryCanvas.Number.Shortest
import QueryCanvas.Text.Quoted

/-!
# What can be wrong with a document

A document that cannot be read is malformed, unfinished, or well formed and unfit for the type
that was asked for. `Problem.message` is the text of an unfit document's problem.
-/

namespace QueryCanvas.Json

/-- What stands where another kind of value was wanted. -/
inductive Found where
  | null
  | bool (value : Bool)
  | int (value : Int)
  | float (bits : UInt64)
  | string (value : String)
  | sequence
  | map
  | bareVariant
deriving DecidableEq, Repr

/-- A found value, as messages name it. -/
def Found.describe : Found → String
  | .null => "null"
  | .bool true => "boolean `true`"
  | .bool false => "boolean `false`"
  | .int n => "integer `" ++ toString n ++ "`"
  | .float bits => "floating point `" ++ String.ofList (Number.renderBits bits) ++ "`"
  | .string s => "string " ++ Text.quoted s
  | .sequence => "sequence"
  | .map => "map"
  | .bareVariant => "unit variant"

/-- Why a well-formed document does not fit the type that was asked for. -/
inductive Problem where
  | wrongType (found : Found) (wanted : String)
  | outOfRange (value : Int) (wanted : String)
  | severalKeys
  | unknownVariant (name : String) (known : List String)
  | missingField (name : String)
  | duplicateField (name : String)
  | wrongLength (length : Nat) (wanted : String)
  | refused (reason : String)
deriving DecidableEq, Repr

/-- A name between backticks. -/
def ticked (name : String) : String :=
  "`" ++ name ++ "`"

/-- The names that would have been accepted. -/
def expectation : List String → String
  | [] => "there are no variants"
  | [a] => "expected " ++ ticked a
  | [a, b] => "expected " ++ ticked a ++ " or " ++ ticked b
  | names => "expected one of " ++ ", ".intercalate (names.map ticked)

/-- The text of a problem. -/
def Problem.message : Problem → String
  | .wrongType found wanted => "invalid type: " ++ found.describe ++ ", expected " ++ wanted
  | .outOfRange n wanted =>
      "invalid value: integer " ++ ticked (toString n) ++ ", expected " ++ wanted
  | .severalKeys => "invalid value: map, expected map with a single key"
  | .unknownVariant name known =>
      "unknown variant " ++ ticked name ++ ", " ++ expectation known
  | .missingField name => "missing field " ++ ticked name
  | .duplicateField name => "duplicate field " ++ ticked name
  | .wrongLength length wanted =>
      "invalid length " ++ toString length ++ ", expected " ++ wanted
  | .refused reason => reason

/-- Why a text cannot be read as a document of the wanted type. -/
inductive ReadError where
  | malformed
  | unfinished
  | unfit (problem : Problem)
deriving DecidableEq, Repr

/-- The text of a failed reading. -/
def ReadError.message : ReadError → String
  | .malformed => "the text is malformed"
  | .unfinished => "the text ends early"
  | .unfit problem => problem.message

end QueryCanvas.Json
