import QueryCanvas.Json.Decoder

/-!
# Field keys

A field key names a field of a table and is written `table.field`. Reading cuts a text at its first
point, so a field may contain points and a table may not; neither part may be empty.
-/

namespace QueryCanvas

/-- The key of a field of a table. -/
structure FieldKey where
  table : String
  field : String
deriving DecidableEq, Repr

namespace FieldKey

/-- The written form of a key. -/
def text (k : FieldKey) : String :=
  k.table ++ "." ++ k.field

/-- The parts of a text before and after its first point. -/
def cut? : List Char → Option (List Char × List Char)
  | [] => none
  | c :: cs =>
      if c = '.' then some ([], cs) else (cut? cs).map fun (table, field) => (c :: table, field)

/-- The key that a text names. -/
def parse? (s : String) : Option FieldKey :=
  match cut? s.toList with
  | some (t :: table, f :: field) => some ⟨String.ofList (t :: table), String.ofList (f :: field)⟩
  | _ => none

/-- The message for a text that names no key. -/
def malformedMessage (s : String) : String :=
  "invalid field key '" ++ s ++ "': expected 'table.field'"

/-- Keys are ordered by table, then by field. -/
def le (a b : FieldKey) : Bool :=
  a.table < b.table || (a.table == b.table && a.field ≤ b.field)

/-- A key is written as its text. -/
def toJson (k : FieldKey) : Json :=
  .string k.text

/-- A key is read from its text. -/
def decoder : Json.Decoder FieldKey :=
  Json.Decoder.string.refine fun s =>
    match parse? s with
    | some k => .ok k
    | none => .error (.refused (malformedMessage s))

end FieldKey

end QueryCanvas
