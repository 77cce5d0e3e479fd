import QueryCanvas.Text.Search

/-!
# Connection handles

Every field of a node has two handles, one for each end of a connection. A handle is written as the
node, the field and the side joined by dashes. `Handle.parse?` reads any written handle, also one
whose node has leading zeros; `fieldOf?` reads the field when the node is known, and wants the node
in its canonical form.
-/

namespace QueryCanvas

/-- The number of a node on the canvas. -/
abbrev NodeId := UInt64

/-- The decimal form of a node. -/
def nodeText (node : NodeId) : String :=
  toString node.toNat

/-- The end of a connection that a handle belongs to. -/
inductive HandleSide where
  | source
  | target
deriving DecidableEq, Repr

/-- The name of a side. -/
def HandleSide.name : HandleSide → String
  | .source => "source"
  | .target => "target"

/-- A handle: a side of a field of a node. -/
structure Handle where
  node : NodeId
  field : String
  side : HandleSide
deriving DecidableEq, Repr

/-- The characters that follow the field of a handle. -/
def HandleSide.tail (side : HandleSide) : List Char :=
  '-' :: side.name.toList

/-- The part of the characters before the tail of a side, with that side. -/
def splitSide? (cs : List Char) : Option (List Char × HandleSide) :=
  match HandleSide.source.tail.isSuffixOf? cs with
  | some field => some (field, .source)
  | none =>
      match HandleSide.target.tail.isSuffixOf? cs with
      | some field => some (field, .target)
      | none => none

/-- The number that decimal digits write. -/
def digitsNumber (digits : List Char) : Nat :=
  digits.foldl (fun n c => n * 10 + (c.toNat - '0'.toNat)) 0

namespace Handle

/-- The written form of a handle. -/
def encode (h : Handle) : String :=
  nodeText h.node ++ "-" ++ h.field ++ "-" ++ h.side.name

/-- Read a handle: digits of a 64-bit number, a dash, a field that is not empty and holds no line
feed, and the tail of a side. -/
def parse? (text : String) : Option Handle :=
  let digits := text.toList.takeWhile Char.isDigit
  match text.toList.dropWhile Char.isDigit with
  | '-' :: rest =>
      match splitSide? rest with
      | some (field, side) =>
          if digits ≠ [] ∧ digitsNumber digits < UInt64.size ∧ field ≠ [] ∧ '\n' ∉ field then
            some ⟨(digitsNumber digits).toUInt64, String.ofList field, side⟩
          else none
      | none => none
  | _ => none

end Handle

/-- The field that a handle of the given node names. -/
def fieldOf? (node : NodeId) (handle : String) : Option String :=
  match ((nodeText node).toList ++ ['-']).isPrefixOf? handle.toList with
  | some rest =>
      match splitSide? rest with
      | some (c :: field, _) => some (String.ofList (c :: field))
      | _ => none
  | none => none

end QueryCanvas
