import QueryCanvas.Toml.Value

/-!
# The tables of a TOML document

A document builds its tables statement by statement. A header defines a table once, and gives
members to the tables on its path that no header has defined yet; an array of tables grows by one
table at each of its headers, and a path through it leads to its last table. A dotted name builds
tables that only dotted names extend, and may pass through what headers have built, but not end
there. A value, once given, is closed.
-/

namespace QueryCanvas.Toml

/-- How a table came to be: on the path of a header, by its own header, or by a dotted name. -/
inductive Origin where
  | implied
  | headed
  | dotted
deriving DecidableEq, Repr

/-- What a name stands for in a document under construction. The tables of an array before its last
one are kept from the last to the first. -/
inductive Node where
  | closed (value : Value)
  | table (origin : Origin) (members : List (String × Node))
  | elements (last : List (String × Node)) (before : List (List (String × Node)))

/-- The members of a table under construction. -/
abbrev Members := List (String × Node)

namespace Members

/-- Put a node in the place of the node of that name. -/
def replace (name : String) (node : Node) (members : Members) : Members :=
  members.map fun (other, old) => (other, if other = name then node else old)

/-- Give a value to a dotted name. -/
def assign (value : Value) : List String → Members → Option Members
  | [], _ => none
  | [name], members =>
      match members.lookup name with
      | none => some (members ++ [(name, .closed value)])
      | some _ => none
  | name :: next :: rest, members =>
      match members.lookup name with
      | none =>
          (assign value (next :: rest) []).map fun inner =>
            members ++ [(name, .table .dotted inner)]
      | some (.table .dotted inner) =>
          (assign value (next :: rest) inner).map fun inner =>
            replace name (.table .dotted inner) members
      | some (.table .implied inner) =>
          if rest.isEmpty then none
          else
            (assign value (next :: rest) inner).map fun inner =>
              replace name (.table .implied inner) members
      | some (.elements last before) =>
          if rest.isEmpty then none
          else
            (assign value (next :: rest) last).map fun last =>
              replace name (.elements last before) members
      | some (.table .headed _) => none
      | some (.closed _) => none

/-- Change the table at the end of a path. Tables that the path lacks are implied. -/
def extend : List String → (Members → Option Members) → Members → Option Members
  | [], change, members => change members
  | name :: rest, change, members =>
      match members.lookup name with
      | none =>
          (extend rest change []).map fun inner => members ++ [(name, .table .implied inner)]
      | some (.table origin inner) =>
          (extend rest change inner).map fun inner => replace name (.table origin inner) members
      | some (.elements last before) =>
          (extend rest change last).map fun last => replace name (.elements last before) members
      | some (.closed _) => none

/-- Define a table by its header. -/
def openTable (name : String) (members : Members) : Option Members :=
  match members.lookup name with
  | none => some (members ++ [(name, .table .headed [])])
  | some (.table .implied inner) => some (replace name (.table .headed inner) members)
  | some _ => none

/-- Begin the next table of an array of tables. -/
def openElement (name : String) (members : Members) : Option Members :=
  match members.lookup name with
  | none => some (members ++ [(name, .elements [] [])])
  | some (.elements last before) =>
      some (replace name (.elements [] (last :: before)) members)
  | some _ => none

end Members

mutual

/-- The finished value of a node. -/
def Node.value : Node → Value
  | .closed value => value
  | .table _ members => .table (finished members)
  | .elements last before => .array (finishedTables before ++ [.table (finished last)])

/-- The finished members of a table. -/
def finished : List (String × Node) → List (String × Value)
  | [] => []
  | (name, node) :: members => (name, node.value) :: finished members

/-- The finished tables of an array, from the first to the last. -/
def finishedTables : List (List (String × Node)) → List Value
  | [] => []
  | members :: before => finishedTables before ++ [.table (finished members)]

end

/-- The table of an inline notation: dotted names with their values. -/
def inlineTable (assignments : List (List String × Value)) : Option Value :=
  (assignments.foldlM (fun members (path, value) => Members.assign value path members) []).map
    fun members => .table (finished members)

end QueryCanvas.Toml
