import QueryCanvas.Table.Basic

/-!
# The sidebar

The sidebar shows the tables of the selected data source. Each selection starts a fetch and has a
number of its own; the result of a fetch is shown only while its selection is the last one.
-/

namespace QueryCanvas

/-- What the sidebar shows. -/
structure Sidebar where
  dataSource : Option String := none
  generation : UInt64 := 0
  loading : Bool := false
  tables : List Table := []
  error : Option String := none
deriving DecidableEq, Repr

namespace Sidebar

/-- Select a data source. What was shown before is cleared. -/
def select (s : Sidebar) (dataSource : String) : Sidebar where
  dataSource := some dataSource
  generation := s.generation + 1
  loading := true
  tables := []
  error := none

/-- The result of the fetch that a selection started arrives: the tables, or the text of an error.
The result of an earlier selection is discarded. -/
def deliver (s : Sidebar) (generation : UInt64) (result : Except String (List Table)) : Sidebar :=
  if s.generation ≠ generation then s
  else
    match result with
    | .ok tables => { s with loading := false, tables := tables, error := none }
    | .error message => { s with loading := false, tables := [], error := some message }

/-- What a reader is given who waits for the fetch: nothing as long as it is under way. -/
def loaded? (s : Sidebar) : Option Sidebar :=
  if s.loading then none else some s

/-- The first table of that name. -/
def table? (s : Sidebar) (name : String) : Option Table :=
  s.tables.find? (·.name == name)

end Sidebar

end QueryCanvas
