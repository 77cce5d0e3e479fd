/-!
# The grid of nodes

New nodes are placed on a grid of three columns, row by row.
-/

namespace QueryCanvas

/-- The number of columns of the grid. -/
def gridColumns : UInt64 := 3

/-- The place of a node's upper left corner. -/
structure Position where
  x : Float
  y : Float
deriving Repr

/-- Where the grid starts and how far apart its columns and rows are. -/
structure GridLayout where
  originX : Float := 50
  originY : Float := 50
  columnSpacing : Float := 300
  rowSpacing : Float := 250
deriving Repr

/-- The place of the `n`-th node. -/
def GridLayout.positionFor (layout : GridLayout) (n : UInt64) : Position where
  x := layout.originX + (n % gridColumns).toFloat * layout.columnSpacing
  y := layout.originY + (n / gridColumns).toFloat * layout.rowSpacing

end QueryCanvas
