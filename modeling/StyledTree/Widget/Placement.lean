set_option autoImplicit false

namespace StyledTree

inductive Axis where
  | horizontal
  | vertical
deriving DecidableEq, Inhabited

namespace Axis

def text : Axis → String
  | .horizontal => "horizontal"
  | .vertical => "vertical"

end Axis

inductive Layout where
  | flow
  | box (axis : Axis)
  | grid (rows columns : UInt16)
  | border
  | card
  | gridBag
deriving DecidableEq, Inhabited

namespace Layout

/-- Every child needs a placement constraint. -/
def requiresConstraints : Layout → Bool
  | .border | .card | .gridBag => true
  | .flow | .box _ | .grid .. => false

/-- The text that shows a layout to a developer. -/
def debugText : Layout → String
  | .flow => "Flow"
  | .box .horizontal => "Box(Horizontal)"
  | .box .vertical => "Box(Vertical)"
  | .grid rows columns =>
    "Grid \x7b rows: " ++ toString rows.toNat ++ ", columns: " ++ toString columns.toNat ++ " \x7d"
  | .border => "Border"
  | .card => "Card"
  | .gridBag => "GridBag"

end Layout

/-- Where a child sits inside its parent. -/
inductive Constraint where
  | north
  | south
  | east
  | west
  | center
  /-- The left or top side of a split pane. -/
  | leading
  /-- The right or bottom side of a split pane. -/
  | trailing
  /-- A named card. -/
  | card (name : String)
deriving DecidableEq, Inhabited

namespace Constraint

def text : Constraint → String
  | .north => "north"
  | .south => "south"
  | .east => "east"
  | .west => "west"
  | .center => "center"
  | .leading => "leading"
  | .trailing => "trailing"
  | .card name => "card:" ++ name

end Constraint

end StyledTree
