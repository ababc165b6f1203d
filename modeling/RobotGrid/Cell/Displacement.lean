import RobotGrid.Cell
/-!
# Displacements

A displacement is a shift by given amounts or a step in the direction of a heading.
-/

set_option autoImplicit false

namespace RobotGrid

inductive Displacement where
  | shift (dx dy : Int)
  | step (heading : Heading)
  deriving DecidableEq

def Displacement.delta : Displacement → Int × Int
  | .shift dx dy => (dx, dy)
  | .step heading => heading.delta

namespace Cell

def displace (c : Cell) (d : Displacement) : Cell := c.shift d.delta

def displaceAll (c : Cell) (ds : List Displacement) : Cell := ds.foldl displace c

end Cell
end RobotGrid
