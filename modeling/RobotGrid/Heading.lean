import RobotGrid.Text.Blank
import RobotGrid.Text.Upper
/-!
# Headings

The four directions a robot faces, their names, quarter turns and unit steps. North is towards
growing `y`. Main statements: the two turns undo each other, and a turn turns the unit step.
-/

set_option autoImplicit false

namespace RobotGrid

inductive Heading where
  | north
  | east
  | south
  | west
  deriving DecidableEq

namespace Heading

def all : List Heading := [.north, .east, .south, .west]

def name : Heading → String
  | .north => "NORTH"
  | .east => "EAST"
  | .south => "SOUTH"
  | .west => "WEST"

def left : Heading → Heading
  | .north => .west
  | .west => .south
  | .south => .east
  | .east => .north

def right : Heading → Heading
  | .north => .east
  | .east => .south
  | .south => .west
  | .west => .north

def delta : Heading → Int × Int
  | .north => (0, 1)
  | .east => (1, 0)
  | .south => (0, -1)
  | .west => (-1, 0)

/-- The heading of a given name in any case, blanks around it ignored. -/
def ofChars? (s : List Char) : Option Heading :=
  all.find? fun h => h.name.toList == Text.upper (Text.trim s)

@[simp] theorem mem_all (h : Heading) : h ∈ all := by cases h <;> decide

@[simp] theorem right_left (h : Heading) : h.left.right = h := by cases h <;> rfl

@[simp] theorem left_right (h : Heading) : h.right.left = h := by cases h <;> rfl

/-- A left turn takes the unit step `(dx, dy)` to `(-dy, dx)`. -/
theorem delta_left (h : Heading) : h.left.delta = (-h.delta.2, h.delta.1) := by cases h <;> rfl

theorem name_injective {g h : Heading} (e : g.name = h.name) : g = h := by
  cases g <;> cases h <;> simp [name] at e ⊢

end Heading
end RobotGrid
