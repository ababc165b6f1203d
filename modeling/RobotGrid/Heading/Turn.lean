import RobotGrid.Heading
/-!
# Sequences of turns

Quarter turns as data, the heading after a sequence of them and the headings on the way.
-/

set_option autoImplicit false

namespace RobotGrid

inductive Turn where
  | left
  | right
  deriving DecidableEq

namespace Heading

def turn (h : Heading) : Turn → Heading
  | .left => h.left
  | .right => h.right

def turnAll (h : Heading) (turns : List Turn) : Heading := turns.foldl turn h

def course (h : Heading) : List Turn → List Heading
  | [] => []
  | t :: ts => h.turn t :: (h.turn t).course ts

end Heading
end RobotGrid
