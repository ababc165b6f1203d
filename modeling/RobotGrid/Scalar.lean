import RobotGrid.Number.RealText
import RobotGrid.Text.Numeral
/-!
# Scalars

A value without parts that a caller may hand over where an integer or a text is expected, and how
a message shows it. An integer with too many digits cannot be shown.
-/

set_option autoImplicit false

namespace RobotGrid

inductive Scalar where
  | absent
  | flag (b : Bool)
  | int (n : Int)
  | real (x : Binary64)
  | text (s : String)
  deriving DecidableEq

namespace Scalar

def isWritten : Scalar → Bool
  | .int n => Text.Numeral.isWritten n
  | _ => true

/-- How a message shows a scalar that can be shown; a text is shown bare. -/
def shown : (s : Scalar) → s.isWritten = true → String
  | .absent, _ => "None"
  | .flag true, _ => "True"
  | .flag false, _ => "False"
  | .int n, h => Text.Numeral.text n h
  | .real x, _ => x.text
  | .text s, _ => s

def display (s : Scalar) : Except Oversized String :=
  if h : s.isWritten = true then .ok (s.shown h) else .error .written

end Scalar
end RobotGrid
