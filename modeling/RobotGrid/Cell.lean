import RobotGrid.Heading
import RobotGrid.Text.Numeral
/-!
# Cells

A cell of the plane by its coordinates, which are integers of any size, and the order that lists
of cells are shown in: by `x`, then by `y`. Main statement: the order is strict and total.
-/

set_option autoImplicit false

namespace RobotGrid

structure Cell where
  x : Int
  y : Int
  deriving DecidableEq

namespace Cell

def shift (c : Cell) (d : Int × Int) : Cell := ⟨c.x + d.1, c.y + d.2⟩

def ahead (c : Cell) (h : Heading) : Cell := c.shift h.delta

/-- Both coordinates have few enough digits to be written. -/
def Written (c : Cell) : Prop :=
  Text.Numeral.isWritten c.x = true ∧ Text.Numeral.isWritten c.y = true

instance (c : Cell) : Decidable c.Written := inferInstanceAs (Decidable (_ ∧ _))

/-- What a frame makes of the texts of both coordinates. -/
def framed {α : Type} (c : Cell) (h : c.Written) (frame : String → String → α) : α :=
  frame (Text.Numeral.text c.x h.1) (Text.Numeral.text c.y h.2)

def write (c : Cell) (frame : String → String → String) : Except Oversized String :=
  if h : c.Written then .ok (c.framed h frame) else .error .written

def text (c : Cell) : Except Oversized String := c.write fun x y => s!"Position(x={x}, y={y})"

theorem write_of_written {c : Cell} (h : c.Written) (frame : String → String → String) :
    c.write frame = .ok (frame (toString c.x) (toString c.y)) := by
  rw [write, dif_pos h]
  rfl

theorem write_of_not_written {c : Cell} (h : ¬c.Written) (frame : String → String → String) :
    c.write frame = .error .written := by
  rw [write, dif_neg h]

/-- Strictly earlier by `x`, then by `y`. -/
def Before (a b : Cell) : Prop := a.x < b.x ∨ a.x = b.x ∧ a.y < b.y

instance (a b : Cell) : Decidable (a.Before b) := inferInstanceAs (Decidable (_ ∨ _))

theorem Before.trans {a b c : Cell} (h : a.Before b) (g : b.Before c) : a.Before c := by
  simp only [Before] at *
  omega

theorem not_before_self (a : Cell) : ¬a.Before a := by
  simp only [Before]
  omega

theorem Before.ne {a b : Cell} (h : a.Before b) : a ≠ b := fun e => not_before_self b (e ▸ h)

theorem before_or_before {a b : Cell} (h : a ≠ b) : a.Before b ∨ b.Before a := by
  have differ : a.x ≠ b.x ∨ a.y ≠ b.y := by
    rcases Int.decEq a.x b.x with hx | hx
    · exact Or.inl hx
    · right
      intro hy
      exact h (by cases a; cases b; simp_all)
  simp only [Before]
  omega

end Cell
end RobotGrid
