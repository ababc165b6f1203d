import RobotGrid.Text.Blank
import RobotGrid.Text.Pieces
/-!
# Commands of a typed text

A typed text holds one command per line, or several with semicolons between them. Blank commands
are dropped. Main statement: a text in two halves around a separator has the commands of the first
half followed by those of the second.
-/

set_option autoImplicit false

namespace RobotGrid.Text

/-- A character that ends a line. A return followed by a line feed ends one line and begins an
empty one, which is blank and so never counts. -/
def isLineEnd (c : Char) : Bool :=
  let n := c.toNat
  (decide (0x0A ≤ n) && decide (n ≤ 0x0D)) || (decide (0x1C ≤ n) && decide (n ≤ 0x1E)) ||
    n == 0x85 || n == 0x2028 || n == 0x2029

def separatesCommands (c : Char) : Bool := c == ';' || isLineEnd c

def commandPieces (s : List Char) : List (List Char) :=
  ((pieces separatesCommands s).map trim).filter fun w => !w.isEmpty

def commandLines (s : String) : List String := (commandPieces s.toList).map String.ofList

theorem isBlank_of_isLineEnd {c : Char} (h : isLineEnd c = true) : isBlank c = true := by
  simp only [isLineEnd, isBlank, Bool.or_eq_true, Bool.and_eq_true, decide_eq_true_eq,
    beq_iff_eq] at h ⊢
  omega

theorem commandPieces_append_cons {c : Char} (h : separatesCommands c = true) (a b : List Char) :
    commandPieces (a ++ c :: b) = commandPieces a ++ commandPieces b := by
  simp [commandPieces, pieces_append_cons _ h]

end RobotGrid.Text
