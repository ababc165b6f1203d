import RobotGrid.Board
import RobotGrid.Reading
/-!
# Robots

A robot holds its own board, taken from the source when the robot is made, and a pose once it has
been placed. Placing and moving ask the board first; an instruction that is refused leaves the
robot as it was. Main statements: a pose is taken exactly when its cell is free, no instruction
changes the board, and a refused one changes nothing.
-/

set_option autoImplicit false

namespace RobotGrid

structure Pose where
  cell : Cell
  heading : Heading
  deriving DecidableEq

namespace Pose

def ahead (p : Pose) : Pose := ⟨p.cell.ahead p.heading, p.heading⟩

def turnLeft (p : Pose) : Pose := ⟨p.cell, p.heading.left⟩

def turnRight (p : Pose) : Pose := ⟨p.cell, p.heading.right⟩

def report (p : Pose) : Except Oversized String :=
  p.cell.write fun x y => s!"{x},{y},{p.heading.name}"

def shown (p : Pose) (h : p.cell.Written) : String :=
  p.cell.framed h fun x y => s!"Placed(x={x}, y={y}, o={p.heading.name})"

def stateText : Option Pose → Except Oversized String
  | none => .ok "Unplaced()"
  | some p => if h : p.cell.Written then .ok (p.shown h) else .error .written

end Pose

structure Robot where
  board : Board
  pose : Option Pose
  deriving DecidableEq

namespace Robot

def create (board : Board) : Robot := ⟨board, none⟩

def text (r : Robot) : Except Oversized String :=
  (Pose.stateText r.pose).map fun state => s!"Robot({state})"

def occupy (r : Robot) (target : Pose) : Robot × Except Failure (Option String) :=
  match r.board.allow target.cell with
  | .ok () => ({ r with pose := some target }, .ok none)
  | .error reason => (r, .error (reason.chain .placementRejected))

/-- The pose that an instruction asks the board for. -/
def target? (r : Robot) : Instruction → Option Pose
  | .place cell heading => some ⟨cell, heading⟩
  | .move => r.pose.map Pose.ahead
  | _ => none

def execute (r : Robot) (i : Instruction) : Robot × Except Failure (Option String) :=
  match i, r.pose with
  | .place cell heading, _ => r.occupy ⟨cell, heading⟩
  | .obstacle _, _ => (r, .error (.fault (.unsupportedInContext Keyword.obstacle.name)))
  | i, none => (r, .error (.fault (.notPlaced i.keyword.name)))
  | .move, some p => r.occupy p.ahead
  | .left, some p => ({ r with pose := some p.turnLeft }, .ok none)
  | .right, some p => ({ r with pose := some p.turnRight }, .ok none)
  | .report, some p => (r, (p.report.mapError .oversized).map some)

def evaluate (r : Robot) (line : String) : Robot × Except Failure (Option String) :=
  match Instruction.read line with
  | .error failure => (r, .error failure)
  | .ok i => r.execute i

def report (r : Robot) : Except Failure String :=
  match r.pose with
  | none => .error (.fault (.notPlaced Keyword.report.name))
  | some p => p.report.mapError .oversized

theorem occupy_of_free {r : Robot} {target : Pose} (h : r.board.Free target.cell) :
    r.occupy target = ({ r with pose := some target }, .ok none) := by
  simp [occupy, Board.allow_eq_ok_iff.2 h]

theorem occupy_of_not_free {r : Robot} {target : Pose} (h : ¬r.board.Free target.cell) :
    ∃ reason, r.board.allow target.cell = .error reason ∧
      r.occupy target = (r, .error (reason.chain .placementRejected)) := by
  cases e : r.board.allow target.cell with
  | ok u => exact absurd (Board.allow_eq_ok_iff.1 e) h
  | error reason => exact ⟨reason, rfl, by simp [occupy, e]⟩

@[simp] theorem occupy_board (r : Robot) (target : Pose) : (r.occupy target).1.board = r.board := by
  rw [occupy]
  split <;> rfl

/-- No instruction changes the robot's board. -/
@[simp] theorem execute_board (r : Robot) (i : Instruction) :
    (r.execute i).1.board = r.board := by
  cases i <;> cases h : r.pose <;> simp [execute, h]

theorem occupy_eq_of_error {r : Robot} {target : Pose} {f : Failure}
    (h : (r.occupy target).2 = .error f) : (r.occupy target).1 = r := by
  by_cases free : r.board.Free target.cell
  · rw [occupy_of_free free] at h
    cases h
  · obtain ⟨reason, _, e⟩ := occupy_of_not_free free
    rw [e]

/-- A refused instruction leaves the robot as it was. -/
theorem execute_eq_of_error {r : Robot} {i : Instruction} {f : Failure}
    (h : (r.execute i).2 = .error f) : (r.execute i).1 = r := by
  cases i with
  | place cell heading => exact occupy_eq_of_error h
  | obstacle cell => rfl
  | move =>
    cases e : r.pose with
    | none => simp [execute, e]
    | some p =>
      simp only [execute, e] at h ⊢
      exact occupy_eq_of_error h
  | left => cases e : r.pose <;> simp_all [execute]
  | right => cases e : r.pose <;> simp_all [execute]
  | report => cases e : r.pose <;> simp [execute, e]

end Robot
end RobotGrid
