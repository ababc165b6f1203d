import RobotGrid.Proofs.Drive
import RobotGrid.Proofs.Recall

set_option autoImplicit false

/-!
# The way back

A robot that faces about undoes what it did: a move takes it to the cell that it came from, which is
still free, and a turn is undone by the turn to the other side. So the drive in reverse order, with
left and right exchanged, leads from the last pose faced about to the first pose faced about, and is
accepted all along.
-/
namespace RobotGrid

def Instruction.exchanged : Instruction → Instruction
  | .left => .right
  | .right => .left
  | i => i

namespace Pose

def about (p : Pose) : Pose := p.turnLeft.turnLeft

@[simp] theorem about_about (p : Pose) : p.about.about = p := by
  obtain ⟨cell, heading⟩ := p
  cases heading <;> rfl

theorem turnRight_about_turnLeft (p : Pose) : p.turnLeft.about.turnRight = p.about := by
  simp only [about, turnLeft, turnRight, Heading.right_left]

theorem turnLeft_about_turnRight (p : Pose) : p.turnRight.about.turnLeft = p.about := by
  simp only [about, turnLeft, turnRight, Heading.left_right]

theorem ahead_about_ahead (p : Pose) : p.ahead.about.ahead = p.about := by
  obtain ⟨⟨x, y⟩, heading⟩ := p
  simp only [about, ahead, turnLeft, Cell.ahead, Cell.shift, Heading.delta_left, Pose.mk.injEq,
    Cell.mk.injEq, and_true]
  omega

end Pose

namespace Robot

def about (r : Robot) : Robot := { r with pose := r.pose.map Pose.about }

@[simp] theorem about_about (r : Robot) : r.about.about = r := by
  obtain ⟨board, pose⟩ := r
  cases pose with
  | none => rfl
  | some p => exact congrArg (fun q => Robot.mk board (some q)) p.about_about

theorem about_of_pose {r : Robot} {p : Pose} (h : r.pose = some p) :
    r.about = { r with pose := some p.about } := by
  rw [about, h, Option.map_some]

theorem drives_about {r : Robot} (placed : r.pose ≠ none) : Drives r [.left, .left] r.about := by
  obtain ⟨p, h⟩ := Option.ne_none_iff_exists'.1 placed
  rw [about_of_pose h]
  exact .cons (execute_left h) (.cons (execute_left rfl) (.nil _))

theorem Drives.append {r s t : Robot} {is js : List Instruction} (first : Drives r is s)
    (second : Drives s js t) : Drives r (is ++ js) t := by
  induction first with
  | nil r => exact second
  | cons head tail ih => exact .cons head (ih second)

/-- What one accepted instruction does is undone by one instruction of the robot that faces
about. -/
theorem execute_exchanged {r r' : Robot} {i : Instruction} {m : Option String} (stands : r.Stands)
    (kind : i = .move ∨ i = .left ∨ i = .right) (h : r.execute i = (r', .ok m)) :
    r'.about.execute i.exchanged = (r.about, .ok none) := by
  cases executes_of_eq h with
  | @taken _ t target free =>
    obtain rfl | rfl | rfl := kind
    · obtain ⟨p, placed, rfl⟩ := Option.map_eq_some_iff.1 target
      -- The cell behind the robot is the one that it stood on.
      have back : r.board.Free p.about.cell := stands p placed
      change execute _ .move = _
      rw [about_of_pose placed, execute_move rfl, Pose.ahead_about_ahead]
      exact occupy_of_free back
    · cases target
    · cases target
  | left placed =>
    change execute _ .right = _
    rw [about_of_pose placed, execute_right rfl, Pose.turnRight_about_turnLeft]
    rfl
  | right placed =>
    change execute _ .left = _
    rw [about_of_pose placed, execute_left rfl, Pose.turnLeft_about_turnRight]
    rfl
  | report placed => obtain e | e | e := kind <;> cases e

theorem Drives.back {r last : Robot} {is : List Instruction} (h : Drives r is last)
    (stands : r.Stands) (kinds : ∀ i ∈ is, i = .move ∨ i = .left ∨ i = .right) :
    Drives last.about (is.reverse.map Instruction.exchanged) r.about := by
  induction h with
  | nil r => exact .nil _
  | @cons r r' last i is m head tail ih =>
    obtain ⟨first, others⟩ := List.forall_mem_cons.1 kinds
    have next := ih ((executes_of_eq head).stands stands) others
    have step : Drives r'.about [i.exchanged] r.about :=
      .cons (execute_exchanged stands first head) (.nil _)
    rw [List.reverse_cons, List.map_append]
    exact next.append step

theorem Drives.placed {r last : Robot} {is : List Instruction} (h : Drives r is last)
    (placed : r.pose ≠ none) : last.pose ≠ none := by
  induction h with
  | nil r => exact placed
  | cons head tail ih => exact ih ((executes_of_eq head).placed placed)

/-- Whatever a placed robot has driven, it accepts the way back: two turns to face about, the drive
in reverse order with left and right exchanged, and two turns to face about again. Behind it the
robot is as it was. -/
theorem drive_can_be_driven_back {r last : Robot} {is : List Instruction} (reachable : r.Reachable)
    (placed : r.pose ≠ none) (kinds : ∀ i ∈ is, i = .move ∨ i = .left ∨ i = .right)
    (there : Drives r is last) :
    Drives last ([.left, .left] ++ is.reverse.map Instruction.exchanged ++ [.left, .left]) r := by
  have turn := drives_about (there.placed placed)
  have back := there.back reachable.stands kinds
  have again : Drives r.about [.left, .left] r := by
    have facing : r.about.pose ≠ none := by
      rw [about, ne_eq, Option.map_eq_none_iff]
      exact placed
    have turned := drives_about facing
    rw [about_about] at turned
    exact turned
  exact (turn.append back).append again

/-- From a corner around an obstacle to the opposite corner and back. -/
theorem drive_can_be_driven_back_around_obstacle :
    let board : Board := ⟨3, 3, .ofList [⟨1, 1⟩], by decide, by decide, by decide⟩
    let r := ((create board).execute (.place ⟨0, 0⟩ .north)).1
    let is : List Instruction := [.move, .move, .right, .move, .move, .left]
    let last : Robot := ⟨board, some ⟨⟨2, 2⟩, .north⟩⟩
    r.pose ≠ none ∧ (∀ i ∈ is, i = .move ∨ i = .left ∨ i = .right) ∧ Drives r is last ∧
      Drives last [.left, .left, .right, .move, .move, .left, .move, .move, .left, .left] r := by
  intro board r is last
  have reachable : r.Reachable := .executed _ (.created board)
  have placed : r.pose ≠ none := by decide +kernel
  have kinds : ∀ i ∈ is, i = .move ∨ i = .left ∨ i = .right := by decide
  have there : Drives r is last :=
    .cons rfl (.cons rfl (.cons rfl (.cons rfl (.cons rfl (.cons rfl (.nil _))))))
  exact ⟨placed, kinds, there, drive_can_be_driven_back reachable placed kinds there⟩

end Robot
end RobotGrid
