import Mathlib.Data.Nat.Find
import RobotGrid.Proofs.Drive

set_option autoImplicit false

/-!
# Driving straight

A placed robot that is told to move again and again goes as far as the cells ahead are free, and is
refused at the first one that is not, however often it tries. There is such a cell because a board
ends in every direction. What comes first, an obstacle or the edge, gives the reason.
-/
namespace RobotGrid

namespace Pose

def onward (p : Pose) (n : Nat) : Pose :=
  ⟨p.cell.shift (n * p.heading.delta.1, n * p.heading.delta.2), p.heading⟩

@[simp] theorem onward_zero (p : Pose) : p.onward 0 = p := by
  simp [onward]

theorem ahead_onward (p : Pose) (n : Nat) : (p.onward n).ahead = p.onward (n + 1) := by
  have further (d : Int) : ((n + 1 : Nat) : Int) * d = n * d + d := by
    rw [Int.natCast_succ, Int.add_mul, Int.one_mul]
  rw [onward, onward, further, further, ahead, Cell.ahead, Cell.shift_shift]
  rfl

end Pose

namespace Board

theorem exists_onward_outside (b : Board) (p : Pose) :
    ∃ n, ¬b.Contains (p.onward (n + 1)).cell := by
  obtain ⟨⟨x, y⟩, heading⟩ := p
  refine ⟨b.width.toNat + b.height.toNat + x.natAbs + y.natAbs, ?_⟩
  cases heading <;>
    simp only [Contains, InRectangle, Pose.onward, Cell.shift, Heading.delta] <;> omega

theorem exists_barrier (b : Board) (p : Pose) : ∃ n, ¬b.Free (p.onward (n + 1)).cell := by
  obtain ⟨n, outside⟩ := b.exists_onward_outside p
  exact ⟨n, fun free => outside free.1⟩

def clearance (b : Board) (p : Pose) : Nat := Nat.find (b.exists_barrier p)

theorem clearance_eq_iff {b : Board} {p : Pose} {d : Nat} : b.clearance p = d ↔
    ¬b.Free (p.onward (d + 1)).cell ∧ ∀ k < d, b.Free (p.onward (k + 1)).cell := by
  simp only [clearance, Nat.find_eq_iff, Decidable.not_not]

theorem free_of_lt_clearance {b : Board} {p : Pose} {k : Nat} (h : k < b.clearance p) :
    b.Free (p.onward (k + 1)).cell :=
  (clearance_eq_iff.1 rfl).2 k h

theorem not_free_clearance (b : Board) (p : Pose) :
    ¬b.Free (p.onward (b.clearance p + 1)).cell :=
  (clearance_eq_iff.1 rfl).1

/-- How a cell that is not free is refused: it is off the board, or else blocked, or it has too many
digits to be told. -/
def refusal (b : Board) (c : Cell) : Failure :=
  if written : c.Written then
    .fault (if b.Contains c then .blocked c written else .outOfBounds c written)
  else .oversized .written

theorem allow_of_not_free {b : Board} {c : Cell} (h : ¬b.Free c) :
    b.allow c = .error (b.refusal c) := by
  rcases allow_cases h with ⟨written, outside, e⟩ | ⟨written, blocked, e⟩ | ⟨unwritten, e⟩
  · rw [e, refusal, dif_pos written, if_neg outside]
  · have inside : b.Contains c := b.inside c blocked
    rw [e, refusal, dif_pos written, if_pos inside]
  · rw [e, refusal, dif_neg unwritten]

/-- Straight ahead from a cell of a board that can be written, the first barrier can be written. -/
theorem written_barrier {b : Board} {p : Pose} (h : b.Written) (inside : b.Contains p.cell) :
    (p.onward (b.clearance p + 1)).cell.Written := by
  have last : b.Contains (p.onward (b.clearance p)).cell := by
    cases d : b.clearance p with
    | zero =>
      rw [Pose.onward_zero]
      exact inside
    | succ k =>
      have free : b.Free (p.onward (k + 1)).cell := free_of_lt_clearance (by omega)
      exact free.1
  rw [← Pose.ahead_onward]
  exact h.ahead last _

end Board

namespace Robot

theorem executeAll_append (r : Robot) (is js : List Instruction) :
    r.executeAll (is ++ js) = (r.executeAll is).executeAll js :=
  List.foldl_append

theorem trail_append (r : Robot) (is js : List Instruction) :
    r.trail (is ++ js) = r.trail is ++ (r.executeAll is).trail js := by
  induction is generalizing r with
  | nil => rfl
  | cons i is ih => exact congrArg _ (ih (r.execute i).1)

variable (b : Board) (p : Pose)

/-- The robot on its way straight ahead, behind so many steps. -/
def onTheWay (k : Nat) : Robot := ⟨b, some (p.onward k)⟩

def moved (k : Nat) : Robot × Except Failure (Option String) :=
  if k < b.clearance p then (onTheWay b p (k + 1), .ok none)
  else (onTheWay b p (b.clearance p),
    .error ((b.refusal (p.onward (b.clearance p + 1)).cell).chain .placementRejected))

theorem moved_fst (k : Nat) : (moved b p k).1 = onTheWay b p (min (k + 1) (b.clearance p)) := by
  by_cases more : k < b.clearance p
  · rw [moved, if_pos more, Nat.min_eq_left more]
  · have there : b.clearance p ≤ k + 1 := by omega
    rw [moved, if_neg more, Nat.min_eq_right there]

theorem execute_move_onTheWay (k : Nat) :
    (onTheWay b p (min k (b.clearance p))).execute .move = moved b p k := by
  rw [execute_move (p := p.onward (min k (b.clearance p))) rfl, Pose.ahead_onward]
  by_cases more : k < b.clearance p
  · have free : b.Free (p.onward (k + 1)).cell := Board.free_of_lt_clearance more
    rw [moved, if_pos more, Nat.min_eq_left (Nat.le_of_lt more)]
    exact occupy_of_free free
  · have refused := Board.allow_of_not_free (b.not_free_clearance p)
    rw [moved, if_neg more, Nat.min_eq_right (Nat.le_of_not_lt more)]
    exact occupy_of_refused refused

theorem executeAll_moves (n : Nat) : (onTheWay b p 0).executeAll (List.replicate n .move) =
    onTheWay b p (min n (b.clearance p)) := by
  induction n with
  | zero =>
    rw [Nat.zero_min]
    rfl
  | succ n ih =>
    rw [List.replicate_succ', executeAll_append, ih]
    change ((onTheWay b p (min n (b.clearance p))).execute .move).1 = _
    rw [execute_move_onTheWay, moved_fst]

theorem trail_moves (n : Nat) :
    (onTheWay b p 0).trail (List.replicate n .move) = (List.range n).map (moved b p) := by
  induction n with
  | zero => rfl
  | succ n ih =>
    rw [List.replicate_succ', trail_append, ih, executeAll_moves, List.range_succ, List.map_append]
    change _ ++ [(onTheWay b p (min n (b.clearance p))).execute .move] = _
    rw [execute_move_onTheWay]
    rfl

/-- A placed robot that is told to move `n` times, with `d` free cells in a row ahead of it. The
first `d` moves are accepted, and each takes it one cell further. All others are refused where it is
then, because of the cell behind the last free one: it is off the board, or else it is blocked. Only
if that cell has too many digits, the refusal is no fault; if the robot is on a board with sides
that can be written, it has not. -/
theorem straight_drive_stops_at_barrier {r : Robot} {p : Pose} (placed : r.pose = some p)
    (n : Nat) :
    let d := r.board.clearance p
    let barrier := (p.onward (d + 1)).cell
    (∀ k < d, r.board.Free (p.onward (k + 1)).cell) ∧ ¬r.board.Free barrier ∧
    r.executeAll (List.replicate n .move) = { r with pose := some (p.onward (min n d)) } ∧
    (∀ written : barrier.Written,
      r.trail (List.replicate n .move) = (List.range n).map fun k =>
        if k < d then ({ r with pose := some (p.onward (k + 1)) }, .ok none)
        else ({ r with pose := some (p.onward d) }, .error (.fault (.placementRejected
          (if r.board.Contains barrier then .blocked barrier written
            else .outOfBounds barrier written))))) ∧
    (¬barrier.Written → r.trail (List.replicate n .move) = (List.range n).map fun k =>
      if k < d then ({ r with pose := some (p.onward (k + 1)) }, .ok none)
      else ({ r with pose := some (p.onward d) }, .error (.oversized .written))) ∧
    (r.board.Written → r.board.Contains p.cell → barrier.Written) := by
  intro d barrier
  have start : r = onTheWay r.board p 0 := by
    rw [onTheWay, Pose.onward_zero, ← placed]
  have way := trail_moves r.board p n
  rw [← start] at way
  refine ⟨fun k => Board.free_of_lt_clearance, r.board.not_free_clearance p, ?_, fun written => ?_,
    fun unwritten => ?_, fun written inside => Board.written_barrier written inside⟩
  · have last := executeAll_moves r.board p n
    rw [← start] at last
    exact last
  · have refused : r.board.refusal barrier = .fault (if r.board.Contains barrier then
        .blocked barrier written else .outOfBounds barrier written) := dif_pos written
    rw [way]
    refine congrArg (List.map · _) (funext fun k => ?_)
    rw [moved, show r.board.refusal _ = _ from refused]
    rfl
  · have refused : r.board.refusal barrier = .oversized .written := dif_neg unwritten
    rw [way]
    refine congrArg (List.map · _) (funext fun k => ?_)
    rw [moved, show r.board.refusal _ = _ from refused]
    rfl

/-- East of the robot there is an obstacle behind two free cells, and west of it the edge. -/
theorem straight_drive_stops_at_barrier_both_ways :
    let board : Board := ⟨4, 1, .ofList [⟨3, 0⟩], by decide, by decide, by decide⟩
    let east := ((create board).execute (.place ⟨0, 0⟩ .east)).1
    let west := ((create board).execute (.place ⟨0, 0⟩ .west)).1
    let blocked : Fault := .placementRejected (.blocked ⟨3, 0⟩ (by decide))
    let outside : Fault := .placementRejected (.outOfBounds ⟨-1, 0⟩ (by decide))
    (east.pose = some ⟨⟨0, 0⟩, .east⟩ ∧ board.clearance ⟨⟨0, 0⟩, .east⟩ = 2 ∧
      (east.executeAll (List.replicate 4 .move)).pose = some ⟨⟨2, 0⟩, .east⟩ ∧
      (east.trail (List.replicate 4 .move)).map Prod.snd =
        [.ok none, .ok none, .error (.fault blocked), .error (.fault blocked)]) ∧
    west.pose = some ⟨⟨0, 0⟩, .west⟩ ∧ board.clearance ⟨⟨0, 0⟩, .west⟩ = 0 ∧
      (west.executeAll (List.replicate 2 .move)).pose = some ⟨⟨0, 0⟩, .west⟩ ∧
      (west.trail (List.replicate 2 .move)).map Prod.snd =
        [.error (.fault outside), .error (.fault outside)] := by
  intro board east west blocked outside
  have facingEast : east.pose = some ⟨⟨0, 0⟩, .east⟩ := rfl
  have facingWest : west.pose = some ⟨⟨0, 0⟩, .west⟩ := rfl
  have two : board.clearance ⟨⟨0, 0⟩, .east⟩ = 2 := Board.clearance_eq_iff.2 (by decide)
  have none : board.clearance ⟨⟨0, 0⟩, .west⟩ = 0 := Board.clearance_eq_iff.2 (by decide)
  obtain ⟨_, _, lastEast, wayEast, _⟩ := straight_drive_stops_at_barrier facingEast 4
  obtain ⟨_, _, lastWest, wayWest, _⟩ := straight_drive_stops_at_barrier facingWest 2
  rw [show east.board = board from rfl, two] at lastEast wayEast
  rw [show west.board = board from rfl, none] at lastWest wayWest
  refine ⟨⟨facingEast, two, ?_, ?_⟩, facingWest, none, ?_, ?_⟩
  · rw [lastEast]
    rfl
  · rw [wayEast (by decide)]
    rfl
  · rw [lastWest]
    rfl
  · rw [wayWest (by decide)]
    rfl

/-- At the end of a row that is as long as the least number too long to write, the edge stops a
robot without a fault. -/
theorem straight_drive_ends_untold :
    let row : Board :=
      ⟨unwritten, 1, .empty, unwritten_pos, by decide, fun c h => absurd h (by simp)⟩
    let r := ((create row).execute (.place ⟨unwritten - 1, 0⟩ .east)).1
    r.pose = some ⟨⟨unwritten - 1, 0⟩, .east⟩ ∧
      r.execute .move = (r, .error (.oversized .written)) := by
  intro row r
  have free : row.Free ⟨unwritten - 1, 0⟩ := by
    have pos := unwritten_pos
    refine ⟨⟨?_, ?_, by decide, by decide⟩, CellSet.not_mem_empty _⟩
    · change 0 ≤ unwritten - 1
      omega
    · change unwritten - 1 < unwritten
      omega
  have executed : (create row).execute (.place ⟨unwritten - 1, 0⟩ .east) =
      (⟨row, some ⟨⟨unwritten - 1, 0⟩, .east⟩⟩, .ok none) := occupy_of_free free
  have placed : r = ⟨row, some ⟨⟨unwritten - 1, 0⟩, .east⟩⟩ := congrArg Prod.fst executed
  rw [placed]
  have east : Pose.ahead ⟨⟨unwritten - 1, 0⟩, .east⟩ = ⟨⟨unwritten - 1 + 1, 0⟩, .east⟩ := rfl
  -- The edge is there, but the refusal has no text in which to name the cell behind it.
  have far : ¬Cell.Written ⟨unwritten - 1 + 1, 0⟩ := Board.not_written_of_unwritten_le (by omega)
  have outside : ¬row.Contains ⟨unwritten - 1 + 1, 0⟩ := fun inside => by
    have edge : unwritten - 1 + 1 < unwritten := inside.2.1
    omega
  have refused := Board.allow_of_not_contains outside
  rw [Failure.outOfBounds, Failure.raise_of_not_writable far] at refused
  refine ⟨rfl, ?_⟩
  rw [execute_move rfl, east, occupy, refused]
  rfl

end Robot
end RobotGrid
