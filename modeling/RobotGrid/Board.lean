import RobotGrid.Cell.Set
import RobotGrid.Fault
/-!
# Boards

A rectangle of cells from `(0, 0)` with a set of obstacles on it. A robot asks the board before it
takes a cell; the board never holds the robot. Main statements: when an obstacle is accepted, what
the board holds then, and when a cell is free to take.
-/

set_option autoImplicit false

namespace RobotGrid

def InRectangle (width height : Int) (c : Cell) : Prop :=
  0 ≤ c.x ∧ c.x < width ∧ 0 ≤ c.y ∧ c.y < height

instance (width height : Int) (c : Cell) : Decidable (InRectangle width height c) :=
  inferInstanceAs (Decidable (_ ∧ _))

/-- A rectangle with obstacles, all of them inside. -/
structure Board where
  width : Int
  height : Int
  obstacles : CellSet
  width_pos : 0 < width
  height_pos : 0 < height
  inside : ∀ c ∈ obstacles, InRectangle width height c
  deriving DecidableEq

namespace Board

def Contains (b : Board) (c : Cell) : Prop := InRectangle b.width b.height c

def Blocks (b : Board) (c : Cell) : Prop := c ∈ b.obstacles

def Free (b : Board) (c : Cell) : Prop := b.Contains c ∧ ¬b.Blocks c

instance (b : Board) (c : Cell) : Decidable (b.Contains c) :=
  inferInstanceAs (Decidable (InRectangle _ _ _))

instance (b : Board) (c : Cell) : Decidable (b.Blocks c) := inferInstanceAs (Decidable (_ ∈ _))

instance (b : Board) (c : Cell) : Decidable (b.Free c) := inferInstanceAs (Decidable (_ ∧ _))

def bare : Scalar → Scalar → Except Failure Board
  | .int width, .int height =>
    if h : 0 < width ∧ 0 < height then
      .ok ⟨width, height, .empty, h.1, h.2, fun c hc => absurd hc (CellSet.not_mem_empty c)⟩
    else .error (.invalidDimensions (.int width) (.int height))
  | width, height => .error (.invalidDimensions width height)

def declare (b : Board) (c : Cell) : Except Failure Board :=
  if h : b.Contains c then
    .ok { b with
      obstacles := b.obstacles.insert c
      inside := fun d hd => (CellSet.mem_insert.1 hd).elim (fun e => e ▸ h) (b.inside d) }
  else .error (.obstacleOutOfBounds c)

def declareAll (b : Board) (cells : List Cell) : Except Failure Board := cells.foldlM declare b

def create (width height : Scalar) (cells : List Cell) : Except Failure Board :=
  (bare width height).bind fun b => b.declareAll cells

/-- Whether a robot may take a cell: it must be on the board, and then free. -/
def allow (b : Board) (c : Cell) : Except Failure Unit :=
  if ¬b.Contains c then .error (.outOfBounds c)
  else if b.Blocks c then .error (.blocked c)
  else .ok ()

/-- The first cell beyond both upper edges. -/
def corner (b : Board) : Cell := ⟨b.width, b.height⟩

def Written (b : Board) : Prop := b.corner.Written

instance (b : Board) : Decidable b.Written := inferInstanceAs (Decidable b.corner.Written)

def shown (b : Board) (h : b.Written) : String :=
  b.corner.framed h fun width height =>
    s!"Tabletop(width={width}, height={height}, obstacles={b.obstacles.size})"

def text (b : Board) : Except Oversized String :=
  if h : b.Written then .ok (b.shown h) else .error .written

theorem allow_eq_ok_iff {b : Board} {c : Cell} : b.allow c = .ok () ↔ b.Free c := by
  simp only [allow, Free]
  by_cases h : b.Contains c <;> by_cases g : b.Blocks c <;> simp [h, g]

theorem allow_of_not_contains {b : Board} {c : Cell} (h : ¬b.Contains c) :
    b.allow c = .error (.outOfBounds c) := by
  simp [allow, h]

theorem allow_of_blocks {b : Board} {c : Cell} (h : b.Blocks c) :
    b.allow c = .error (.blocked c) := by
  simp [allow, h, show b.Contains c from b.inside c h]

theorem declare_eq_error_iff {b : Board} {c : Cell} {f : Failure} :
    b.declare c = .error f ↔ ¬b.Contains c ∧ f = .obstacleOutOfBounds c := by
  simp only [declare]
  split <;> rename_i h
  · simp [h]
  · simp [h, eq_comm]

theorem declare_eq_ok {b t : Board} {c : Cell} (h : b.declare c = .ok t) :
    b.Contains c ∧ t.width = b.width ∧ t.height = b.height ∧
      t.obstacles = b.obstacles.insert c := by
  simp only [declare] at h
  split at h
  · rename_i inside
    cases h
    exact ⟨inside, rfl, rfl, rfl⟩
  · cases h

theorem blocks_of_declare {b t : Board} {c : Cell} (h : b.declare c = .ok t) (d : Cell) :
    t.Blocks d ↔ b.Blocks d ∨ d = c := by
  rw [Blocks, (declare_eq_ok h).2.2.2, CellSet.mem_insert, or_comm]
  rfl

theorem ext {b t : Board} (w : b.width = t.width) (h : b.height = t.height)
    (o : b.obstacles = t.obstacles) : b = t := by
  cases b
  cases t
  simp_all

end Board
end RobotGrid
