import RobotGrid.Board
/-!
# Shelves of boards

Several boards side by side, numbered from zero, as a caller keeps them: obstacles go to one board
at a time, a copy is a new board, and boards can be compared. A board that is not on the shelf is
never changed and answers nothing. Main statements: a copy gets a number of its own, an obstacle on
one board leaves every other board as it is, and no board is ever taken off.
-/

set_option autoImplicit false

namespace RobotGrid

inductive ShelfRequest where
  | declare (board : Nat) (c : Cell)
  | contains (board : Nat) (c : Cell)
  | blocks (board : Nat) (c : Cell)
  | allow (board : Nat) (c : Cell)
  | copy (board : Nat)
  | create (width height : Scalar) (cells : List Cell)
  | equal (board : Nat) (other : Option Nat)
  | text (board : Nat)

inductive ShelfAnswer where
  | nothing
  | flag (b : Bool)
  | number (n : Nat)
  | text (s : String)
  deriving DecidableEq

/-- Numbered boards. -/
abbrev Shelf := List Board

namespace Shelf

def ask (s : Shelf) (board : Nat) (question : Board → Except Failure ShelfAnswer) :
    Shelf × Except Failure ShelfAnswer :=
  match s[board]? with
  | none => (s, .ok .nothing)
  | some b => (s, question b)

def add (s : Shelf) (b : Board) : Shelf × Except Failure ShelfAnswer :=
  (s ++ [b], .ok (.number s.length))

def handle (s : Shelf) : ShelfRequest → Shelf × Except Failure ShelfAnswer
  | .declare board c =>
    match s[board]? with
    | none => (s, .ok .nothing)
    | some b =>
      match b.declare c with
      | .ok t => (s.set board t, .ok .nothing)
      | .error f => (s, .error f)
  | .contains board c => s.ask board fun b => .ok (.flag (decide (b.Contains c)))
  | .blocks board c => s.ask board fun b => .ok (.flag (decide (b.Blocks c)))
  | .allow board c => s.ask board fun b => (b.allow c).map fun _ => .nothing
  | .copy board =>
    match s[board]? with
    | none => (s, .ok .nothing)
    | some b => s.add b
  | .create width height cells =>
    match Board.create width height cells with
    | .ok b => s.add b
    | .error f => (s, .error f)
  | .equal board other =>
    s.ask board fun b => .ok (.flag (decide (other.bind (s[·]?) = some b)))
  | .text board => s.ask board fun b => (b.text.mapError .oversized).map .text

@[simp] theorem ask_fst (s : Shelf) (board : Nat) (question : Board → Except Failure ShelfAnswer) :
    (s.ask board question).1 = s := by
  rw [ask]
  split <;> rfl

theorem handle_copy {s : Shelf} {board : Nat} {b : Board} (here : s[board]? = some b) :
    s.handle (.copy board) = (s ++ [b], .ok (.number s.length)) := by
  simp only [handle, add, here]

theorem handle_declare_of_ne (s : Shelf) {board other : Nat} (c : Cell) (h : board ≠ other) :
    (s.handle (.declare board c)).1[other]? = s[other]? := by
  rw [handle]
  split
  · rfl
  · split
    · simp [h]
    · rfl

/-- No board is ever taken off a shelf. -/
theorem length_le_handle (s : Shelf) (r : ShelfRequest) : s.length ≤ (s.handle r).1.length := by
  cases r with
  | declare board c =>
    rw [handle]
    split
    · exact Nat.le_refl _
    · split <;> simp
  | contains | blocks | allow | equal | text => simp [handle]
  | copy board => rw [handle]; split <;> simp [add]
  | create width height cells => rw [handle]; split <;> simp [add]

end Shelf
end RobotGrid
