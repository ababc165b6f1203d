import RobotGrid.Robot
import RobotGrid.Shelf
/-!
# Workbenches

Boards on a shelf and a robot that keeps one of them, as one caller holds them. The caller knows the
number of the source board, from which the robot was made, and of each copy of the robot's board
that it has been shown, and puts obstacles on them. The robot knows the number of its own board. So
who reaches whose board is a matter of the numbers: a robot takes a copy of the source when it is
made, and shows a copy of that when it is looked at.
-/

set_option autoImplicit false

namespace RobotGrid

/-- A shelf, the numbers of the boards that the caller and the robot keep, and the robot's pose. -/
structure Workbench where
  shelf : Shelf
  source : Nat
  own : Nat
  views : List Nat
  pose : Option Pose
  source_lt : source < shelf.length
  own_lt : own < shelf.length

inductive Handling where
  | evaluate (line : String)
  | execute (i : Instruction)
  | report
  | declareOnSource (c : Cell)
  | look
  | declareOnView (view : Nat) (c : Cell)
  | compare
  | recreate
  deriving DecidableEq

def ShelfAnswer.ofText : Option String → ShelfAnswer
  | none => .nothing
  | some s => .text s

namespace Workbench

def robot (w : Workbench) : Robot := ⟨w.shelf.get ⟨w.own, w.own_lt⟩, w.pose⟩

def sourceBoard (w : Workbench) : Board := w.shelf.get ⟨w.source, w.source_lt⟩

/-- The bench behind what the robot has done to itself and to its board. -/
def put (w : Workbench) (r : Robot) : Workbench :=
  { w with
    shelf := w.shelf.set w.own r.board
    pose := r.pose
    source_lt := by simpa using w.source_lt
    own_lt := by simpa using w.own_lt }

def request (w : Workbench) (r : ShelfRequest) : Workbench × Except Failure ShelfAnswer :=
  ({ w with
    shelf := (w.shelf.handle r).1
    source_lt := Nat.lt_of_lt_of_le w.source_lt (w.shelf.length_le_handle r)
    own_lt := Nat.lt_of_lt_of_le w.own_lt (w.shelf.length_le_handle r) }, (w.shelf.handle r).2)

def make (shelf : Shelf) (source : Nat) (views : List Nat) (h : source < shelf.length) :
    Workbench where
  shelf := (shelf.handle (.copy source)).1
  source := source
  own := shelf.length
  views := views
  pose := none
  source_lt := Nat.lt_of_lt_of_le h (shelf.length_le_handle (.copy source))
  own_lt := by simp [Shelf.handle_copy (List.getElem?_eq_getElem h)]

def ofBoard (source : Board) : Workbench := make [source] 0 [] Nat.one_pos

def look (w : Workbench) : Workbench :=
  { (w.request (.copy w.own)).1 with views := w.views ++ [w.shelf.length] }

def handle (w : Workbench) : Handling → Workbench × Except Failure ShelfAnswer
  | .evaluate line =>
    let (robot, answer) := w.robot.evaluate line
    (w.put robot, answer.map .ofText)
  | .execute i =>
    let (robot, answer) := w.robot.execute i
    (w.put robot, answer.map .ofText)
  | .report => (w, w.robot.report.map .text)
  | .declareOnSource c => w.request (.declare w.source c)
  | .look => (w.look, .ok .nothing)
  | .declareOnView view c =>
    match w.views[view]? with
    | none => (w, .ok .nothing)
    | some board => w.request (.declare board c)
  | .compare => (w.request (.copy w.own)).1.request (.equal w.shelf.length (some w.source))
  | .recreate => (make w.shelf w.source w.views w.source_lt, .ok .nothing)

end Workbench
end RobotGrid
