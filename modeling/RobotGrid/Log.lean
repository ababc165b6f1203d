import RobotGrid.Robot
/-!
# Log records

What the engine records while it works, the level of each kind of record, and the least level that
a configured name lets through. Two names stand for the layout of the log and so for no level.
-/

set_option autoImplicit false

namespace RobotGrid

inductive Level where
  | debug
  | info
  | warning
  | error
  | critical
  deriving DecidableEq

/-- Parts of the layout of the log, which have names of the same form as the levels. -/
inductive LogLayout where
  | lineForm
  | styles
  deriving DecidableEq

namespace Level

def all : List Level := [.debug, .info, .warning, .error, .critical]

def name : Level → String
  | .debug => "debug"
  | .info => "info"
  | .warning => "warning"
  | .error => "error"
  | .critical => "critical"

def rank : Level → Nat
  | .debug => 0
  | .info => 1
  | .warning => 2
  | .error => 3
  | .critical => 4

def admits (least l : Level) : Bool := decide (least.rank ≤ l.rank)

def names : List (String × Level) :=
  [("NOTSET", .debug), ("DEBUG", .debug), ("INFO", .info), ("WARN", .warning),
   ("WARNING", .warning), ("ERROR", .error), ("CRITICAL", .critical), ("FATAL", .critical)]

def layoutNames : List (String × LogLayout) := [("BASIC_FORMAT", .lineForm), ("_STYLES", .styles)]

/-- The least level for a configured name in any case; an unknown name counts as a warning. -/
def ofName (name : String) : Except LogLayout Level :=
  let name := Text.upperText name
  match layoutNames.lookup name with
  | some part => .error part
  | none => .ok ((names.lookup name).getD .warning)

def passing (least : Level) : List Level := all.filter least.admits

end Level

inductive Record where
  | obstacleAdded (cell : Cell)
  | robotCreated (board : Board) (written : board.Written)
  | placementRejected (target : Pose) (written : target.cell.Written) (reason : Fault)
  | commandRejected (command : String) (fault : Fault)
  deriving DecidableEq

namespace Record

def event : Record → String
  | .obstacleAdded _ => "obstacle_added"
  | .robotCreated _ _ => "robot_created"
  | .placementRejected _ _ _ => "placement_rejected"
  | .commandRejected _ _ => "command_rejected"

def level : Record → Level
  | .commandRejected _ _ => .info
  | _ => .debug

def fields : Record → List (String × Scalar)
  | .obstacleAdded cell => [("x", .int cell.x), ("y", .int cell.y)]
  | .robotCreated board written => [("tabletop", .text (board.shown written))]
  | .placementRejected target written reason =>
    [("target", .text (target.shown written)), ("reason", .text reason.message)]
  | .commandRejected command fault =>
    [("command", .text command), ("error", .text fault.kind), ("reason", .text fault.message)]

end Record

/-- An order in which the cells of a set are met. -/
structure Iteration where
  list : CellSet → List Cell
  perm : ∀ s, (list s).Perm s.cells

def Iteration.sorted : Iteration := ⟨CellSet.cells, fun _ => List.Perm.refl _⟩

/-- What is added to the log at once: a record, or those of copying a board, on which each obstacle
is put again in an order that is not told. -/
inductive Entry where
  | record (r : Record)
  | copy (b : Board)
  deriving DecidableEq

def Entry.records (order : Iteration) : Entry → List Record
  | .record r => [r]
  | .copy b => (order.list b.obstacles).map .obstacleAdded

def Level.keep (least : Level) (records : List Record) : List Record :=
  records.filter fun r => least.admits r.level

theorem Level.keep_debug (records : List Record) : Level.debug.keep records = records :=
  List.filter_eq_self.2 fun r _ => by simp [Level.admits, Level.rank]

end RobotGrid
