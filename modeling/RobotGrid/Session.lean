import RobotGrid.Log
/-!
# Sessions

A session is a board being set up and, from the first other command on, a robot on a copy of it.
Obstacle commands before the robot exists go to the board; afterwards the robot refuses them. A
refused command is a result and not an error; only an integer with too many digits, to be read or to
be written, ends an evaluation without a result. Main statement: recording aside, a session starts
on the board made from the same data.
-/

set_option autoImplicit false

namespace RobotGrid

structure CommandResult where
  command : String
  outcome : Except Fault (Option String)

namespace CommandResult

def ok (r : CommandResult) : Bool :=
  match r.outcome with
  | .ok _ => true
  | .error _ => false

def message (r : CommandResult) : Option String :=
  match r.outcome with
  | .ok m => m
  | .error f => some f.message

def error (r : CommandResult) : Option String :=
  match r.outcome with
  | .ok _ => none
  | .error f => some f.kind

def category (r : CommandResult) : Option Category :=
  match r.outcome with
  | .ok _ => none
  | .error f => some f.category

def report? (r : CommandResult) : Option String :=
  match r.outcome with
  | .ok m => m
  | .error _ => none

end CommandResult

def reports (results : List CommandResult) : List String := results.filterMap CommandResult.report?

structure Session where
  table : Board
  robot : Option Robot
  deriving DecidableEq

/-- What evaluating one line does: the session afterwards, the log entries, and the answer. -/
structure Evaluation where
  session : Session
  entries : List Entry
  answer : Except Oversized CommandResult

namespace Session

def accepted (s : Session) (entries : List Entry) (command : String) (m : Option String) :
    Evaluation :=
  ⟨s, entries, .ok ⟨command, .ok m⟩⟩

def refused (s : Session) (entries : List Entry) (command : String) (f : Fault) : Evaluation :=
  ⟨s, entries ++ [.record (.commandRejected command f)], .ok ⟨command, .error f⟩⟩

def failed (s : Session) (entries : List Entry) (command : String) : Failure → Evaluation
  | .fault f => s.refused entries command f
  | .oversized o => ⟨s, entries, .error o⟩

def placementEntries (r : Robot) (i : Instruction) : Failure → List Entry
  | .fault (.placementRejected reason) =>
    match r.target? i with
    | some t => if h : t.cell.Written then [.record (.placementRejected t h reason)] else []
    | none => []
  | _ => []

def setUp (s : Session) (command : String) (c : Cell) : Evaluation :=
  match s.table.declare c with
  | .ok table => { s with table }.accepted [.record (.obstacleAdded c)] command none
  | .error f => s.failed [] command f

def drive (s : Session) (before : List Entry) (command : String) (r : Robot) (i : Instruction) :
    Evaluation :=
  match r.execute i with
  | (next, .ok m) => { s with robot := some next }.accepted before command m
  | (next, .error f) =>
    { s with robot := some next }.failed (before ++ placementEntries r i f) command f

/-- Performs an instruction. The first that is no obstacle makes the robot, and then writes the
board for the log, whether or not the log shows it. -/
def perform (s : Session) (command : String) (i : Instruction) : Evaluation :=
  match s.robot, i with
  | none, .obstacle c => s.setUp command c
  | none, i =>
    let r := Robot.create s.table
    if h : s.table.Written then
      s.drive [.copy s.table, .record (.robotCreated s.table h)] command r i
    else ⟨{ s with robot := some r }, [.copy s.table], .error .written⟩
  | some r, i => s.drive [] command r i

def evaluate (s : Session) (line : String) : Evaluation :=
  let command := Text.trimmed line
  match Instruction.read command with
  | .error f => s.failed [] command f
  | .ok i => s.perform command i

/-- Evaluates the lines that are not blank. Where an evaluation ends without a result, so does the
run, and what was done before stays done. -/
def run (s : Session) : List String → Session × Except Oversized (List CommandResult)
  | [] => (s, .ok [])
  | line :: rest =>
    if Text.blankText line then s.run rest
    else
      let e := s.evaluate line
      match e.answer with
      | .error o => (e.session, .error o)
      | .ok r =>
        let (final, results) := e.session.run rest
        (final, results.map (r :: ·))

def declare (s : Session) (c : Cell) : Session × Except Failure Unit :=
  match s.table.declare c with
  | .ok table => ({ s with table }, .ok ())
  | .error f => (s, .error f)

/-- Puts obstacles on a board in order and records each, up to the first cell off the board. -/
def furnish : Board → List Cell → List Record × Except Failure Board
  | b, [] => ([], .ok b)
  | b, c :: rest =>
    match b.declare c with
    | .error f => ([], .error f)
    | .ok t =>
      let (records, answer) := furnish t rest
      (.obstacleAdded c :: records, answer)

def openRecorded (width height : Scalar) (cells : List Cell) :
    List Record × Except Failure Session :=
  match Board.bare width height with
  | .error f => ([], .error f)
  | .ok b =>
    let (records, answer) := furnish b cells
    (records, answer.map fun table => ⟨table, none⟩)

def start (width height : Scalar) (cells : List Cell) : Except Failure Session :=
  (openRecorded width height cells).2

theorem furnish_snd (b : Board) (cells : List Cell) : (furnish b cells).2 = b.declareAll cells := by
  induction cells generalizing b with
  | nil => rfl
  | cons c rest ih =>
    rw [furnish, Board.declareAll, List.foldlM_cons]
    cases e : b.declare c with
    | error f => rfl
    | ok t => exact ih t

/-- A session starts on the board made from the same data. -/
theorem start_eq (width height : Scalar) (cells : List Cell) :
    start width height cells =
      (Board.create width height cells).map fun table => ⟨table, none⟩ := by
  rw [start, openRecorded, Board.create]
  cases e : Board.bare width height with
  | error f => rfl
  | ok b =>
    change Except.map _ (furnish b cells).2 = _
    rw [furnish_snd]
    rfl

end Session
end RobotGrid
