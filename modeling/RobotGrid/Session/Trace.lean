import RobotGrid.Session
/-!
# Log traces

The log of a whole session at a given level: the records of opening it, then those of each line.
-/

set_option autoImplicit false

namespace RobotGrid

structure Trace where
  failure : Option Failure
  opening : List Record
  lines : List (List Record)

def Evaluation.records (order : Iteration) (e : Evaluation) : List Record :=
  e.entries.flatMap (Entry.records order)

namespace Session

def recordsOf (s : Session) (order : Iteration) : List String → List (List Record)
  | [] => []
  | line :: rest =>
    let e := s.evaluate line
    e.records order :: e.session.recordsOf order rest

/-- The log at a given level. A session that does not open has no lines. -/
def trace (least : Level) (width height : Scalar) (cells : List Cell) (lines : List String)
    (order : Iteration := .sorted) : Trace :=
  match openRecorded width height cells with
  | (records, .error f) => ⟨some f, least.keep records, []⟩
  | (records, .ok s) => ⟨none, least.keep records, (s.recordsOf order lines).map least.keep⟩

theorem length_recordsOf (s : Session) (order : Iteration) (lines : List String) :
    (s.recordsOf order lines).length = lines.length := by
  induction lines generalizing s with
  | nil => rfl
  | cons line rest ih => simp [recordsOf, ih]

end Session
end RobotGrid
