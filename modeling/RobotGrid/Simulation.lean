import RobotGrid.Json
import RobotGrid.Session
/-!
# Simulations

A whole session from nothing: the board, its obstacles and the commands in, the results, the
reports and the final pose out, with the form that the service answers in.
-/

set_option autoImplicit false

namespace RobotGrid

def CommandResult.toJson (r : CommandResult) : Json :=
  .object [("command", .text r.command), ("ok", .flag r.ok), ("message", .optionalText r.message),
    ("error", .optionalText r.error), ("category", .optionalText (r.category.map Category.name))]

def Pose.toJson (p : Pose) : Json :=
  .object [("x", .int p.cell.x), ("y", .int p.cell.y), ("orientation", .text p.heading.name)]

structure Simulation where
  results : List CommandResult
  final : Option Pose

namespace Simulation

def reports (s : Simulation) : List String := RobotGrid.reports s.results

def finalJson (s : Simulation) : Json :=
  match s.final with
  | none => .null
  | some p => p.toJson

def resultsJson (s : Simulation) : Json := .list (s.results.map CommandResult.toJson)

def toJson (s : Simulation) : Json :=
  .object [("results", s.resultsJson), ("reports", .list (s.reports.map .text)),
    ("final", s.finalJson)]

end Simulation

def Session.pose? (s : Session) : Option Pose := s.robot.bind Robot.pose

def simulate (width height : Scalar) (cells : List Cell) (commands : List String) :
    Except Failure Simulation :=
  match Session.start width height cells with
  | .error f => .error f
  | .ok s =>
    match s.run commands with
    | (_, .error o) => .error (.oversized o)
    | (last, .ok results) => .ok ⟨results, last.pose?⟩

end RobotGrid
